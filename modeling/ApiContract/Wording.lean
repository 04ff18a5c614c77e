set_option autoImplicit false

namespace ApiContract

/-- What the packages that read texts and arguments say of those they refuse. -/
class Wording where
  jsonContract : String → String
  yamlContract : String → String
  yamlConfig : String → String
  tomlConfig : String → String
  arguments : List String → String

-- A run that is not told their words says nothing in their place.
instance Wording.silent : Wording where
  jsonContract _ := ""
  yamlContract _ := ""
  yamlConfig _ := ""
  tomlConfig _ := ""
  arguments _ := ""

end ApiContract
