import ApiContract.Request

set_option autoImplicit false

namespace ApiContract

/-- What tells the requests of the management interface from others of the same name. -/
def managementToken : String := "SpectraS3"

-- The simple name without `Handler`; a management request is marked as one.
def Request.sdkName (r : Request) : String :=
  let base := Name.withoutHandler (Name.simple r.name)
  if r.family = .managementApi && !Name.mentions base managementToken then
    Name.insertBeforeTail base managementToken
  else base

end ApiContract
