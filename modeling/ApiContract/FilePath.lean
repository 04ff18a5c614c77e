import ApiContract.Text.Ascii
import ApiContract.Text.Search

set_option autoImplicit false

namespace ApiContract.FilePath

-- The names of a path. Slashes in a row count as one.
def names (path : String) : List String :=
  ((path.splitToList (· == '/')).filter (· ≠ ""))

def child (directory name : String) : String :=
  if directory = "" || directory.toList.getLast? == some '/' then directory ++ name
  else directory ++ "/" ++ name

/-- What follows the last dot of a name that does not begin with it. -/
def extension? (path : String) : Option String := do
  let name ← ((names path).filter (· ≠ ".")).getLast?
  if name = ".." then none
  else
    let (stem, extension) ← Text.splitLast? '.' name.toList
    if stem.isEmpty then none else some (String.ofList extension)

def hasExtension (extension path : String) : Bool :=
  (extension? path).any (Text.sameIgnoringCase extension)

end ApiContract.FilePath
