import ApiContract.FilePath
import ApiContract.Storage

set_option autoImplicit false

namespace ApiContract

-- Files and directories held in memory, as a place to run in. The run works at the top of the
-- tree, which is its own parent, so that paths lead from there whether they are absolute or not.
inductive FileTree where
  -- A file; it has no text if its bytes are not the encoding of one.
  | file (text : Option String)
  | directory (entries : List (String × FileTree))

namespace FileTree

def empty : FileTree :=
  directory []

def get? : List String → FileTree → Option FileTree
  | [], t => some t
  | name :: rest, directory entries => (entries.lookup name).bind (get? rest)
  | _ :: _, file _ => none

def setEntry (name : String) (t : FileTree) : List (String × FileTree) → List (String × FileTree)
  | [] => [(name, t)]
  | e :: es => if e.1 = name then (name, t) :: es else e :: setEntry name t es

def put (t : FileTree) (place : List String) (new : FileTree) : FileTree :=
  match place with
  | [] => new
  | name :: rest =>
    let entries := match t with
      | directory entries => entries
      | file _ => []
    let child := (entries.lookup name).getD empty
    directory (setEntry name (put child rest new) entries)

def ofList (files : List (String × FileTree)) : FileTree :=
  files.foldl (fun t f => t.put (FilePath.names f.1) f.2) empty

mutual

def files (path : List String) : FileTree → List (List String × Option String)
  | file text => [(path, text)]
  | directory entries => filesOf path entries

def filesOf (path : List String) :
    List (String × FileTree) → List (List String × Option String)
  | [] => []
  | (name, t) :: rest => files (path ++ [name]) t ++ filesOf path rest

end

def toList (t : FileTree) : List (String × Option String) :=
  (t.files []).map fun f => ("/".intercalate f.1, f.2)

-- How many bytes a name has at most.
def nameLimit : Nat := 255

def pathLimit : Nat := 4096

def names? (path : String) : Except FileError (List String) :=
  if path.toList.contains '\x00' then .error .nulInPath
  else if path = "" then .error .notFound
  else if pathLimit ≤ path.utf8ByteSize then .error .nameTooLong
  else .ok (FilePath.names path)

-- Where a name leads from a place: a dot stays there, two dots lead back.
def step (place : List String) (name : String) : List String :=
  if name = "." then place
  else if name = ".." then place.dropLast
  else place ++ [name]

/-- Where names lead from a place. All but the last of them must lead to a directory. -/
def locate (t : FileTree) (place : List String) : List String → Except FileError (List String)
  | [] => .ok place
  | name :: rest =>
    match t.get? place with
    | none => .error .notFound
    | some (file _) => .error .notDirectory
    | some (directory _) =>
      if nameLimit < name.utf8ByteSize then .error .nameTooLong
      else locate t (step place name) rest

def endsInSlash (path : String) : Bool :=
  path.toList.getLast? == some '/'

def read (path : String) (t : FileTree) : Except FileError String := do
  let place ← locate t [] (← names? path)
  match t.get? place with
  | none => .error .notFound
  | some (directory _) => .error .isDirectory
  | some (file text) =>
    if endsInSlash path then .error .notDirectory
    else match text with
      | some text => .ok text
      | none => .error .notText

def write (path text : String) (t : FileTree) : Except FileError FileTree := do
  let place ← locate t [] (← names? path)
  match t.get? place with
  | some (directory _) => .error .isDirectory
  | _ => if endsInSlash path then .error .isDirectory else .ok (t.put place (file (some text)))

/-- Makes the directories that names lead to from a place. Those that have been made stay, even if
a later one cannot be. -/
def makeFrom (t : FileTree) (place : List String) :
    List String → Except FileError Unit × FileTree
  | [] => (.ok (), t)
  | name :: rest =>
    let next := step place name
    match t.get? next with
    | some (directory _) => makeFrom t next rest
    -- A file is in the way where a directory is to be, or is passed through as if it were one.
    | some (file _) => (.error (if rest.isEmpty then .exists else .notDirectory), t)
    | none =>
      if nameLimit < name.utf8ByteSize then (.error .nameTooLong, t)
      -- A path that ends in a dot leads into a directory; the last one is not made for it.
      else if rest ≠ [] ∧ ∀ later ∈ rest, later = "." then (.error .notFound, t)
      else makeFrom (t.put next empty) next rest

def makeDirectory (path : String) (t : FileTree) : Except FileError Unit × FileTree :=
  if path = "" then (.ok (), t)
  else match names? path, t with
    | .ok names, directory _ => makeFrom t [] names
    | .ok _, file _ => (.error .notDirectory, t)
    | .error e, _ => (.error e, t)

instance : Storage (StateM FileTree) where
  read path := do pure ((← get).read path)
  write path text := do
    match (← get).write path text with
    | .ok t => set t; pure (.ok ())
    | .error e => pure (.error e)
  makeDirectory path := modifyGet (FileTree.makeDirectory path)

end FileTree

end ApiContract
