import ApiContract.FileTree
import ApiContract.Proofs.Outcome
import Mathlib.Data.String.Basic

set_option autoImplicit false

namespace ApiContract.FilePath

-- A name that leads into the directory where it is looked up.
structure Plain (name : String) : Prop where
  nonempty : name ≠ ""
  noSlash : '/' ∉ name.toList
  notHere : name ≠ "."
  notAbove : name ≠ ".."

theorem names_of_slash {path : String} {front back : List Char}
    (split : path.toList = front ++ '/' :: back) :
    names path = names (String.ofList front) ++ names (String.ofList back) := by
  simp only [names, String.splitToList_of_valid, split, String.toList_ofList]
  rw [List.splitOnP_append_cons _ _ (by rfl), List.map_append, List.filter_append]

theorem names_eq_singleton {name : String} (nonempty : name ≠ "") (noSlash : '/' ∉ name.toList) :
    names name = [name] := by
  have whole : name.toList.splitOnP (· == '/') = [name.toList] :=
    List.splitOnP_eq_singleton fun c hc => by simpa using fun h : c = '/' => noSlash (h ▸ hc)
  simp [names, String.splitToList_of_valid, whole, nonempty]

@[simp] theorem names_empty : names "" = [] := by
  simp [names, String.splitToList_of_valid]

theorem names_child {directory name : String} (plain : Plain name) :
    names (child directory name) = names directory ++ [name] := by
  have last : names name = [name] := names_eq_singleton plain.nonempty plain.noSlash
  rw [child]
  split
  case isTrue closed =>
    by_cases top : directory = ""
    · simp [top, last]
    · obtain ⟨front, ends⟩ : ∃ front, directory.toList = front ++ ['/'] := by
        simpa [top, List.getLast?_eq_some_iff] using closed
      have split : (directory ++ name).toList = front ++ '/' :: name.toList := by simp [ends]
      rw [names_of_slash ends, names_of_slash split]
      simp [last]
  case isFalse =>
    have split : (directory ++ "/" ++ name).toList = directory.toList ++ '/' :: name.toList := by
      simp
    rw [names_of_slash split]
    simp [last]

end ApiContract.FilePath

namespace ApiContract.FileTree

inductive Node where
  | file (text : Option String)
  | directory
  deriving DecidableEq

def node : FileTree → Node
  | file text => .file text
  | directory _ => .directory

def nodeAt? (t : FileTree) (place : List String) : Option Node :=
  (t.get? place).map node

section Put

variable {t new : FileTree} {parent place rest : List String} {name : String}

theorem get?_append (front back : List String) :
    t.get? (front ++ back) = (t.get? front).bind (get? back) := by
  induction front generalizing t with
  | nil => rfl
  | cons first later ih =>
    cases t with
    | file text => rfl
    | directory entries =>
      cases found : entries.lookup first <;> simp [get?, found, ih]

theorem nodeAt?_eq_directory_iff :
    t.nodeAt? place = some .directory ↔ ∃ entries, t.get? place = some (directory entries) := by
  rw [nodeAt?, Option.map_eq_some_iff]
  constructor
  · rintro ⟨u, found, isDirectory⟩
    cases u with
    | file text => simp [node] at isDirectory
    | directory entries => exact ⟨entries, found⟩
  · rintro ⟨entries, found⟩
    exact ⟨directory entries, found, rfl⟩

-- Nothing lies in what is not there, or is a file.
theorem get?_beneath (bare : t.nodeAt? place ≠ some .directory) (beneath : rest ≠ []) :
    t.get? (place ++ rest) = none := by
  rw [get?_append]
  cases found : t.get? place with
  | none => rfl
  | some u =>
    cases u with
    | file text =>
      obtain ⟨first, later, rfl⟩ := List.exists_cons_of_ne_nil beneath
      rfl
    | directory entries => exact absurd (nodeAt?_eq_directory_iff.mpr ⟨entries, found⟩) bare

theorem nodeAt?_front {front back : List String} (inside : back ≠ [])
    (present : t.nodeAt? (front ++ back) ≠ none) : t.nodeAt? front = some .directory := by
  by_contra bare
  exact present (by rw [nodeAt?, get?_beneath bare inside, Option.map_none])

theorem lookup_setEntry (entries : List (String × FileTree)) (other : String) :
    (setEntry name new entries).lookup other =
      if other = name then some new else entries.lookup other := by
  induction entries with
  | nil => by_cases here : other = name <;> simp [setEntry, List.lookup_cons, here, beq_false_of_ne]
  | cons e es ih =>
    obtain ⟨key, child⟩ := e
    by_cases same : key = name
    · by_cases here : other = name <;>
        simp [setEntry, List.lookup_cons, same, here, beq_false_of_ne]
    · by_cases here : other = key
      · simp [setEntry, same, here]
      · simp [setEntry, List.lookup_cons, same, beq_false_of_ne here, ih]

-- What has nothing in it, put into a directory, changes nothing but its own place.
theorem nodeAt?_put (inside : t.nodeAt? parent = some .directory)
    (bare : t.nodeAt? (parent ++ [name]) ≠ some .directory)
    (leaf : ∀ rest, rest ≠ [] → new.get? rest = none) (place : List String) :
    (t.put (parent ++ [name]) new).nodeAt? place =
      if place = parent ++ [name] then some new.node else t.nodeAt? place := by
  -- A place leads into the entry that is replaced or into one that stays, step by step.
  induction parent generalizing t place with
  | nil =>
    obtain ⟨entries, rfl⟩ : ∃ entries, t = directory entries := by
      simpa [get?] using nodeAt?_eq_directory_iff.mp inside
    rcases place with _ | ⟨first, rest⟩
    · rfl
    by_cases here : first = name
    · subst here
      have after : (put (directory entries) [first] new).nodeAt? (first :: rest) =
          new.nodeAt? rest := by
        simp [put, nodeAt?, get?, lookup_setEntry]
      rw [List.nil_append, after]
      by_cases beneath : rest = []
      · simp [beneath, nodeAt?, get?]
      · have before : get? (first :: rest) (directory entries) = none := get?_beneath bare beneath
        simp [nodeAt?, leaf rest beneath, before, beneath]
    · simp [put, nodeAt?, get?, lookup_setEntry, here]
  | cons first later ih =>
    obtain ⟨under, present⟩ := nodeAt?_eq_directory_iff.mp inside
    cases t with
    | file text => simp [get?] at present
    | directory entries =>
      obtain ⟨child, listed, -⟩ := Option.bind_eq_some_iff.mp present
      have below (rest : List String) :
          (directory entries).nodeAt? (first :: rest) = child.nodeAt? rest := by
        simp [nodeAt?, get?, listed]
      rw [below] at inside
      rw [List.cons_append, below] at bare
      rcases place with _ | ⟨other, rest⟩
      · rfl
      by_cases here : other = first
      · subst here
        have after : (put (directory entries) (other :: later ++ [name]) new).nodeAt?
            (other :: rest) = (child.put (later ++ [name]) new).nodeAt? rest := by
          simp [put, nodeAt?, get?, lookup_setEntry, listed]
        rw [after, ih inside bare, below]
        simp
      · simp [put, nodeAt?, get?, lookup_setEntry, here]

end Put

def lead (path : String) : List String :=
  (FilePath.names path).foldl step []

/-- The places that a path leads through, from the top to its end. -/
def way (path : String) : List (List String) :=
  (FilePath.names path).scanl step []

theorem lead_mem_way (path : String) : lead path ∈ way path :=
  List.mem_of_getLast? List.getLast?_scanl

def DiffersOnlyAt (changed : List String → Prop) (before after : FileTree) : Prop :=
  ∀ place, ¬ changed place → after.nodeAt? place = before.nodeAt? place

section Make

variable {t made : FileTree} {place : List String} {name : String}

theorem step_of_bare (inside : t.nodeAt? place = some .directory)
    (bare : t.nodeAt? (step place name) ≠ some .directory) :
    step place name = place ++ [name] := by
  -- Dots lead to a directory that is there, so that the name is none of them.
  unfold step at bare ⊢
  split at bare
  case isTrue => exact absurd inside bare
  case isFalse notHere =>
    split at bare
    case isTrue above =>
      rcases place.eq_nil_or_concat' with rfl | ⟨front, last, rfl⟩
      · exact absurd inside bare
      · have outer : t.nodeAt? front = some .directory :=
          nodeAt?_front (List.cons_ne_nil last []) (by simp [inside])
        exact absurd outer (by simpa using bare)
    case isFalse notAbove => rw [if_neg notHere, if_neg notAbove]

theorem nodeAt?_put_empty (inside : t.nodeAt? place = some .directory)
    (missing : t.get? (place ++ [name]) = none) (other : List String) :
    (t.put (place ++ [name]) empty).nodeAt? other =
      if other = place ++ [name] then some .directory else t.nodeAt? other := by
  refine nodeAt?_put inside (by simp [nodeAt?, missing]) (fun rest beneath => ?_) other
  obtain ⟨first, later, rfl⟩ := List.exists_cons_of_ne_nil beneath
  rfl

theorem makeFrom_ok {names : List String} (inside : t.nodeAt? place = some .directory)
    (run : t.makeFrom place names = (.ok (), made)) :
    DiffersOnlyAt (fun q => q ∈ names.scanl step place ∧ t.nodeAt? q = none) t made := by
  induction names generalizing t place with
  | nil =>
    cases run
    exact fun _ _ => rfl
  | cons name rest ih =>
    -- A directory is made only where there is nothing, and all later ones lie on the way from it.
    intro q same
    simp only [List.scanl_cons, List.mem_cons, not_and] at same
    rw [makeFrom] at run
    split at run
    case h_1 entries present =>
      have further : t.nodeAt? (step place name) = some .directory :=
        nodeAt?_eq_directory_iff.mpr ⟨entries, present⟩
      exact ih further run q fun changed => same (.inr changed.1) changed.2
    case h_2 => cases run
    case h_3 missing =>
      split at run
      case isTrue => cases run
      split at run
      case isTrue => cases run
      case isFalse =>
        have bare : t.nodeAt? (step place name) ≠ some .directory := by simp [nodeAt?, missing]
        have next := step_of_bare inside bare
        rw [next] at run missing same
        have put := nodeAt?_put_empty inside missing
        have away : q ≠ place ++ [name] := by
          rintro rfl
          refine same (.inr ?_) (by simp [nodeAt?, missing])
          cases rest <;> simp
        rw [ih (by simp [put]) run q, put, if_neg away]
        rintro ⟨onWay, none⟩
        rw [put, if_neg away] at none
        exact same (.inr onWay) none

theorem names?_ok {path : String} {names : List String} (found : names? path = .ok names) :
    names = FilePath.names path := by
  unfold names? at found
  split at found
  · cases found
  split at found
  · cases found
  split at found
  · cases found
  · cases found
    rfl

theorem makeDirectory_ok {path : String} (run : t.makeDirectory path = (.ok (), made)) :
    DiffersOnlyAt (fun q => q ∈ way path ∧ t.nodeAt? q = none) t made := by
  unfold makeDirectory at run
  split at run
  case isTrue =>
    cases run
    exact fun _ _ => rfl
  case isFalse notTop =>
    split at run
    case h_1 names entries found =>
      rw [names?_ok found] at run
      exact makeFrom_ok rfl run
    case h_2 => cases run
    case h_3 => cases run

end Make

section Write

variable {t written : FileTree} {place : List String} {directory name text : String}

theorem locate_ok {names : List String} {found : List String}
    (located : locate t place (names ++ [name]) = .ok found) :
    found = step (names.foldl step place) name ∧
      ∀ q ∈ names.scanl step place, t.nodeAt? q = some .directory := by
  induction names generalizing place with
  | nil =>
    rw [List.nil_append, locate] at located
    split at located
    case h_1 => cases located
    case h_2 => cases located
    case h_3 entries present =>
      split at located
      · cases located
      · cases located
        simpa using nodeAt?_eq_directory_iff.mpr ⟨entries, present⟩
  | cons first rest ih =>
    rw [List.cons_append, locate] at located
    split at located
    case h_1 => cases located
    case h_2 => cases located
    case h_3 entries present =>
      split at located
      case isTrue => cases located
      case isFalse =>
        obtain ⟨last, beyond⟩ := ih located
        have here := nodeAt?_eq_directory_iff.mpr ⟨entries, present⟩
        exact ⟨last, by simpa [here] using beyond⟩

theorem locate_child {names found : List String} (plain : FilePath.Plain name)
    (split : names? (FilePath.child directory name) = .ok names)
    (located : locate t [] names = .ok found) :
    found = lead directory ++ [name] ∧ ∀ q ∈ way directory, t.nodeAt? q = some .directory := by
  rw [names?_ok split, FilePath.names_child plain] at located
  obtain ⟨last, throughout⟩ := locate_ok located
  rw [step, if_neg plain.notHere, if_neg plain.notAbove] at last
  exact ⟨last, throughout⟩

theorem nodeAt?_put_file (inside : t.nodeAt? place = some .directory)
    (bare : t.nodeAt? (place ++ [name]) ≠ some .directory) (q : List String) :
    (t.put (place ++ [name]) (file (some text))).nodeAt? q =
      if q = place ++ [name] then some (.file (some text)) else t.nodeAt? q := by
  refine nodeAt?_put inside bare (fun rest beneath => ?_) q
  obtain ⟨first, later, rfl⟩ := List.exists_cons_of_ne_nil beneath
  rfl

theorem write_ok {path : String} (run : t.write path text = .ok written) :
    ∃ names found, names? path = .ok names ∧ locate t [] names = .ok found ∧
      t.nodeAt? found ≠ some .directory ∧ endsInSlash path = false ∧
      written = t.put found (file (some text)) := by
  obtain ⟨names, split, run⟩ := bind_eq_ok.mp run
  obtain ⟨found, located, run⟩ := bind_eq_ok.mp run
  split at run
  case h_1 => cases run
  case h_2 bare =>
    split at run
    case isTrue => cases run
    case isFalse noSlash =>
      cases run
      refine ⟨names, found, split, located, fun occupied => ?_, by simpa using noSlash, rfl⟩
      obtain ⟨entries, present⟩ := nodeAt?_eq_directory_iff.mp occupied
      exact bare entries present

theorem write_child (plain : FilePath.Plain name)
    (run : t.write (FilePath.child directory name) text = .ok written) :
    (∀ q ∈ way directory, t.nodeAt? q = some .directory) ∧
      t.nodeAt? (lead directory ++ [name]) ≠ some .directory ∧
      ∀ q, written.nodeAt? q =
        if q = lead directory ++ [name] then some (.file (some text)) else t.nodeAt? q := by
  obtain ⟨names, found, split, located, bare, -, rfl⟩ := write_ok run
  obtain ⟨rfl, throughout⟩ := locate_child plain split located
  exact ⟨throughout, bare, nodeAt?_put_file (throughout _ (lead_mem_way directory)) bare⟩

theorem directory_of_write {q : List String} (plain : FilePath.Plain name)
    (run : t.write (FilePath.child directory name) text = .ok written)
    (before : t.nodeAt? q = some .directory) : written.nodeAt? q = some .directory := by
  obtain ⟨-, unoccupied, changed⟩ := write_child plain run
  have other : q ≠ lead directory ++ [name] := by
    rintro rfl
    exact unoccupied before
  rw [changed, if_neg other, before]

end Write

section Read

variable {t u written : FileTree} {place found names : List String}
  {directory name text content : String}

theorem nodeAt?_eq_file_iff {content : Option String} :
    u.nodeAt? place = some (.file content) ↔ u.get? place = some (file content) := by
  rw [nodeAt?, Option.map_eq_some_iff]
  constructor
  · rintro ⟨v, present, isFile⟩
    cases v with
    | file other =>
      cases isFile
      exact present
    | directory entries => simp [node] at isFile
  · intro present
    exact ⟨file content, present, rfl⟩

-- Names still lead where they did as long as all directories are left.
theorem locate_of_directories
    (stay : ∀ q, t.nodeAt? q = some .directory → u.nodeAt? q = some .directory)
    (located : locate t place names = .ok found) : locate u place names = .ok found := by
  induction names generalizing place with
  | nil => exact located
  | cons name rest ih =>
    rw [locate] at located
    split at located
    case h_1 => cases located
    case h_2 => cases located
    case h_3 entries present =>
      have before : t.nodeAt? place = some .directory :=
        nodeAt?_eq_directory_iff.mpr ⟨entries, present⟩
      obtain ⟨others, after⟩ := nodeAt?_eq_directory_iff.mp (stay place before)
      rw [locate, after]
      split at located
      case isTrue => cases located
      case isFalse short => simpa [short] using ih located

theorem read_of_located {path : String} (split : names? path = .ok names)
    (located : locate u [] names = .ok found) (noSlash : endsInSlash path = false)
    (present : u.nodeAt? found = some (.file (some content))) : u.read path = .ok content := by
  simp only [read, split, located, nodeAt?_eq_file_iff.mp present, noSlash, bind, Except.bind]
  rfl

theorem read_child (plain : FilePath.Plain name)
    (run : t.write (FilePath.child directory name) text = .ok written)
    (stay : ∀ q, t.nodeAt? q = some .directory → u.nodeAt? q = some .directory)
    (present : u.nodeAt? (lead directory ++ [name]) = some (.file (some content))) :
    u.read (FilePath.child directory name) = .ok content := by
  obtain ⟨names, found, split, located, -, noSlash, -⟩ := write_ok run
  obtain ⟨rfl, -⟩ := locate_child plain split located
  exact read_of_located split (locate_of_directories stay located) noSlash present

/-- What is written to a path is what the path holds, whatever way it leads to its end. -/
theorem read_write {path : String} (run : t.write path text = .ok written) :
    written.read path = .ok text := by
  obtain ⟨names, found, split, located, bare, noSlash, rfl⟩ := write_ok run
  rcases names.eq_nil_or_concat' with rfl | ⟨front, name, rfl⟩
  · cases located
    exact read_of_located split rfl noSlash rfl
  · obtain ⟨rfl, throughout⟩ := locate_ok located
    have inside : t.nodeAt? (front.foldl step []) = some .directory :=
      throughout _ (List.mem_of_getLast? List.getLast?_scanl)
    have next := step_of_bare inside bare
    rw [next] at bare located ⊢
    have put : ∀ q, (t.put _ (file (some text))).nodeAt? q = _ := nodeAt?_put_file inside bare
    refine read_of_located split (locate_of_directories (fun q before => ?_) located) noSlash
      (by rw [put, if_pos rfl])
    have other : q ≠ front.foldl step [] ++ [name] := by
      rintro rfl
      exact bare before
    rw [put, if_neg other, before]

end Read

end ApiContract.FileTree
