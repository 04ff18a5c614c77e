import ApiContract.Text.Hex

set_option autoImplicit false

namespace ApiContract.Toml

def isTextChar (c : Char) : Bool :=
  c == '\t' || (0x20 ≤ c.toNat && c.toNat != 0x7F)

def isBlank (c : Char) : Bool :=
  c == ' ' || c == '\t'

def push (c : Char) (read : List Char × List Char) : List Char × List Char :=
  (c :: read.1, read.2)

def escaped? (c : Char) : Option Char :=
  match c with
  | '"' => some '"'
  | '\\' => some '\\'
  | 'b' => some '\x08'
  | 'f' => some '\x0c'
  | 'n' => some '\n'
  | 'r' => some '\r'
  | 't' => some '\t'
  | _ => none

def escape? (cs : List Char) : Option (Char × List Char) :=
  match cs with
  | 'u' :: rest =>
    if rest.length < 4 then none else (Text.hexChar? (rest.take 4)).map (·, rest.drop 4)
  | 'U' :: rest =>
    if rest.length < 8 then none else (Text.hexChar? (rest.take 8)).map (·, rest.drop 8)
  | c :: rest => (escaped? c).map (·, rest)
  | [] => none

theorem length_of_escape? {cs rest : List Char} {c : Char} (h : escape? cs = some (c, rest)) :
    rest.length < cs.length := by
  unfold escape? at h
  split at h
  case h_1 =>
    split at h
    · simp at h
    · simp only [Option.map_eq_some_iff, Prod.mk.injEq] at h
      obtain ⟨_, _, _, rfl⟩ := h
      rw [List.length_drop, List.length_cons]
      omega
  case h_2 =>
    split at h
    · simp at h
    · simp only [Option.map_eq_some_iff, Prod.mk.injEq] at h
      obtain ⟨_, _, _, rfl⟩ := h
      rw [List.length_drop, List.length_cons]
      omega
  case h_3 =>
    simp only [Option.map_eq_some_iff, Prod.mk.injEq] at h
    obtain ⟨_, _, _, rfl⟩ := h
    rw [List.length_cons]
    omega
  case h_4 => simp at h

def basic? (cs : List Char) : Option (List Char × List Char) :=
  match cs with
  | [] => none
  | '"' :: rest => some ([], rest)
  | '\\' :: rest =>
    match _h : escape? rest with
    | none => none
    | some (c, rest') => (basic? rest').map (push c)
  | c :: rest => if isTextChar c then (basic? rest).map (push c) else none
termination_by cs.length
decreasing_by
  · have := length_of_escape? (by assumption)
    rw [List.length_cons]
    omega
  · rw [List.length_cons]
    omega

def literal? : List Char → Option (List Char × List Char)
  | [] => none
  | '\'' :: rest => some ([], rest)
  | c :: rest => if isTextChar c then (literal? rest).map (push c) else none

/-- After three quotes: one or two more of them still belong to the text. -/
def endLong (quote : Char) (rest : List Char) : List Char × List Char :=
  let more := (rest.takeWhile (· == quote)).take 2
  (more, rest.drop more.length)

def longLiteral? : List Char → Option (List Char × List Char)
  | [] => none
  | '\'' :: '\'' :: '\'' :: rest => some (endLong '\'' rest)
  | c :: rest => if isTextChar c || c == '\n' then (longLiteral? rest).map (push c) else none

/-- What follows a backslash at the end of a line: the blanks and breaks after it do not count. -/
def continued? (cs : List Char) : Option (List Char) :=
  match cs.dropWhile isBlank with
  | '\n' :: rest => some (rest.dropWhile fun c => isBlank c || c == '\n')
  | _ => none

theorem length_of_continued? {cs rest : List Char} (h : continued? cs = some rest) :
    rest.length < cs.length := by
  unfold continued? at h
  split at h
  case h_1 tail found =>
    simp only [Option.some.injEq] at h
    have dropped := (List.dropWhile_suffix isBlank (l := cs)).length_le
    have skipped := (List.dropWhile_suffix (fun c => isBlank c || c == '\n') (l := tail)).length_le
    rw [found, List.length_cons] at dropped
    subst h
    omega
  case h_2 => simp at h

def longBasic? (cs : List Char) : Option (List Char × List Char) :=
  match cs with
  | [] => none
  | '"' :: '"' :: '"' :: rest => some (endLong '"' rest)
  | '\\' :: rest =>
    match _h : continued? rest with
    | some rest' => longBasic? rest'
    | none =>
      match _h : escape? rest with
      | none => none
      | some (c, rest') => (longBasic? rest').map (push c)
  | c :: rest => if isTextChar c || c == '\n' then (longBasic? rest).map (push c) else none
termination_by cs.length
decreasing_by
  · have := length_of_continued? (by assumption)
    rw [List.length_cons]
    omega
  · have := length_of_escape? (by assumption)
    rw [List.length_cons]
    omega
  · rw [List.length_cons]
    omega

-- A break right after the three opening quotes does not count.
def skipFirstBreak (cs : List Char) : List Char :=
  match cs with
  | '\n' :: rest => rest
  | cs => cs

def quoted? (cs : List Char) : Option (List Char × List Char) :=
  match cs with
  | '"' :: '"' :: '"' :: rest => longBasic? (skipFirstBreak rest)
  | '"' :: rest => basic? rest
  | '\'' :: '\'' :: '\'' :: rest => longLiteral? (skipFirstBreak rest)
  | '\'' :: rest => literal? rest
  | _ => none

end ApiContract.Toml
