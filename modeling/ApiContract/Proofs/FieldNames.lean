import ApiContract.Proofs.SnakeCase

set_option autoImplicit false

namespace ApiContract.Rust

open Name (IsSmall IsSnakeCase)

-- The keywords of the language in its edition of 2021: those in use, and those it keeps back.
def keywords : List String := [
  "as", "async", "await", "break", "const", "continue", "crate", "dyn", "else", "enum", "extern",
  "false", "fn", "for", "if", "impl", "in", "let", "loop", "match", "mod", "move", "mut", "pub",
  "ref", "return", "self", "Self", "static", "struct", "super", "trait", "true", "type", "unsafe",
  "use", "where", "while",
  "abstract", "become", "box", "do", "final", "macro", "override", "priv", "try", "typeof",
  "unsized", "virtual", "yield"]

def missedKeywords : List String :=
  keywords.filter (· ∉ reservedWords)

structure IsSpelledAsIdentifier (name : String) : Prop where
  starts : name.toList.head?.any Char.isLower = true
  goesOn : ∀ c ∈ name.toList, IsSmall c ∨ c = '_'

theorem isLower_toLower {c : Char} (ascii : c.toNat < 0x80) (letter : c.isAlpha = true) :
    c.toLower.isLower = true := by
  revert letter
  revert c
  apply Text.forall_ascii
  decide

section FieldNames

variable {name : String}

theorem head?_snakeCase (ascii : ∀ c ∈ name.toList, c.toNat < 0x80) {first : Char}
    {rest : List Char} (whole : name.toList = first :: rest) (letter : first.isAlpha = true) :
    (Name.snakeCase name).toList.head? = some first.toLower := by
  have snake := Name.isSnakeCase_snakeCase ascii
  have letters := Name.letters_snakeCase ascii
  have kept : first.isAlphanum = true := by simp [Char.isAlphanum, letter]
  rw [whole, Name.smallLetters_cons, if_pos kept] at letters
  -- The first character is no underscore, so that it is the first of the letters as well.
  cases chars : (Name.snakeCase name).toList with
  | nil => simp [chars] at letters
  | cons c cs =>
    have other : c ≠ '_' := fun same => snake.head (by rw [chars, same]; rfl)
    rw [chars, List.filter_cons_of_pos (by simpa using other)] at letters
    rw [List.head?_cons, (List.cons.inj letters).1]

theorem toList_fieldName (name : String) :
    (fieldName name).toList = (Name.snakeCase name).toList ∨
      (fieldName name).toList = (Name.snakeCase name).toList ++ ['_'] := by
  rw [fieldName_eq]
  split
  · exact .inr (by simp)
  · exact .inl rfl

theorem isSpelledAsIdentifier_fieldName (ascii : ∀ c ∈ name.toList, c.toNat < 0x80)
    (starts : name.toList.head?.any Char.isAlpha = true) :
    IsSpelledAsIdentifier (fieldName name) := by
  obtain ⟨first, rest, whole, letter⟩ : ∃ first rest,
      name.toList = first :: rest ∧ first.isAlpha = true := by
    cases whole : name.toList with
    | nil => simp [whole] at starts
    | cons first rest => exact ⟨first, rest, rfl, by simpa [whole] using starts⟩
  have small := isLower_toLower (ascii first (by simp [whole])) letter
  have head := head?_snakeCase ascii whole letter
  have spelled := (Name.isSnakeCase_snakeCase ascii).small
  rcases toList_fieldName name with same | marked
  · exact ⟨by rw [same, head]; exact small, by rwa [same]⟩
  · refine ⟨by rw [marked, List.head?_append, head]; exact small, ?_⟩
    rw [marked, List.forall_mem_append]
    exact ⟨spelled, by simp⟩

theorem fieldName_mem_keywords_iff :
    fieldName name ∈ keywords ↔ Name.snakeCase name ∈ missedKeywords := by
  have marked : ∀ word ∈ reservedWords, word ++ "_" ∉ keywords := by decide
  have missed {word : String} : word ∈ missedKeywords ↔ word ∈ keywords ∧ word ∉ reservedWords := by
    simp [missedKeywords]
  rw [missed, fieldName_eq]
  split
  case isTrue reserved => simp [marked _ reserved, reserved]
  case isFalse free => simp [free]

end FieldNames

theorem fieldName_identifies {name : String} (ascii : ∀ c ∈ name.toList, c.toNat < 0x80)
    (starts : name.toList.head?.any Char.isAlpha = true) :
    IsSpelledAsIdentifier (fieldName name) ∧
      (fieldName name ∈ keywords ↔ Name.snakeCase name ∈ missedKeywords) :=
  ⟨isSpelledAsIdentifier_fieldName ascii starts, fieldName_mem_keywords_iff⟩

theorem fieldName_identifies_type :
    (∀ c ∈ "Type.".toList, c.toNat < 0x80) ∧ "Type.".toList.head?.any Char.isAlpha = true ∧
      IsSpelledAsIdentifier "type_" ∧ "type_" ∉ keywords := by
  have ascii : ∀ c ∈ "Type.".toList, c.toNat < 0x80 := by simp
  have starts : "Type.".toList.head?.any Char.isAlpha = true := by decide
  have written : fieldName "Type." = "type_" := by decide
  obtain ⟨spelled, keyword⟩ := fieldName_identifies ascii starts
  rw [written] at spelled keyword
  exact ⟨ascii, starts, spelled, fun listed => absurd (keyword.mp listed) (by decide)⟩

theorem fieldName_break : fieldName "Break" = "break" ∧ "break" ∈ keywords := by
  decide

example : missedKeywords =
    ["break", "continue", "dyn", "else", "extern", "false", "for", "if", "let", "mut", "pub",
      "return", "Self", "super", "true", "unsafe", "while", "abstract", "become", "do", "final",
      "macro", "override", "priv", "try", "typeof", "unsized", "virtual", "yield"] := by
  decide

end ApiContract.Rust
