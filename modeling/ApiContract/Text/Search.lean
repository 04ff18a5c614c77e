set_option autoImplicit false

namespace ApiContract.Text

def splitLast? (sep : Char) : List Char → Option (List Char × List Char)
  | [] => none
  | c :: cs =>
    match splitLast? sep cs with
    | some (before, after) => some (c :: before, after)
    | none => if c = sep then some ([], cs) else none

def splitLastWord? (word : List Char) : List Char → Option (List Char × List Char)
  | [] => none
  | c :: cs =>
    match splitLastWord? word cs with
    | some (before, after) => some (c :: before, after)
    | none =>
      if word.isPrefixOf (c :: cs) then some ([], (c :: cs).drop word.length) else none

def dropTail? (tail text : List Char) : Option (List Char) :=
  if tail.isSuffixOf text then some (text.take (text.length - tail.length)) else none

theorem splitLast?_eq_none_iff {sep : Char} {cs : List Char} :
    splitLast? sep cs = none ↔ sep ∉ cs := by
  induction cs with
  | nil => simp [splitLast?]
  | cons c cs ih =>
    rw [splitLast?]
    split
    case h_1 before after found =>
      have : sep ∈ cs := by simpa [found] using mt ih.mpr
      simp [this]
    case h_2 found =>
      have absent := ih.mp found
      by_cases h : c = sep <;> simp [h, absent]
      exact fun e => h e.symm

theorem splitLast?_eq_some {sep : Char} {cs before after : List Char}
    (h : splitLast? sep cs = some (before, after)) :
    cs = before ++ sep :: after ∧ sep ∉ after := by
  induction cs generalizing before with
  | nil => simp [splitLast?] at h
  | cons c cs ih =>
    rw [splitLast?] at h
    split at h
    case h_1 b a found =>
      simp only [Option.some.injEq, Prod.mk.injEq] at h
      obtain ⟨rfl, rfl⟩ := h
      have := ih found
      simpa using this
    case h_2 found =>
      split at h
      case isTrue hc =>
        simp only [Option.some.injEq, Prod.mk.injEq] at h
        obtain ⟨rfl, rfl⟩ := h
        exact ⟨by simp [hc], splitLast?_eq_none_iff.mp found⟩
      case isFalse => simp at h

theorem dropTail?_eq_some {tail text stem : List Char} :
    dropTail? tail text = some stem ↔ text = stem ++ tail := by
  unfold dropTail?
  constructor
  · intro h
    split at h
    case isTrue found =>
      obtain ⟨front, rfl⟩ := List.isSuffixOf_iff_suffix.mp found
      simp at h
      simp [h]
    case isFalse => simp at h
  · rintro rfl
    simp [List.isSuffixOf_iff_suffix]

end ApiContract.Text
