import ApiContract.Name

set_option autoImplicit false

namespace ApiContract

theorem Text.splitLast?_append {sep : Char} {after : List Char} (last : sep ∉ after)
    (before : List Char) : splitLast? sep (before ++ sep :: after) = some (before, after) := by
  induction before with
  | nil => simp [splitLast?, splitLast?_eq_none_iff.mpr last]
  | cons c before ih => simp [splitLast?, ih]

namespace Name

theorem endsIn_iff {name tail : String} :
    endsIn name tail = true ↔ tail.toList <:+ name.toList := by
  rw [endsIn, Option.isSome_iff_exists]
  simp only [Text.dropTail?_eq_some]
  exact ⟨fun ⟨stem, whole⟩ => ⟨stem, whole.symm⟩, fun ⟨stem, whole⟩ => ⟨stem, whole.symm⟩⟩

theorem simple_scoped (scope : String) {name : String} (h : '.' ∉ name.toList) :
    simple (scope ++ "." ++ name) = name := by
  have characters : (scope ++ "." ++ name).toList = scope.toList ++ '.' :: name.toList := by simp
  rw [simple, characters, Text.splitLast?_append h]
  simp

theorem splitTail?_eq_some {name front tail : String} (h : splitTail? name = some (front, tail)) :
    tail ∈ requestTails ∧ name = front ++ tail := by
  obtain ⟨candidate, listed, found⟩ := List.exists_of_findSome?_eq_some h
  split at found
  case h_1 stem dropped =>
    split at found
    case isTrue => simp at found
    case isFalse =>
      simp only [Option.some.injEq, Prod.mk.injEq] at found
      obtain ⟨rfl, rfl⟩ := found
      refine ⟨listed, String.toList_inj.mp ?_⟩
      simpa using Text.dropTail?_eq_some.mp dropped
  case h_2 => simp at found

theorem insertInSimple_eq (name token : String) :
    ∃ front tail, tail ∈ "" :: requestTails ∧ name = front ++ tail ∧
      insertInSimple name token = front ++ token ++ tail := by
  unfold insertInSimple
  cases found : splitTail? name with
  | none => exact ⟨name, "", by simp⟩
  | some parts =>
    obtain ⟨listed, whole⟩ := splitTail?_eq_some found
    exact ⟨parts.1, parts.2, List.mem_cons_of_mem _ listed, whole, rfl⟩

theorem simple_insertBeforeTail (name : String) {token : String} (h : '.' ∉ token.toList) :
    simple (insertBeforeTail name token) = insertInSimple (simple name) token := by
  -- The parts around the token come from a simple name, which has no dot to split at.
  have noDot : '.' ∉ (insertInSimple (simple name) token).toList := by
    obtain ⟨front, tail, -, whole, inserted⟩ := insertInSimple_eq (simple name) token
    have := no_dot_in_simple name
    rw [whole] at this
    rw [inserted]
    simp_all
  unfold insertBeforeTail
  by_cases unscoped : scope name = ""
  · simp [unscoped, simple_eq_self_of_no_dot noDot]
  · simp [unscoped, simple_scoped _ noDot]

theorem simple_fullDetails_ne_empty (name : String) : simple (fullDetails name) ≠ "" := by
  rw [fullDetails, simple_insertBeforeTail name (by decide)]
  obtain ⟨front, tail, -, -, inserted⟩ := insertInSimple_eq (simple name) fullDetailsToken
  rw [inserted]
  intro empty
  have := congrArg String.toList empty
  simp [fullDetailsToken] at this

end Name

end ApiContract
