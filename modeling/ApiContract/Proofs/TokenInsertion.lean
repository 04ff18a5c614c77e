import ApiContract.Proofs.GeneratedNames

set_option autoImplicit false

namespace ApiContract.Name

-- The name has a scope, which is empty.
def HasBareDot (name : String) : Prop :=
  name = "." ++ simple name

instance (name : String) : Decidable (HasBareDot name) :=
  inferInstanceAs (Decidable (_ = _))

/-- The second name is the first one with the token put before one of the tails, or at the end. -/
def TakesIn (name token inserted : String) : Prop :=
  ∃ front tail, tail ∈ "" :: requestTails ∧ name = front ++ tail ∧ inserted = front ++ token ++ tail

theorem eq_simple_or_scoped (name : String) :
    scope name = "" ∧ name = simple name ∨ name = scope name ++ "." ++ simple name := by
  unfold scope simple
  cases found : Text.splitLast? '.' name.toList with
  | none => exact .inl ⟨rfl, rfl⟩
  | some parts =>
    right
    apply String.toList_inj.mp
    simpa using (Text.splitLast?_eq_some found).1

theorem simple_fullDetails (name : String) :
    simple (fullDetails name) = insertInSimple (simple name) fullDetailsToken :=
  simple_insertBeforeTail name (by decide)

section Insertion

variable {name token : String}

theorem TakesIn.length_eq {inserted : String} (taken : TakesIn name token inserted) :
    inserted.length = name.length + token.length := by
  obtain ⟨front, tail, -, rfl, rfl⟩ := taken
  simp only [String.length_append]
  omega

theorem takesIn_insertInSimple (name token : String) :
    TakesIn name token (insertInSimple name token) :=
  insertInSimple_eq name token

theorem TakesIn.append_left {inserted : String} (taken : TakesIn name token inserted)
    (front : String) : TakesIn (front ++ name) token (front ++ inserted) := by
  obtain ⟨before, tail, listed, rfl, rfl⟩ := taken
  exact ⟨front ++ before, tail, listed, by simp [String.append_assoc]⟩

theorem no_dot_in_insertInSimple (noDot : '.' ∉ token.toList) :
    '.' ∉ (insertInSimple (simple name) token).toList := by
  obtain ⟨front, tail, -, whole, inserted⟩ := insertInSimple_eq (simple name) token
  have absent := no_dot_in_simple name
  rw [whole] at absent
  rw [inserted]
  simp_all

theorem scope_eq_empty_of_no_dot (noDot : '.' ∉ name.toList) : scope name = "" := by
  rw [scope, Text.splitLast?_eq_none_iff.mpr noDot]

theorem scope_scoped (front : String) (noDot : '.' ∉ name.toList) :
    scope (front ++ "." ++ name) = front := by
  have characters : (front ++ "." ++ name).toList = front.toList ++ '.' :: name.toList := by simp
  rw [scope, characters, Text.splitLast?_append noDot]
  exact String.ofList_toList

theorem HasBareDot.scope_eq (bare : HasBareDot name) : scope name = "" := by
  have dotted : name = "" ++ "." ++ simple name := by simpa [HasBareDot] using bare
  rw [dotted]
  exact scope_scoped "" (no_dot_in_simple name)

theorem insertBeforeTail_of_scope_empty (unscoped : scope name = "") :
    insertBeforeTail name token = insertInSimple (simple name) token := by
  rw [insertBeforeTail, if_pos unscoped]

theorem HasBareDot.insertBeforeTail_eq (bare : HasBareDot name) :
    insertBeforeTail name token = insertBeforeTail (simple name) token := by
  have unscoped := scope_eq_empty_of_no_dot (no_dot_in_simple name)
  rw [insertBeforeTail_of_scope_empty bare.scope_eq, insertBeforeTail_of_scope_empty unscoped,
    simple_simple]

theorem takesIn_insertBeforeTail_iff :
    TakesIn name token (insertBeforeTail name token) ↔ ¬HasBareDot name := by
  constructor
  · intro taken bare
    -- The token is all that is added, so that the dot in front would make the result longer.
    have whole := taken.length_eq
    have short := (takesIn_insertInSimple (simple name) token).length_eq
    have one : name.length = 1 + (simple name).length := by
      conv_lhs => rw [bare]
      exact String.length_append "." (simple name)
    rw [insertBeforeTail_of_scope_empty bare.scope_eq] at whole
    omega
  · intro notBare
    have within := takesIn_insertInSimple (simple name) token
    rcases eq_simple_or_scoped name with ⟨unscoped, whole⟩ | dotted
    · rw [insertBeforeTail_of_scope_empty unscoped]
      rwa [← whole] at within ⊢
    · have named : scope name ≠ "" := by
        intro unscoped
        rw [unscoped, String.empty_append] at dotted
        exact notBare dotted
      have taken := within.append_left (scope name ++ ".")
      rw [insertBeforeTail, if_neg named]
      rwa [← dotted] at taken

theorem scope_insertBeforeTail (noDot : '.' ∉ token.toList) :
    scope (insertBeforeTail name token) = scope name := by
  have absent : '.' ∉ (insertInSimple (simple name) token).toList :=
    no_dot_in_insertInSimple noDot
  by_cases unscoped : scope name = ""
  · rw [insertBeforeTail_of_scope_empty unscoped, unscoped, scope_eq_empty_of_no_dot absent]
  · rw [insertBeforeTail, if_neg unscoped, scope_scoped _ absent]

end Insertion

section Stem

theorem splitTail?_requestHandler {front : String} (oneLine : '\n' ∉ front.toList) :
    splitTail? (front ++ "RequestHandler") = some (front, "RequestHandler") := by
  have dropped : Text.dropTail? "RequestHandler".toList (front ++ "RequestHandler").toList =
      some front.toList := Text.dropTail?_eq_some.mpr (by simp)
  simp only [splitTail?, requestTails, List.findSome?_cons, dropped, if_neg oneLine,
    String.ofList_toList]

theorem oneLine_of_splitTail? {name front tail : String}
    (found : splitTail? name = some (front, tail)) : '\n' ∉ front.toList := by
  obtain ⟨candidate, -, split⟩ := List.exists_of_findSome?_eq_some found
  split at split
  case h_1 stem dropped =>
    split at split
    case isTrue => contradiction
    case isFalse oneLine =>
      obtain ⟨rfl, rfl⟩ := Prod.mk.inj (Option.some.inj split)
      rwa [String.toList_ofList]
  case h_2 => contradiction

theorem splitTail?_append_fullDetailsToken (name : String) :
    splitTail? (name ++ fullDetailsToken) = none := by
  have noTail {tail : String} (listed : tail ∈ requestTails) :
      Text.dropTail? tail.toList (name ++ fullDetailsToken).toList = none := by
    simp only [requestTails, List.mem_cons, List.not_mem_nil, or_false] at listed
    rcases listed with rfl | rfl <;>
      exact Text.dropTail?_eq_none_of_getLast? (by decide) (by simp [fullDetailsToken])
  rw [splitTail?, List.findSome?_eq_none_iff]
  intro tail listed
  rw [noTail listed]

-- With the token in it a simple name is taken apart at the same tail as before.
theorem splitTail?_insertInSimple (name : String) :
    splitTail? (insertInSimple name fullDetailsToken) =
      (splitTail? name).map fun parts => (parts.1 ++ fullDetailsToken, parts.2) := by
  unfold insertInSimple
  cases found : splitTail? name with
  | none => exact splitTail?_append_fullDetailsToken name
  | some parts =>
    obtain ⟨front, tail⟩ := parts
    have oneLine : '\n' ∉ (front ++ fullDetailsToken).toList := by
      simpa [fullDetailsToken] using oneLine_of_splitTail? found
    have listed := (splitTail?_eq_some found).1
    simp only [requestTails, List.mem_cons, List.not_mem_nil, or_false] at listed
    rcases listed with rfl | rfl
    · exact splitTail?_requestHandler oneLine
    · exact splitTail?_request oneLine

theorem stem_fullDetails (name : String) :
    stem (fullDetails name) = stem name ++ fullDetailsToken := by
  rw [stem, stem, simple_fullDetails, splitTail?_insertInSimple]
  cases found : splitTail? (simple name) with
  | none => simp only [Option.map_none, insertInSimple, found]
  | some parts => rfl

end Stem

section Distinct

variable {name other : String}

theorem insertInSimple_fullDetailsToken_inj
    (same : insertInSimple name fullDetailsToken = insertInSimple other fullDetailsToken) :
    name = other := by
  obtain ⟨front, tail, listed, rfl, inserted⟩ := insertInSimple_eq name fullDetailsToken
  obtain ⟨front', tail', listed', rfl, inserted'⟩ := insertInSimple_eq other fullDetailsToken
  rw [inserted, inserted'] at same
  -- The token and the two tails end in different letters, so the last one tells the tail.
  have last := congrArg (fun s : String => s.toList.getLast?) same
  have sameTail : tail = tail' := by
    simp only [requestTails, List.mem_cons, List.not_mem_nil, or_false] at listed listed'
    rcases listed with rfl | rfl | rfl <;> rcases listed' with rfl | rfl | rfl <;>
      simp [fullDetailsToken] at last ⊢
  subst sameTail
  rw [(String.append_left_inj _).mp ((String.append_left_inj _).mp same)]

theorem parts_of_fullDetails_eq (same : fullDetails name = fullDetails other) :
    scope name = scope other ∧ simple name = simple other := by
  have noDot : '.' ∉ fullDetailsToken.toList := by decide
  refine ⟨?_, insertInSimple_fullDetailsToken_inj ?_⟩
  · calc scope name = scope (fullDetails name) := (scope_insertBeforeTail noDot).symm
      _ = scope (fullDetails other) := by rw [same]
      _ = scope other := scope_insertBeforeTail noDot
  · rw [← simple_fullDetails, ← simple_fullDetails, same]

theorem fullDetails_eq_iff :
    fullDetails name = fullDetails other ↔
      name = other ∨ (HasBareDot name ∧ other = simple name) ∨
        (HasBareDot other ∧ name = simple other) := by
  constructor
  · intro same
    obtain ⟨scopes, simples⟩ := parts_of_fullDetails_eq same
    rcases eq_simple_or_scoped name with ⟨bare, plain⟩ | dotted <;>
      rcases eq_simple_or_scoped other with ⟨bare', plain'⟩ | dotted'
    · exact .inl (by rw [plain, plain', simples])
    · refine .inr (.inr ⟨?_, plain.trans simples⟩)
      rwa [← scopes, bare, String.empty_append] at dotted'
    · refine .inr (.inl ⟨?_, plain'.trans simples.symm⟩)
      rwa [scopes, bare', String.empty_append] at dotted
    · exact .inl (by rw [dotted, dotted', scopes, simples])
  · rintro (rfl | ⟨bare, rfl⟩ | ⟨bare, rfl⟩)
    · rfl
    · exact bare.insertBeforeTail_eq
    · exact bare.insertBeforeTail_eq.symm

end Distinct

theorem insertion_laws {token : String} (noDot : '.' ∉ token.toList) (name other : String) :
    (TakesIn name token (insertBeforeTail name token) ↔ ¬HasBareDot name) ∧
      (HasBareDot name → insertBeforeTail name token = insertBeforeTail (simple name) token) ∧
      scope (insertBeforeTail name token) = scope name ∧
      stem (fullDetails name) = stem name ++ fullDetailsToken ∧
      (fullDetails name = fullDetails other ↔
        name = other ∨ (HasBareDot name ∧ other = simple name) ∨
          (HasBareDot other ∧ name = simple other)) :=
  ⟨takesIn_insertBeforeTail_iff, HasBareDot.insertBeforeTail_eq, scope_insertBeforeTail noDot,
    stem_fullDetails name, fullDetails_eq_iff⟩

theorem insertion_laws_tapeRequest :
    '.' ∉ "Detailed".toList ∧
      TakesIn "com.acme.GetTapeRequestHandler" "Detailed"
        "com.acme.GetTapeDetailedRequestHandler" ∧
      stem "com.acme.GetTapeFullDetailsRequestHandler" = "GetTapeFullDetails" ∧
      fullDetails "com.acme.GetTapeRequestHandler" ≠ fullDetails ".GetTapeRequestHandler" := by
  have noDot : '.' ∉ "Detailed".toList := by decide
  obtain ⟨taken, -, -, stems, collide⟩ :=
    insertion_laws noDot "com.acme.GetTapeRequestHandler" ".GetTapeRequestHandler"
  refine ⟨noDot, taken.mpr (by decide), stems, fun same => ?_⟩
  exact absurd (collide.mp same) (by decide)

-- The scope is empty in both names, so that the two are not told apart.
theorem fullDetails_bareDot :
    ¬TakesIn ".GetTapeRequest" fullDetailsToken (fullDetails ".GetTapeRequest") ∧
      fullDetails ".GetTapeRequest" = fullDetails "GetTapeRequest" := by
  have bare : HasBareDot ".GetTapeRequest" := by decide
  exact ⟨fun taken => takesIn_insertBeforeTail_iff.mp taken bare, bare.insertBeforeTail_eq⟩

end ApiContract.Name
