import ApiContract.Proofs.Resolution

set_option autoImplicit false

namespace ApiContract

theorem Text.after_eq_nil_iff {sep : Char} {cs before after : List Char}
    (found : splitLast? sep cs = some (before, after)) : after = [] ↔ cs.getLast? = some sep := by
  obtain ⟨rfl, absent⟩ := splitLast?_eq_some found
  rcases after.eq_nil_or_concat' with rfl | ⟨front, last, rfl⟩
  · simp
  · have other : last ≠ sep := by
      rintro rfl
      simp at absent
    have whole : before ++ sep :: (front ++ [last]) = (before ++ sep :: front) ++ [last] := by simp
    rw [whole, List.getLast?_concat]
    simp [other]

namespace Name

/-- The part of the name that is shown would follow its last character. -/
def OpenEnded (name : String) : Prop :=
  name.toList.getLast? = some '$' ∨ '$' ∉ name.toList ∧ name.toList.getLast? = some '.'

instance (name : String) : Decidable (OpenEnded name) :=
  inferInstanceAs (Decidable (_ ∨ _))

theorem simple_eq_empty_iff {name : String} (named : name ≠ "") :
    simple name = "" ↔ name.toList.getLast? = some '.' := by
  unfold simple
  split
  case h_1 before after found => simpa using Text.after_eq_nil_iff found
  case h_2 found =>
    have absent := Text.splitLast?_eq_none_iff.mp found
    simp only [named, false_iff]
    exact fun last => absent (List.mem_of_getLast? last)

theorem unqualified_eq_empty_iff {name : String} (named : name ≠ "") :
    unqualified name = "" ↔ OpenEnded name := by
  unfold unqualified
  split
  case h_1 before after found =>
    have nested : '$' ∈ name.toList := by
      rw [(Text.splitLast?_eq_some found).1]
      simp
    simpa [OpenEnded, nested] using Text.after_eq_nil_iff found
  case h_2 found =>
    have absent := Text.splitLast?_eq_none_iff.mp found
    have other : name.toList.getLast? ≠ some '$' := fun last => absent (List.mem_of_getLast? last)
    simp [OpenEnded, absent, other, simple_eq_empty_iff named]

end Name

namespace Request

def typeNames (r : Request) : List String :=
  r.allParams.map (·.typeName) ++ r.responseTypes.map (·.typeName)

structure Shown (r : Request) : Prop where
  name : Name.simple r.name ≠ ""
  params : ∀ p ∈ r.allParams, p.name ≠ ""
  types : ∀ name ∈ r.typeNames, Name.unqualified name ≠ ""

variable {r : Request} {rule : SplitRule}

theorem mem_typeNames {name : String} :
    name ∈ r.typeNames ↔ (∃ p ∈ r.allParams, p.typeName = name) ∨
      ∃ rc ∈ r.responseCodes, ∃ t ∈ rc.types, t.typeName = name := by
  simp only [typeNames, responseTypes, List.map_flatMap, List.mem_append, List.mem_map,
    List.mem_flatMap]

theorem WellNamed.typeName_ne_empty (valid : r.WellNamed) :
    ∀ name ∈ r.typeNames, name ≠ "" := by
  intro name member
  rcases mem_typeNames.mp member with ⟨p, listed, rfl⟩ | ⟨rc, listed, t, inside, rfl⟩
  · exact (valid.params p listed).2
  · exact valid.types rc listed t inside

theorem WellNamed.shown_iff (valid : r.WellNamed) :
    r.Shown ↔ ∀ name ∈ r.typeNames, ¬Name.OpenEnded name := by
  have types : (∀ name ∈ r.typeNames, Name.unqualified name ≠ "") ↔
      ∀ name ∈ r.typeNames, ¬Name.OpenEnded name := by
    refine forall₂_congr fun name member => not_congr ?_
    exact Name.unqualified_eq_empty_iff (valid.typeName_ne_empty name member)
  rw [← types]
  exact ⟨Shown.types, fun shown => ⟨valid.name, fun p listed => (valid.params p listed).1, shown⟩⟩

theorem typeName_of_narrow {payload name : String}
    (narrowed : ∃ rc ∈ narrow r.responseCodes payload, ∃ t ∈ rc.types, t.typeName = name) :
    ∃ rc ∈ r.responseCodes, ∃ t ∈ rc.types, t.typeName = name := by
  obtain ⟨after, member, t, inside, same⟩ := narrowed
  obtain ⟨before, listed, -, fewer⟩ := mem_narrow member
  exact ⟨before, listed, t, fewer inside, same⟩

theorem typeNames_baseOf : ∀ name ∈ (rule.baseOf r).typeNames, name ∈ r.typeNames := by
  intro name member
  rw [mem_typeNames] at member ⊢
  rcases member with ⟨p, listed, same⟩ | narrowed
  · exact .inl ⟨p, (mem_allParams_dropParam.mp listed).1, same⟩
  · exact .inr (typeName_of_narrow narrowed)

theorem typeNames_detailedOf :
    ∀ name ∈ (rule.detailedOf r).typeNames, name ∈ r.typeNames ∨ name = voidType := by
  intro name member
  rw [mem_typeNames] at member ⊢
  rcases member with ⟨p, listed, same⟩ | narrowed
  · rcases SplitRule.mem_allParams_detailedOf.mp listed with old | rfl
    · exact .inl (.inl ⟨p, (mem_allParams_dropParam.mp old).1, same⟩)
    · exact .inr same.symm
  · exact .inl (.inr (typeName_of_narrow narrowed))

theorem HasVariant.typeNames {v : Request} (variant : r.HasVariant v) :
    ∀ name ∈ v.typeNames, name ∈ r.typeNames ∨ name = voidType := by
  cases variant with
  | itself => exact fun name member => .inl member
  | base => exact fun name member => .inl (typeNames_baseOf name member)
  | detailed => exact typeNames_detailedOf

end Request

namespace Contract

variable {registry : Registry} {c : Contract} {s : Selection} {m : Model}

theorem exists_variant_of_resolved (resolved : c.resolveWith registry s = .ok m) :
    ∀ t ∈ m.requests, ∃ r ∈ s.candidates c.requests, r.WellNamed ∧ r.HasVariant t.request := by
  obtain ⟨valid, variants, divided, rfl⟩ := resolveWith_eq_ok_iff.mp resolved
  intro t member
  obtain ⟨v, selected, rfl⟩ := List.mem_map.mp member
  obtain ⟨r, listed, variant⟩ :=
    hasVariant_of_mem_splitAll divided (List.mem_of_mem_filter selected)
  exact ⟨r, listed, valid r listed, variant⟩

/-- A model lacks no name, but it shows all of them only if no type of the contract ends where the
shown part of its name begins. -/
theorem resolveWith_shown (resolved : c.resolveWith registry s = .ok m) :
    (∀ t ∈ m.requests, t.request.WellNamed) ∧
      (∀ t ∈ m.requests, t.request.Shown ↔
        ∀ name ∈ t.request.typeNames, ¬Name.OpenEnded name) ∧
      ((∀ r ∈ s.candidates c.requests, ∀ name ∈ r.typeNames, ¬Name.OpenEnded name) →
        ∀ t ∈ m.requests, t.request.Shown) := by
  have valid : ∀ t ∈ m.requests, t.request.WellNamed := by
    intro t member
    obtain ⟨r, -, wellNamed, variant⟩ := exists_variant_of_resolved resolved t member
    exact wellNamed.variant variant
  refine ⟨valid, fun t member => (valid t member).shown_iff, fun closed t member => ?_⟩
  obtain ⟨r, listed, -, variant⟩ := exists_variant_of_resolved resolved t member
  rw [(valid t member).shown_iff]
  intro name inside
  rcases variant.typeNames name inside with old | rfl
  · exact closed r listed name old
  · decide

theorem resolveWith_shown_tapeContract :
    ∃ m, tapeContract.resolveWith .builtin {} = .ok m ∧
      m.requests.map (·.request) = [tapeRule.baseOf tapeRequest, tapeRule.detailedOf tapeRequest] ∧
      ∀ t ∈ m.requests, t.request.WellNamed ∧ t.request.Shown := by
  have valid : validateAll (Selection.candidates {} tapeContract.requests) = .ok () := by decide
  have divided : splitAll (Selection.candidates {} tapeContract.requests) =
      .ok [tapeRule.baseOf tapeRequest, tapeRule.detailedOf tapeRequest] := by decide +kernel
  have resolved : tapeContract.resolveWith .builtin {} = .ok (tapeContract.modelOf .builtin {} _) :=
    resolveWith_of_splitAll valid divided
  have closed : ∀ r ∈ Selection.candidates {} tapeContract.requests,
      ∀ name ∈ r.typeNames, ¬Name.OpenEnded name := by decide +kernel
  obtain ⟨wellNamed, -, shown⟩ := resolveWith_shown resolved
  exact ⟨_, resolved, rfl, fun t member => ⟨wellNamed t member, shown closed t member⟩⟩

-- The parameter has only the scope of a type, the answer a type without the one nested in it.
def openEndedContract : Contract where
  requests := [{
    name := "com.acme.GetTapeRequest"
    family := .managementApi
    requiredParams := [{ name := "Id", typeName := "com.acme." }]
    responseCodes := [{ code := 200, types := [{ typeName := "com.acme.Tape$" }] }] }]
  types := .empty

theorem resolve_openEndedContract :
    openEndedContract.resolve {} =
      .ok (openEndedContract.modelOf .builtin {} openEndedContract.requests) := by
  have valid : validateAll (Selection.candidates {} openEndedContract.requests) = .ok () := by
    decide
  have undivided : splitAll (Selection.candidates {} openEndedContract.requests) =
      .ok openEndedContract.requests := by decide +kernel
  exact resolveWith_of_splitAll valid undivided

theorem resolve_keeps_unshown_types :
    ∃ m, openEndedContract.resolve {} = .ok m ∧ ∃ t ∈ m.requests,
      t.request.typeNames = ["com.acme.", "com.acme.Tape$"] ∧
        (∀ name ∈ t.request.typeNames, Name.unqualified name = "") ∧ ¬t.request.Shown := by
  have unshown : ∀ name ∈ ["com.acme.", "com.acme.Tape$"], Name.unqualified name = "" := by decide
  refine ⟨_, resolve_openEndedContract, _, List.mem_cons_self, rfl, unshown, fun shown => ?_⟩
  exact shown.types "com.acme." List.mem_cons_self (unshown _ List.mem_cons_self)

end Contract

end ApiContract
