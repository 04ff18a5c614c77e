import ApiContract.Proofs.Variants

set_option autoImplicit false

namespace ApiContract

namespace Request

variable {r : Request}

inductive ReplacedBy (r : Request) : List Request → Prop where
  | itself (single : ∀ rc ∈ r.responseCodes, rc.types.length ≤ 1) : ReplacedBy r [r]
  | variants {base detailed : Request} (several : ∃ rc ∈ r.responseCodes, 1 < rc.types.length)
      (baseName : base.name = r.name) (detailedName : detailed.name = Name.fullDetails r.name) :
      ReplacedBy r [base, detailed]

theorem replacedBy_of_split {group : List Request} (divided : r.split = .ok group) :
    r.ReplacedBy group := by
  cases multiple : r.hasMultipleTypes with
  | false =>
    obtain rfl : [r] = group := Except.ok.inj ((split_of_single multiple).symm.trans divided)
    exact .itself (hasMultipleTypes_eq_false_iff_single.mp multiple)
  | true =>
    obtain ⟨rule, -, -, rfl⟩ := (split_of_multiple multiple).mp divided
    exact .variants (hasMultipleTypes_iff_several.mp multiple) rfl rfl

theorem ReplacedBy.length {group : List Request} (replaced : r.ReplacedBy group) :
    group.length = 1 + if r.hasMultipleTypes then 1 else 0 := by
  cases replaced with
  | itself single => simp [hasMultipleTypes_eq_false_iff_single.mpr single]
  | variants several => simp [hasMultipleTypes_iff_several.mpr several]

end Request

theorem length_flatten_of_replacedBy {requests : List Request} {groups : List (List Request)}
    (replaced : List.Forall₂ Request.ReplacedBy requests groups) :
    groups.flatten.length = requests.length + requests.countP (·.hasMultipleTypes) := by
  induction replaced with
  | nil => rfl
  | cons first _ ih =>
    rw [List.flatten_cons, List.length_append, ih, first.length, List.length_cons, List.countP_cons]
    omega

theorem splitAll_append (front back : List Request) :
    splitAll (front ++ back) = (do
      let first ← splitAll front
      let second ← splitAll back
      pure (first ++ second)) := by
  induction front with
  | nil =>
    rw [List.nil_append]
    cases splitAll back <;> rfl
  | cons r rest ih =>
    simp only [List.cons_append, splitAll, ih]
    cases r.split with
    | error e => rfl
    | ok group =>
      cases splitAll rest with
      | error e => rfl
      | ok others =>
        cases splitAll back with
        | error e => rfl
        | ok second => exact congrArg Except.ok (List.append_assoc group others second).symm

theorem splitAll_expands {requests variants : List Request}
    (divided : splitAll requests = .ok variants) :
    (∃ groups, List.Forall₂ Request.ReplacedBy requests groups ∧ variants = groups.flatten) ∧
      variants.length = requests.length + requests.countP (·.hasMultipleTypes) ∧
      (∀ front back result, splitAll (front ++ back) = .ok result ↔
        ∃ first second, splitAll front = .ok first ∧ splitAll back = .ok second ∧
          result = first ++ second) ∧
      splitAll variants = .ok variants := by
  obtain ⟨groups, each, rfl⟩ := splitAll_eq_ok_iff.mp divided
  have replaced : List.Forall₂ Request.ReplacedBy requests groups :=
    each.imp fun _ _ => Request.replacedBy_of_split
  refine ⟨⟨groups, replaced, rfl⟩, length_flatten_of_replacedBy replaced, ?_,
    splitAll_of_single (splitAll_single divided)⟩
  intro front back result
  rw [splitAll_append]
  simp only [bind_eq_ok]
  constructor
  · rintro ⟨first, frontDivided, second, backDivided, returned⟩
    exact ⟨first, second, frontDivided, backDivided, (Except.ok.inj returned).symm⟩
  · rintro ⟨first, second, frontDivided, backDivided, rfl⟩
    exact ⟨first, frontDivided, second, backDivided, rfl⟩

def jobRequest : Request where
  name := "com.acme.GetJobRequestHandler"
  family := .managementApi
  responseCodes := [{ code := 200, types := [{ typeName := "com.acme.Job" }] }]

theorem splitAll_expands_tapeRequest :
    let base := tapeRule.baseOf tapeRequest
    let detailed := tapeRule.detailedOf tapeRequest
    splitAll [jobRequest, tapeRequest] = .ok [jobRequest, base, detailed] ∧
      (∃ groups, List.Forall₂ Request.ReplacedBy [jobRequest, tapeRequest] groups ∧
        [jobRequest, base, detailed] = groups.flatten) ∧
      splitAll [jobRequest, base, detailed] = .ok [jobRequest, base, detailed] ∧
      splitAll [jobRequest, tapeRequest, jobRequest] =
        .ok [jobRequest, base, detailed, jobRequest] := by
  intro base detailed
  have divided : splitAll [jobRequest, tapeRequest] = .ok [jobRequest, base, detailed] := by
    decide +kernel
  obtain ⟨replaced, -, parts, again⟩ := splitAll_expands divided
  have last : splitAll [jobRequest] = .ok [jobRequest] := by decide
  exact ⟨divided, replaced, again, (parts _ _ _).mpr ⟨_, _, divided, last, rfl⟩⟩

end ApiContract
