import ApiContract.Proofs.Narrowing
import ApiContract.Proofs.Outcome

set_option autoImplicit false

namespace ApiContract

theorem viewParam_of_mem {rule : SplitRule} (listed : rule ∈ splitRules) :
    rule.viewParam = Name.fullDetailsToken := by
  revert rule
  decide

theorem payload_ne_empty {rule : SplitRule} (listed : rule ∈ splitRules) {payload : String}
    (either : payload ∈ [rule.basePayload, rule.detailedPayload]) : payload ≠ "" := by
  revert rule payload
  decide

namespace SplitRule

def baseOf (rule : SplitRule) (r : Request) : Request :=
  { r.dropParam rule.viewParam with responseCodes := narrow r.responseCodes rule.basePayload }

def detailedOf (rule : SplitRule) (r : Request) : Request :=
  { r.requireFlag rule.viewParam with
    name := Name.fullDetails r.name
    responseCodes := narrow r.responseCodes rule.detailedPayload }

end SplitRule

namespace Request

variable {r : Request}

theorem mem_allParams_dropParam {name : String} {p : Param} :
    p ∈ (r.dropParam name).allParams ↔ p ∈ r.allParams ∧ p.isNamed name = false := by
  simp [allParams, dropParam, Param.without, or_and_right]

theorem sameIgnoringCase_spellingOf (r : Request) (name : String) :
    Text.sameIgnoringCase (r.spellingOf name) name = true := by
  unfold spellingOf
  cases found : Param.find? r.allParams name with
  | none => simp
  | some p => simpa [Param.isNamed] using List.find?_some found

theorem hasMultipleTypes_eq_false_iff :
    r.hasMultipleTypes = false ↔ ∀ rc ∈ r.responseCodes, rc.isMultiple = false := by
  simp [hasMultipleTypes]

theorem hasMultipleTypes_iff :
    r.hasMultipleTypes = true ↔ ∃ rc ∈ r.responseCodes, rc.isMultiple = true := by
  simp [hasMultipleTypes]

theorem hasMultipleTypes_iff_several :
    r.hasMultipleTypes = true ↔ ∃ rc ∈ r.responseCodes, 1 < rc.types.length := by
  simp only [hasMultipleTypes_iff, ResponseCode.isMultiple_iff]

theorem hasMultipleTypes_eq_false_iff_single :
    r.hasMultipleTypes = false ↔ ∀ rc ∈ r.responseCodes, rc.types.length ≤ 1 := by
  simp only [hasMultipleTypes_eq_false_iff, ResponseCode.isMultiple_eq_false_iff]

theorem narrowed?_eq_ok_iff {payload : String} {codes : List ResponseCode} :
    r.narrowed? payload = .ok codes ↔
      (∀ rc ∈ narrow r.responseCodes payload, rc.isMultiple = false) ∧
        codes = narrow r.responseCodes payload := by
  unfold narrowed?
  cases several : (narrow r.responseCodes payload).find? (·.isMultiple) with
  | some rc =>
    have multiple : rc.isMultiple = true := by simpa using List.find?_some several
    have member := List.mem_of_find?_eq_some several
    simp only [several, reduceCtorEq, false_iff, not_and]
    intro single
    simp [single rc member] at multiple
  | none =>
    have single := List.find?_eq_none.mp several
    simp only [several, Except.ok.injEq, eq_comm (a := codes), iff_and_self]
    intro _ rc member
    simpa using single rc member

end Request

namespace SplitRule

variable {rule : SplitRule} {r : Request}

theorem mem_allParams_detailedOf {p : Param} :
    p ∈ (rule.detailedOf r).allParams ↔
      p ∈ (r.dropParam rule.viewParam).allParams ∨
        p = { name := r.spellingOf rule.viewParam, typeName := voidType } := by
  simp [detailedOf, Request.allParams, Request.requireFlag, Request.dropParam, or_assoc]

theorem split_eq_ok_iff {variants : Request × Request} :
    rule.split r = .ok variants ↔
      (rule.baseOf r).hasMultipleTypes = false ∧ (rule.detailedOf r).hasMultipleTypes = false ∧
        variants = (rule.baseOf r, rule.detailedOf r) := by
  simp only [split, bind_eq_ok, Request.narrowed?_eq_ok_iff, Request.hasMultipleTypes_eq_false_iff]
  constructor
  · rintro ⟨_, ⟨base, rfl⟩, _, ⟨detailed, rfl⟩, returned⟩
    exact ⟨base, detailed, (Except.ok.inj returned).symm⟩
  · rintro ⟨base, detailed, rfl⟩
    exact ⟨_, ⟨base, rfl⟩, _, ⟨detailed, rfl⟩, rfl⟩

theorem covers_iff :
    rule.covers r = true ↔
      Name.stem r.name = rule.stem ∧ r.resource.map (·.text) = some rule.resource ∧
        ∀ rc ∈ r.responseCodes, rc.isMultiple = true →
          ∀ payload ∈ [rule.basePayload, rule.detailedPayload],
            ∃ t ∈ rc.types, t.isCalled payload none = true := by
  simp only [covers, Bool.and_eq_true, beq_iff_eq, List.all_eq_true, List.mem_filter,
    List.any_eq_true, and_imp, and_assoc]

end SplitRule

namespace Request

variable {r : Request}

theorem split_of_single (single : r.hasMultipleTypes = false) : r.split = .ok [r] := by
  simp [split, single]

theorem split_of_multiple (multiple : r.hasMultipleTypes = true) {variants : List Request} :
    r.split = .ok variants ↔
      ∃ rule, r.splitRule? = some rule ∧ rule.split r = .ok (rule.baseOf r, rule.detailedOf r) ∧
        variants = [rule.baseOf r, rule.detailedOf r] := by
  cases found : r.splitRule? with
  | none => simp [split, multiple, found]
  | some rule =>
    simp only [split, multiple, found, if_true, bind_eq_ok, Option.some.injEq, exists_eq_left']
    constructor
    · rintro ⟨pair, divided, returned⟩
      obtain ⟨-, -, rfl⟩ := SplitRule.split_eq_ok_iff.mp divided
      exact ⟨divided, (Except.ok.inj returned).symm⟩
    · rintro ⟨divided, rfl⟩
      exact ⟨_, divided, rfl⟩

theorem split_eq_pair {base detailed : Request} (divided : r.split = .ok [base, detailed]) :
    ∃ rule, r.splitRule? = some rule ∧ rule.split r = .ok (base, detailed) := by
  cases multiple : r.hasMultipleTypes with
  | false => simp [split_of_single multiple] at divided
  | true =>
    obtain ⟨rule, found, apart, same⟩ := (split_of_multiple multiple).mp divided
    obtain ⟨rfl, rfl⟩ : base = rule.baseOf r ∧ detailed = rule.detailedOf r := by simpa using same
    exact ⟨rule, found, apart⟩

theorem splitRule?_covers {rule : SplitRule} (found : r.splitRule? = some rule) :
    rule.covers r = true := by
  have listed : splitRules.find? (·.covers r) = some rule := found
  simpa using List.find?_some listed

inductive HasVariant (r : Request) : Request → Prop where
  | itself (single : r.hasMultipleTypes = false) : HasVariant r r
  | base {rule : SplitRule} (found : r.splitRule? = some rule)
      (single : (rule.baseOf r).hasMultipleTypes = false) : HasVariant r (rule.baseOf r)
  | detailed {rule : SplitRule} (found : r.splitRule? = some rule)
      (single : (rule.detailedOf r).hasMultipleTypes = false) : HasVariant r (rule.detailedOf r)

theorem hasVariant_of_mem_split {variants : List Request} (divided : r.split = .ok variants)
    {v : Request} (member : v ∈ variants) : r.HasVariant v := by
  cases multiple : r.hasMultipleTypes with
  | false =>
    obtain rfl : [r] = variants := Except.ok.inj ((split_of_single multiple).symm.trans divided)
    rw [List.mem_singleton.mp member]
    exact .itself multiple
  | true =>
    obtain ⟨rule, found, apart, rfl⟩ := (split_of_multiple multiple).mp divided
    obtain ⟨baseSingle, detailedSingle, -⟩ := SplitRule.split_eq_ok_iff.mp apart
    rcases List.mem_pair.mp member with rfl | rfl
    · exact .base found baseSingle
    · exact .detailed found detailedSingle

theorem HasVariant.single {v : Request} (variant : r.HasVariant v) :
    v.hasMultipleTypes = false := by
  cases variant <;> assumption

theorem HasVariant.family {v : Request} (variant : r.HasVariant v) : v.family = r.family := by
  cases variant <;> rfl

end Request

theorem splitAll_eq_ok_iff {requests variants : List Request} :
    splitAll requests = .ok variants ↔
      ∃ groups, List.Forall₂ (fun r group => r.split = .ok group) requests groups ∧
        variants = groups.flatten := by
  induction requests generalizing variants with
  | nil => simp [splitAll, eq_comm]
  | cons r rest ih =>
    simp only [splitAll, bind_eq_ok, ih, List.forall₂_cons_left_iff]
    constructor
    · rintro ⟨group, divided, _, ⟨groups, all, rfl⟩, returned⟩
      exact ⟨group :: groups, ⟨group, groups, divided, all, rfl⟩, (Except.ok.inj returned).symm⟩
    · rintro ⟨_, ⟨group, groups, divided, all, rfl⟩, rfl⟩
      exact ⟨group, divided, _, ⟨groups, all, rfl⟩, rfl⟩

theorem forall₂_exists {α β : Type} {R : α → β → Prop} {xs : List α} {ys : List β}
    (all : List.Forall₂ R xs ys) {x : α} (member : x ∈ xs) : ∃ y ∈ ys, R x y := by
  induction all with
  | nil => simp at member
  | @cons _ first _ _ related _ ih =>
    rcases List.mem_cons.mp member with rfl | later
    · exact ⟨first, List.mem_cons_self, related⟩
    · obtain ⟨y, listed, found⟩ := ih later
      exact ⟨y, List.mem_cons_of_mem _ listed, found⟩

theorem split_infix_splitAll {requests variants : List Request}
    (divided : splitAll requests = .ok variants) {r : Request} (member : r ∈ requests) :
    ∃ group, r.split = .ok group ∧ group <:+: variants := by
  obtain ⟨groups, each, rfl⟩ := splitAll_eq_ok_iff.mp divided
  obtain ⟨group, listed, split⟩ := forall₂_exists each member
  exact ⟨group, split, List.infix_of_mem_flatten listed⟩

theorem hasVariant_of_mem_splitAll {requests variants : List Request}
    (divided : splitAll requests = .ok variants) {v : Request} (member : v ∈ variants) :
    ∃ r ∈ requests, r.HasVariant v := by
  obtain ⟨groups, each, rfl⟩ := splitAll_eq_ok_iff.mp divided
  obtain ⟨group, listed, inside⟩ := List.mem_flatten.mp member
  obtain ⟨r, origin, split⟩ := forall₂_exists each.flip listed
  exact ⟨r, origin, Request.hasVariant_of_mem_split split inside⟩

theorem splitAll_single {requests variants : List Request}
    (divided : splitAll requests = .ok variants) :
    ∀ v ∈ variants, v.hasMultipleTypes = false := by
  intro v member
  obtain ⟨r, -, variant⟩ := hasVariant_of_mem_splitAll divided member
  exact variant.single

theorem splitAll_eq_error_iff {requests : List Request} {e : Error} :
    splitAll requests = .error e ↔ FirstFailure Request.split requests e := by
  induction requests with
  | nil => simp [splitAll]
  | cons r rest ih =>
    simp only [splitAll, bind_eq_error]
    cases divided : r.split with
    | error first => simp [FirstFailure.cons_of_error divided]
    | ok group =>
      rw [FirstFailure.cons_of_ok divided, ← ih]
      simp [pure, Except.pure]

theorem splitAll_of_single {requests : List Request}
    (single : ∀ r ∈ requests, r.hasMultipleTypes = false) : splitAll requests = .ok requests := by
  rw [splitAll_eq_ok_iff]
  refine ⟨requests.map fun r => [r], ?_, (List.flatMap_singleton' requests).symm⟩
  rw [List.forall₂_map_right_iff, List.forall₂_same]
  exact fun r member => Request.split_of_single (single r member)

end ApiContract
