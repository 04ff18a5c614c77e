import ApiContract.Split
import Mathlib.Data.List.Forall2

set_option autoImplicit false

namespace ApiContract

theorem ResponseType.isCalled_iff {t : ResponseType} {name : String} :
    t.isCalled name none = true ↔
      name ≠ "" ∧ t.typeName ≠ "" ∧ Name.unqualified t.typeName = name ∧
        t.componentType = none := by
  simp [isCalled, and_assoc]

def ResponseType.IsPayload (t : ResponseType) (payload : String) : Prop :=
  t.componentType = none ∧ Name.unqualified t.typeName = payload

instance (t : ResponseType) (payload : String) : Decidable (t.IsPayload payload) :=
  inferInstanceAs (Decidable (_ ∧ _))

theorem ResponseType.isCalled_iff_isPayload {t : ResponseType} {payload : String}
    (named : payload ≠ "") : t.isCalled payload none = true ↔ t.IsPayload payload := by
  rw [isCalled_iff, IsPayload]
  constructor
  · rintro ⟨-, -, name, component⟩
    exact ⟨component, name⟩
  · rintro ⟨component, name⟩
    refine ⟨named, fun unnamed => named ?_, name, component⟩
    rw [← name, unnamed]
    rfl

def ResponseCode.keep (rc : ResponseCode) (payload : String) : ResponseCode :=
  { rc with types := rc.types.filter (·.isCalled payload none) }

@[simp] theorem ResponseCode.keep_code (rc : ResponseCode) (payload : String) :
    (rc.keep payload).code = rc.code := rfl

@[simp] theorem ResponseCode.keep_keep (rc : ResponseCode) (payload : String) :
    (rc.keep payload).keep payload = rc.keep payload := by
  simp [keep]

def isMultipleAt (codes : List ResponseCode) (status : UInt16) : Bool :=
  (codes.filter (·.isMultiple)).any (·.code == status)

theorem isMultipleAt_iff {codes : List ResponseCode} {status : UInt16} :
    isMultipleAt codes status = true ↔
      ∃ rc ∈ codes, rc.isMultiple = true ∧ rc.code = status := by
  simp only [isMultipleAt, List.any_eq_true, List.mem_filter, beq_iff_eq, and_assoc]

theorem isMultipleAt_of_mem {codes : List ResponseCode} {rc : ResponseCode} (member : rc ∈ codes)
    (multiple : rc.isMultiple = true) : isMultipleAt codes rc.code = true :=
  isMultipleAt_iff.mpr ⟨rc, member, multiple, rfl⟩

theorem keepTypesAt_eq_map (codes : List ResponseCode) (status : UInt16) (payload : String) :
    keepTypesAt codes status payload none =
      codes.map fun rc => if status = rc.code then rc.keep payload else rc := by
  simp only [keepTypesAt, eq_comm (a := status)]
  rfl

theorem narrow_each (marked : List ResponseCode) (codes : List ResponseCode) (payload : String) :
    marked.foldl (fun narrowed rc => keepTypesAt narrowed rc.code payload none) codes =
      codes.map fun rc => if marked.any (·.code == rc.code) then rc.keep payload else rc := by
  induction marked generalizing codes with
  | nil => simp
  | cons first rest ih =>
    rw [List.foldl_cons, ih, keepTypesAt_eq_map, List.map_map]
    apply List.map_congr_left
    intro rc _
    -- An entry that a later status narrows again stays as the first one left it.
    by_cases here : first.code = rc.code
    · cases later : rest.any (·.code == rc.code) <;>
        simp only [Function.comp_apply, List.any_cons, here, later, ResponseCode.keep_code,
          ResponseCode.keep_keep, beq_self_eq_true, Bool.true_or, Bool.false_eq_true, if_true,
          if_false]
    · simp only [Function.comp_apply, List.any_cons, beq_false_of_ne here, here, if_false,
        Bool.false_or]

theorem narrow_eq_map (codes : List ResponseCode) (payload : String) :
    narrow codes payload =
      codes.map fun rc => if isMultipleAt codes rc.code then rc.keep payload else rc :=
  narrow_each _ codes payload

theorem mem_narrow {codes : List ResponseCode} {payload : String} {after : ResponseCode}
    (member : after ∈ narrow codes payload) :
    ∃ before ∈ codes, after.code = before.code ∧ after.types ⊆ before.types := by
  rw [narrow_eq_map] at member
  obtain ⟨before, listed, rfl⟩ := List.mem_map.mp member
  refine ⟨before, listed, ?_⟩
  split
  · exact ⟨rfl, fun t kept => List.mem_of_mem_filter kept⟩
  · exact ⟨rfl, List.Subset.refl _⟩

theorem ResponseCode.isMultiple_eq_false_iff {rc : ResponseCode} :
    rc.isMultiple = false ↔ rc.types.length ≤ 1 := by
  simp [isMultiple]

theorem ResponseCode.isMultiple_iff {rc : ResponseCode} :
    rc.isMultiple = true ↔ 1 < rc.types.length := by
  simp [isMultiple]

theorem ResponseCode.keep_types_eq_singleton {rc : ResponseCode} {payload : String}
    (listed : ∃ t ∈ rc.types, t.isCalled payload none = true)
    (single : (rc.keep payload).isMultiple = false) :
    ∃ t ∈ rc.types, t.isCalled payload none = true ∧ (rc.keep payload).types = [t] := by
  have short : (rc.keep payload).types.length ≤ 1 := isMultiple_eq_false_iff.mp single
  obtain ⟨t, member, called⟩ := listed
  have kept : t ∈ (rc.keep payload).types := List.mem_filter.mpr ⟨member, called⟩
  obtain ⟨only, types⟩ : ∃ only, (rc.keep payload).types = [only] := by
    apply List.length_eq_one_iff.mp
    have := List.length_pos_of_mem kept
    omega
  obtain rfl : t = only := by simpa [types] using kept
  exact ⟨t, member, called, types⟩

theorem ResponseCode.keep_isMultiple_eq_false_iff {rc : ResponseCode} {payload : String} :
    (rc.keep payload).isMultiple = false ↔ rc.types.countP (·.isCalled payload none) ≤ 1 := by
  rw [isMultiple_eq_false_iff, List.countP_eq_length_filter]
  rfl

theorem isMultipleAt_eq_false {codes : List ResponseCode} {status : UInt16}
    (elsewhere : ∀ rc ∈ codes, 1 < rc.types.length → rc.code ≠ status) :
    isMultipleAt codes status = false := by
  rw [Bool.eq_false_iff]
  intro marked
  obtain ⟨rc, listed, multiple, here⟩ := isMultipleAt_iff.mp marked
  exact elsewhere rc listed (ResponseCode.isMultiple_iff.mp multiple) here

theorem narrow_single_iff {codes : List ResponseCode} {payload : String} :
    (∀ rc ∈ narrow codes payload, rc.isMultiple = false) ↔
      ∀ rc ∈ codes, rc.isMultiple = true → rc.types.countP (·.isCalled payload none) ≤ 1 := by
  rw [narrow_eq_map, List.forall_mem_map]
  constructor
  · intro single rc member multiple
    have after := single rc member
    rw [if_pos (isMultipleAt_of_mem member multiple)] at after
    exact ResponseCode.keep_isMultiple_eq_false_iff.mp after
  · intro once rc member
    cases multiple : rc.isMultiple with
    | true =>
      rw [if_pos (isMultipleAt_of_mem member multiple)]
      exact ResponseCode.keep_isMultiple_eq_false_iff.mpr (once rc member multiple)
    -- To filter a single type leaves no more than that type.
    | false =>
      split
      case isTrue =>
        rw [ResponseCode.keep_isMultiple_eq_false_iff]
        exact Nat.le_trans List.countP_le_length (ResponseCode.isMultiple_eq_false_iff.mp multiple)
      case isFalse => exact multiple

theorem keep_mem_narrow {codes : List ResponseCode} {payload : String} {rc : ResponseCode}
    (member : rc ∈ codes) (multiple : rc.isMultiple = true) :
    rc.keep payload ∈ narrow codes payload := by
  rw [narrow_eq_map]
  exact List.mem_map.mpr ⟨rc, member, if_pos (isMultipleAt_of_mem member multiple)⟩

theorem mem_narrow_of_elsewhere {codes : List ResponseCode} {payload : String} {rc : ResponseCode}
    (member : rc ∈ codes)
    (elsewhere : ∀ other ∈ codes, 1 < other.types.length → other.code ≠ rc.code) :
    rc ∈ narrow codes payload := by
  rw [narrow_eq_map]
  exact List.mem_map.mpr ⟨rc, member, by simp [isMultipleAt_eq_false elsewhere]⟩

/-- How an entry stands after narrowing, where `codes` are all the entries before it. -/
structure ResponseCode.Narrowed (codes : List ResponseCode) (payload : String)
    (before after : ResponseCode) : Prop where
  code : after.code = before.code
  chosen : 1 < before.types.length →
    ∃ t ∈ before.types, after.types = [t] ∧ t.componentType = none ∧
      Name.unqualified t.typeName = payload
  untouched : (∀ rc ∈ codes, 1 < rc.types.length → rc.code ≠ before.code) → after = before

theorem narrow_narrowed {codes : List ResponseCode} {payload : String}
    (listed : ∀ rc ∈ codes, rc.isMultiple = true → ∃ t ∈ rc.types, t.isCalled payload none = true)
    (single : ∀ rc ∈ narrow codes payload, rc.isMultiple = false) :
    List.Forall₂ (ResponseCode.Narrowed codes payload) codes (narrow codes payload) := by
  rw [narrow_eq_map] at single ⊢
  rw [List.forall₂_map_right_iff, List.forall₂_same]
  intro rc member
  have after := single _ (List.mem_map_of_mem member)
  constructor
  · split <;> rfl
  -- An entry with several types marks its own status.
  · intro several
    have multiple := ResponseCode.isMultiple_iff.mpr several
    rw [if_pos (isMultipleAt_of_mem member multiple)] at after ⊢
    obtain ⟨t, inTypes, called, types⟩ :=
      ResponseCode.keep_types_eq_singleton (listed rc member multiple) after
    obtain ⟨-, -, name, component⟩ := ResponseType.isCalled_iff.mp called
    exact ⟨t, inTypes, types, component, name⟩
  · intro elsewhere
    simp [isMultipleAt_eq_false elsewhere]

/-- What is left of an entry after narrowing to a payload, where `codes` are all the entries before
it. -/
structure ResponseCode.Retained (codes : List ResponseCode) (payload : String)
    (before after : ResponseCode) : Prop where
  code : after.code = before.code
  kept : ∀ t ∈ before.types, t.IsPayload payload → t ∈ after.types
  only : 1 < before.types.length → ∀ t ∈ after.types, t ∈ before.types ∧ t.IsPayload payload
  elsewhere : (∀ rc ∈ codes, 1 < rc.types.length → rc.code ≠ before.code) → after = before

theorem narrow_retained {codes : List ResponseCode} {payload : String} (named : payload ≠ "") :
    List.Forall₂ (ResponseCode.Retained codes payload) codes (narrow codes payload) := by
  rw [narrow_eq_map, List.forall₂_map_right_iff, List.forall₂_same]
  intro rc member
  constructor
  · split <;> rfl
  · intro t listed isPayload
    split
    case isTrue =>
      exact List.mem_filter.mpr ⟨listed, (ResponseType.isCalled_iff_isPayload named).mpr isPayload⟩
    case isFalse => exact listed
  · intro several t left
    rw [if_pos (isMultipleAt_of_mem member (ResponseCode.isMultiple_iff.mpr several))] at left
    obtain ⟨listed, called⟩ := List.mem_filter.mp left
    exact ⟨listed, (ResponseType.isCalled_iff_isPayload named).mp called⟩
  · intro elsewhere
    simp [isMultipleAt_eq_false elsewhere]

end ApiContract
