import ApiContract.Payload
import ApiContract.Proofs.Outcome
import ApiContract.Proofs.Rearrangement

set_option autoImplicit false

namespace ApiContract

theorem ResponseType.ne_iff {p q : ResponseType} :
    p ≠ q ↔ p.typeName ≠ q.typeName ∨ p.componentType ≠ q.componentType := by
  cases p
  cases q
  simp only [ne_eq, mk.injEq, not_and_or]

theorem mem_payloads {r : Request} {t : ResponseType} :
    t ∈ r.payloads ↔
      ∃ rc ∈ r.responseCodes, rc.code < 300 ∧ t ∈ rc.types ∧ t.isNull = false := by
  simp only [Request.payloads, isErrorCode, List.mem_filter, List.mem_flatMap, Bool.not_eq_true',
    decide_eq_false_iff_not, UInt16.not_le]
  constructor
  · rintro ⟨⟨rc, ⟨listed, success⟩, inside⟩, notNull⟩
    exact ⟨rc, listed, success, inside, notNull⟩
  · rintro ⟨rc, listed, success, inside, notNull⟩
    exact ⟨⟨rc, ⟨listed, success⟩, inside⟩, notNull⟩

namespace Request

variable {r s : Request} {p q : ResponseType}

/-- The request answers with this type on success, and the type is not `null` in whatever case. -/
def PaysWith (r : Request) (p : ResponseType) : Prop :=
  ∃ rc ∈ r.responseCodes, rc.code < 300 ∧ p ∈ rc.types ∧
    Text.sameIgnoringCase p.typeName "null" = false

instance (r : Request) (p : ResponseType) : Decidable (r.PaysWith p) :=
  inferInstanceAs (Decidable (∃ rc ∈ r.responseCodes, _))

theorem paysWith_iff : r.PaysWith p ↔ p ∈ r.payloads :=
  mem_payloads.symm

theorem payload?_eq_none_iff : r.payload? = .ok none ↔ ∀ q, ¬r.PaysWith q := by
  have collapsed : (∀ q, ¬r.PaysWith q) ↔ collapseRuns r.payloads = [] := by
    simp only [paysWith_iff, collapseRuns_eq_nil]
    exact List.eq_nil_iff_forall_not_mem.symm
  rw [collapsed, payload?]
  generalize collapseRuns r.payloads = runs
  rcases runs with _ | ⟨q, _ | _⟩ <;> simp

theorem payload?_eq_some_iff :
    r.payload? = .ok (some p) ↔ r.PaysWith p ∧ ∀ q, r.PaysWith q → q = p := by
  have collapsed : (r.PaysWith p ∧ ∀ q, r.PaysWith q → q = p) ↔ collapseRuns r.payloads = [p] := by
    simp only [paysWith_iff, collapseRuns_eq_singleton]
  rw [collapsed, payload?]
  generalize collapseRuns r.payloads = runs
  rcases runs with _ | ⟨q, _ | _⟩ <;> simp

theorem eq_of_payload?_eq_error {e : Error} (fails : r.payload? = .error e) :
    e = .malformed r.name .severalPayloads := by
  rw [payload?] at fails
  split at fails
  case h_1 => simp at fails
  case h_2 => simp at fails
  case h_3 => exact (Except.error.inj fails).symm

theorem eq_of_payload?_eq_ok {payload : Option ResponseType} (single : r.payload? = .ok payload)
    (first : p ∈ r.payloads) (second : q ∈ r.payloads) : p = q := by
  rw [← paysWith_iff] at first second
  cases payload with
  | none => exact absurd first (payload?_eq_none_iff.mp single p)
  | some v =>
    obtain ⟨-, only⟩ := payload?_eq_some_iff.mp single
    exact (only p first).trans (only q second).symm

theorem payload?_fails_iff :
    (∃ e, r.payload? = .error e) ↔ ∃ p q, r.PaysWith p ∧ r.PaysWith q ∧ p ≠ q := by
  rw [exists_error_iff]
  constructor
  · intro fails
    by_contra alike
    by_cases paid : ∃ p, r.PaysWith p
    · obtain ⟨p, pays⟩ := paid
      refine fails ⟨p, payload?_eq_some_iff.mpr ⟨pays, fun q alsoPays => ?_⟩⟩
      by_contra different
      exact alike ⟨q, p, alsoPays, pays, different⟩
    · exact fails ⟨none, payload?_eq_none_iff.mpr (not_exists.mp paid)⟩
  · rintro ⟨p, q, pays, alsoPays, different⟩ ⟨payload, single⟩
    exact different
      (eq_of_payload?_eq_ok single (paysWith_iff.mp pays) (paysWith_iff.mp alsoPays))

theorem hasPayload_eq_false_iff : r.hasPayload = false ↔ ∀ q, ¬r.PaysWith q := by
  simp [hasPayload, paysWith_iff, List.eq_nil_iff_forall_not_mem]

theorem paying_iff {rc : ResponseCode} :
    (!isErrorCode rc.code && rc.types.any (!·.isNull)) = true ↔
      rc.code < 300 ∧ ∃ q ∈ rc.types, Text.sameIgnoringCase q.typeName "null" = false := by
  simp [isErrorCode, ResponseType.isNull, UInt16.not_le]

theorem payloadCode?_eq_none_iff : r.payloadCode? = none ↔ ∀ q, ¬r.PaysWith q := by
  rw [payloadCode?, Option.map_eq_none_iff, List.find?_eq_none]
  simp only [paying_iff]
  constructor
  · rintro unpaid q ⟨rc, listed, success, inside, notNull⟩
    exact unpaid rc listed ⟨success, q, inside, notNull⟩
  · rintro unpaid rc listed ⟨success, q, inside, notNull⟩
    exact unpaid q ⟨rc, listed, success, inside, notNull⟩

theorem payloadCode?_of_single (pays : r.PaysWith p) (only : ∀ q, r.PaysWith q → q = p) :
    ∃ before rc after, r.responseCodes = before ++ rc :: after ∧ rc.code < 300 ∧ p ∈ rc.types ∧
      (∀ earlier ∈ before, earlier.code < 300 → p ∉ earlier.types) ∧
      r.payloadCode? = some rc.code := by
  obtain ⟨code, returned⟩ : ∃ code, r.payloadCode? = some code := by
    rw [← Option.ne_none_iff_exists', ne_eq, payloadCode?_eq_none_iff]
    exact fun unpaid => unpaid p pays
  obtain ⟨rc, found, rfl⟩ := Option.map_eq_some_iff.mp returned
  obtain ⟨paying, before, after, split, passed⟩ := List.find?_eq_some_iff_append.mp found
  have listed : rc ∈ r.responseCodes := by simp [split]
  -- What is found there is a payload, so it is the payload.
  obtain ⟨success, q, inside, notNull⟩ := paying_iff.mp paying
  obtain rfl := only q ⟨rc, listed, success, inside, notNull⟩
  refine ⟨before, rc, after, split, success, inside, fun earlier first success' inside' => ?_,
    returned⟩
  have pays' := paying_iff.mpr ⟨success', q, inside', notNull⟩
  simpa [pays'] using passed earlier first

theorem payload?_congr (name : s.name = r.name) (same : ∀ p, s.PaysWith p ↔ r.PaysWith p) :
    s.payload? = r.payload? := by
  cases outcome : r.payload? with
  | ok value =>
    cases value with
    | none => simpa only [payload?_eq_none_iff, same] using outcome
    | some p => simpa only [payload?_eq_some_iff, same] using outcome
  | error e =>
    have fails : ∃ e, s.payload? = .error e := by
      simpa only [payload?_fails_iff, same] using payload?_fails_iff.mp ⟨e, outcome⟩
    obtain ⟨e', failure⟩ := fails
    rw [failure, eq_of_payload?_eq_error failure, eq_of_payload?_eq_error outcome, name]

theorem paysWith_of_reordered {codes : List ResponseCode}
    (reordered : Reordered ResponseCode.SameUpToOrder r.responseCodes codes) (p : ResponseType) :
    { r with responseCodes := codes }.PaysWith p ↔ r.PaysWith p :=
  (reordered.exists_iff fun a b alike => by rw [alike.code, alike.types.mem_iff]).symm

theorem payload?_outcomes (r : Request) :
    ((∃ e, r.payload? = .error e) ↔ ∃ p q, r.PaysWith p ∧ r.PaysWith q ∧
        (p.typeName ≠ q.typeName ∨ p.componentType ≠ q.componentType)) ∧
      ((r.payload? = .ok none ↔ ∀ p, ¬r.PaysWith p) ∧
        (r.payload? = .ok none ↔ r.hasPayload = false) ∧
        (r.payload? = .ok none ↔ r.payloadCode? = none)) ∧
      (∀ p, r.payload? = .ok (some p) → r.PaysWith p ∧ (∀ q, r.PaysWith q → q = p) ∧
        ∃ before rc after, r.responseCodes = before ++ rc :: after ∧ rc.code < 300 ∧
          p ∈ rc.types ∧ (∀ earlier ∈ before, earlier.code < 300 → p ∉ earlier.types) ∧
          r.payloadCode? = some rc.code) ∧
      ∀ codes, Reordered ResponseCode.SameUpToOrder r.responseCodes codes →
        { r with responseCodes := codes }.payload? = r.payload? := by
  refine ⟨?fails, ⟨payload?_eq_none_iff, ?has, ?code⟩, fun p single => ?_,
    fun codes reordered => ?_⟩
  case fails => simp only [payload?_fails_iff, ResponseType.ne_iff]
  case has => rw [payload?_eq_none_iff, hasPayload_eq_false_iff]
  case code => rw [payload?_eq_none_iff, payloadCode?_eq_none_iff]
  · obtain ⟨pays, only⟩ := payload?_eq_some_iff.mp single
    exact ⟨pays, only, payloadCode?_of_single pays only⟩
  · exact payload?_congr rfl (paysWith_of_reordered reordered)

def tapeList : ResponseType where
  typeName := "array"
  componentType := some "com.acme.Tape"

-- The payload is listed three times, between an error and two spellings of `null`.
def tapeListCodes : List ResponseCode := [
  { code := 404, types := [{ typeName := "com.acme.Failure" }] },
  { code := 204, types := [{ typeName := "NULL" }] },
  { code := 206, types := [tapeList, { typeName := "null" }, tapeList] },
  { code := 200, types := [tapeList] }]

def tapeListRequest : Request where
  name := "com.acme.GetTapesRequest"
  family := .managementApi
  responseCodes := tapeListCodes

-- One of the types listed on success has another component type than the rest.
def mixedListRequest : Request :=
  { tapeListRequest with
    responseCodes := { code := 299, types := [{ typeName := "array" }] } :: tapeListCodes }

theorem payload?_outcomes_tapeListRequest :
    tapeListRequest.payload? = .ok (some tapeList) ∧
      (∀ q, tapeListRequest.PaysWith q → q = tapeList) ∧
      (∃ before rc after, tapeListCodes = before ++ rc :: after ∧ rc.code < 300 ∧
        tapeList ∈ rc.types ∧ (∀ earlier ∈ before, earlier.code < 300 → tapeList ∉ earlier.types) ∧
        tapeListRequest.payloadCode? = some rc.code) ∧
      { tapeListRequest with responseCodes := tapeListCodes.reverse }.payload? =
        .ok (some tapeList) ∧
      ∃ e, mixedListRequest.payload? = .error e := by
  have single : tapeListRequest.payload? = .ok (some tapeList) := by decide +kernel
  have reordered : Reordered ResponseCode.SameUpToOrder tapeListCodes tapeListCodes.reverse :=
    ⟨_, (List.reverse_perm _).symm, List.forall₂_same.mpr fun rc _ => ⟨rfl, .refl _⟩⟩
  obtain ⟨-, -, paid, orderFree⟩ := payload?_outcomes tapeListRequest
  obtain ⟨-, only, code⟩ := paid tapeList single
  refine ⟨single, only, code, (orderFree _ reordered).trans single, ?_⟩
  exact (payload?_outcomes mixedListRequest).1.mpr
    ⟨tapeList, { typeName := "array" }, by decide +kernel, by decide +kernel, by decide⟩

end Request

end ApiContract
