import ApiContract.Proofs.Reachability
import ApiContract.Proofs.Validation
import ApiContract.Proofs.Variants

set_option autoImplicit false

namespace ApiContract

theorem checkSingleTypes_of_single {requests : List Request}
    (single : ∀ r ∈ requests, r.hasMultipleTypes = false) : checkSingleTypes requests = .ok () := by
  have nothing : requests.findSome? (fun r =>
      (r.responseCodes.find? (·.isMultiple)).map (r.name, ·.code)) = none := by
    apply List.findSome?_eq_none_iff.mpr
    intro r member
    have codes := Request.hasMultipleTypes_eq_false_iff.mp (single r member)
    simpa using codes
  simp [checkSingleTypes, nothing]

theorem checkSingleTypes_of_splitAll {requests variants : List Request}
    (divided : splitAll requests = .ok variants) : checkSingleTypes variants = .ok () :=
  checkSingleTypes_of_single (splitAll_single divided)

namespace Contract

variable {registry : Registry} {c : Contract} {s : Selection}

def modelOf (registry : Registry) (c : Contract) (s : Selection) (variants : List Request) :
    Model where
  requests := (s.filter variants).map fun r => ⟨r, registry.classify r⟩
  types := c.types.reachableFrom (s.filter variants)

theorem resolveWith_eq_ok_iff {m : Model} :
    c.resolveWith registry s = .ok m ↔
      (∀ r ∈ s.candidates c.requests, r.WellNamed) ∧
        ∃ variants, splitAll (s.candidates c.requests) = .ok variants ∧
          m = c.modelOf registry s variants := by
  simp only [resolveWith, bind_eq_ok]
  constructor
  · rintro ⟨⟨⟩, valid, variants, divided, ⟨⟩, -, returned⟩
    exact ⟨validateAll_eq_ok_iff.mp valid, variants, divided, (Except.ok.inj returned).symm⟩
  · rintro ⟨valid, variants, divided, rfl⟩
    exact ⟨(), validateAll_eq_ok_iff.mpr valid, variants, divided, (),
      checkSingleTypes_of_splitAll divided, rfl⟩

theorem resolveWith_of_splitAll {variants : List Request}
    (valid : validateAll (s.candidates c.requests) = .ok ())
    (divided : splitAll (s.candidates c.requests) = .ok variants) :
    c.resolveWith registry s = .ok (c.modelOf registry s variants) :=
  resolveWith_eq_ok_iff.mpr ⟨validateAll_eq_ok_iff.mp valid, variants, divided, rfl⟩

theorem resolveWith_eq_error_iff {e : Error} :
    c.resolveWith registry s = .error e ↔
      FirstFailure Request.validate (s.candidates c.requests) e ∨
        (∀ r ∈ s.candidates c.requests, r.validate = .ok ()) ∧
          FirstFailure Request.split (s.candidates c.requests) e := by
  simp only [Request.validate_eq_ok_iff, ← validateAll_eq_ok_iff, ← validateAll_eq_error_iff,
    ← splitAll_eq_error_iff]
  simp only [resolveWith, bind_eq_error]
  constructor
  · rintro (invalid | ⟨⟨⟩, valid, undivided | ⟨variants, divided, several | ⟨⟨⟩, -, returned⟩⟩⟩)
    · exact .inl invalid
    · exact .inr ⟨valid, undivided⟩
    · simp [checkSingleTypes_of_splitAll divided] at several
    · simp [pure, Except.pure] at returned
  · rintro (invalid | ⟨valid, undivided⟩)
    · exact .inl invalid
    · exact .inr ⟨(), valid, .inl undivided⟩

theorem resolveWith_failure (registry : Registry) (c : Contract) (s : Selection) :
    (∀ (otherRegistry : Registry) (other : Contract) (t : Selection),
      t.includeInternal = s.includeInternal →
      t.candidates other.requests = s.candidates c.requests →
        ((∃ m, c.resolveWith registry s = .ok m) ↔
          ∃ m, other.resolveWith otherRegistry t = .ok m) ∧
        ∀ e, c.resolveWith registry s = .error e ↔ other.resolveWith otherRegistry t = .error e) ∧
    (∀ e, c.resolveWith registry s = .error e ↔
      FirstFailure Request.validate (s.candidates c.requests) e ∨
        (∀ r ∈ s.candidates c.requests, r.validate = .ok ()) ∧
          FirstFailure Request.split (s.candidates c.requests) e) ∧
    ∀ variants, splitAll (s.candidates c.requests) = .ok variants →
      checkSingleTypes variants = .ok () := by
  refine ⟨?_, fun e => resolveWith_eq_error_iff, fun _ => checkSingleTypes_of_splitAll⟩
  intro otherRegistry other t _ same
  constructor
  · simp only [resolveWith_eq_ok_iff, same]
    constructor
    · rintro ⟨m, valid, variants, divided, -⟩
      exact ⟨_, valid, variants, divided, rfl⟩
    · rintro ⟨m, valid, variants, divided, -⟩
      exact ⟨_, valid, variants, divided, rfl⟩
  · intro e
    rw [resolveWith_eq_error_iff, resolveWith_eq_error_iff, same]

def namelessRequest : Request where
  name := "com.acme.GetJobRequest"
  family := .managementApi
  optionalParams := [{ name := "", typeName := "int" }]

def driveRequest : Request :=
  { tapeRequest with name := "com.acme.GetDriveRequest" }

-- The first request cannot be split, but the second is refused before any is split.
def brokenRequests : List Request := [driveRequest, namelessRequest]

theorem resolveWith_failure_brokenRequests :
    let hidden : Request := { name := "com.acme.ReclaimRequest", family := .internal }
    let other : Contract := { requests := hidden :: brokenRequests }
    let t : Selection := { included := ["GetTapeRequest"], excluded := ["GetJobRequest"] }
    let e : Error := .malformed "com.acme.GetJobRequest" .paramWithoutName
    t.candidates other.requests = Selection.candidates {} brokenRequests ∧
      resolveWith .builtin { requests := brokenRequests } {} = .error e ∧
      other.resolveWith {} t = .error e := by
  intro hidden other t e
  obtain ⟨agree, first, -⟩ := resolveWith_failure .builtin { requests := brokenRequests } {}
  have same : t.candidates other.requests = Selection.candidates {} brokenRequests := by decide
  have valid : driveRequest.validate = .ok () := by decide
  have fails : FirstFailure Request.validate (Selection.candidates {} brokenRequests) e :=
    ⟨[driveRequest], namelessRequest, [], rfl, by simp [valid], by decide⟩
  have refused := (first e).mpr (.inl fails)
  exact ⟨same, refused, ((agree {} other t rfl same).2 e).mp refused⟩

end Contract

namespace Selection

variable {s : Selection}

theorem candidates_of_mem {requests : List Request} {r : Request}
    (member : r ∈ s.candidates requests) : s.includeInternal = true ∨ r.isInternal = false := by
  cases keeps : s.includeInternal with
  | true => exact .inl rfl
  | false =>
    have external : r ∈ requests ∧ r.isInternal = false := by
      simpa [candidates, keeps, externalRequests] using member
    exact .inr external.2

theorem candidates_eq_self {requests : List Request}
    (kept : ∀ r ∈ requests, s.includeInternal = true ∨ r.isInternal = false) :
    s.candidates requests = requests := by
  unfold candidates
  split
  case isTrue => rfl
  case isFalse drops =>
    apply List.filter_eq_self.mpr
    intro r member
    simpa [drops] using kept r member

theorem filter_filter (requests : List Request) :
    s.filter (s.filter requests) = s.filter requests := by
  simp [filter]

end Selection

def Model.contract (m : Model) : Contract where
  requests := m.requests.map (·.request)
  types := m.types

theorem Contract.contract_modelOf (registry : Registry) (c : Contract) (s : Selection)
    (variants : List Request) :
    (c.modelOf registry s variants).contract =
      ⟨s.filter variants, c.types.reachableFrom (s.filter variants)⟩ := by
  simp [Model.contract, modelOf, Function.comp_def]

theorem Model.resolveWith_idempotent {registry : Registry} {c : Contract} {s : Selection}
    {m : Model} (resolved : c.resolveWith registry s = .ok m) :
    m.contract.resolveWith registry s = .ok m := by
  obtain ⟨valid, variants, divided, rfl⟩ := Contract.resolveWith_eq_ok_iff.mp resolved
  rw [Contract.contract_modelOf, Contract.resolveWith_eq_ok_iff]
  have selected {v : Request} (member : v ∈ s.filter variants) : v ∈ variants :=
    List.mem_of_mem_filter member
  -- A variant is of the family of its request, so none is dropped as internal the second time.
  have same : s.candidates (s.filter variants) = s.filter variants := by
    apply Selection.candidates_eq_self
    intro v member
    obtain ⟨r, listed, variant⟩ := hasVariant_of_mem_splitAll divided (selected member)
    simpa [Request.isInternal, variant.family] using Selection.candidates_of_mem listed
  refine ⟨?_, s.filter variants, ?_, ?_⟩
  · rw [same]
    intro v member
    obtain ⟨r, listed, variant⟩ := hasVariant_of_mem_splitAll divided (selected member)
    exact (valid r listed).variant variant
  · rw [same]
    exact splitAll_of_single fun v member => splitAll_single divided v (selected member)
  · simp only [Contract.modelOf, Selection.filter_filter, Catalog.reachableFrom_reachableFrom]

-- The elements of a drive lead back to it and to a type that is missing.
def tapeCatalog : Catalog := .ofList [
  ("com.acme.Tape", ⟨"com.acme.Tape", none,
    .struct [{ name := "Drive", typeName := "com.acme.Drive" }]⟩),
  ("com.acme.Drive", ⟨"com.acme.Drive", none,
    .struct [{ name := "Drives", typeName := "array", componentType := some "com.acme.Drive" },
      { name := "Owner", typeName := "com.acme.Owner" }]⟩),
  ("com.acme.Unused", ⟨"com.acme.Unused", none, .enum []⟩)]

def tapeContract : Contract where
  requests := [{ name := "com.acme.ReclaimRequest", family := .internal }, tapeRequest]
  types := tapeCatalog

theorem Model.resolveWith_idempotent_tapeContract :
    ∃ m, tapeContract.resolveWith .builtin { excluded := ["GetTapeRequest"] } = .ok m ∧
      m.requests.length = 1 ∧
      m.contract.resolveWith .builtin { excluded := ["GetTapeRequest"] } = .ok m := by
  let s : Selection := { excluded := ["GetTapeRequest"] }
  have valid : validateAll (s.candidates tapeContract.requests) = .ok () := by decide
  have divided : splitAll (s.candidates tapeContract.requests) =
      .ok [tapeRule.baseOf tapeRequest, tapeRule.detailedOf tapeRequest] := by decide +kernel
  have resolved : tapeContract.resolveWith .builtin s = .ok (tapeContract.modelOf .builtin s _) :=
    Contract.resolveWith_of_splitAll valid divided
  exact ⟨_, resolved, by decide, Model.resolveWith_idempotent resolved⟩

end ApiContract
