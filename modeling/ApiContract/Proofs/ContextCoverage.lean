import ApiContract.Proofs.Decoding
import ApiContract.Proofs.Fallback
import ApiContract.Proofs.PrintedContexts
import ApiContract.Proofs.Resolution
import ApiContract.Proofs.StableOrder
import ApiContract.Proofs.TargetAgreement

set_option autoImplicit false

namespace ApiContract

section Outcome

variable {α β γ : Type} {outcome : Except Error α} {f : α → β}

theorem map_eq_ok_iff {b : β} : outcome.map f = .ok b ↔ ∃ a, outcome = .ok a ∧ f a = b := by
  cases outcome <;> simp [Except.map]

theorem map_eq_error_iff {e : Error} : outcome.map f = .error e ↔ outcome = .error e := by
  cases outcome <;> simp [Except.map]

theorem mapM_map_outcome (step : α → Except Error β) (g : β → γ) (values : List α) :
    values.mapM (fun value => (step value).map g) = (values.mapM step).map (List.map g) := by
  induction values with
  | nil => rfl
  | cons value rest ih =>
    rw [List.mapM_cons, List.mapM_cons, ih]
    cases step value with
    | error e => rfl
    | ok result => cases rest.mapM step <;> rfl

end Outcome

namespace Json

-- The text under a key of an object; where there is none, the empty one.
def textAt (key : String) (v : Json) : String :=
  ((v.entries?.bind (·.lookup key)).bind text?).getD ""

theorem lookup_insertField (key other : String) (v : Json) (fields : List (String × Json)) :
    (insertField key v fields).lookup other =
      if other = key then some v else fields.lookup other := by
  induction fields with
  | nil => simp [insertField]
  | cons f fields ih =>
    obtain ⟨name, value⟩ := f
    by_cases below : name < key
    · have different : name ≠ key := fun same => String.lt_irrefl key (same ▸ below)
      by_cases here : other = name <;> simp [insertField, below, here, different, ih]
    · simp [insertField, below]

theorem lookup_sortedFields (key : String) (fields : List (String × Json)) :
    (sortedFields fields).lookup key = (fields.lookup key).map sorted := by
  induction fields with
  | nil => rfl
  | cons f fields ih =>
    obtain ⟨name, value⟩ := f
    by_cases here : key = name <;> simp [sortedFields, lookup_insertField, here, ih]

@[simp] theorem text?_sorted (v : Json) : v.sorted.text? = v.text? := by
  cases v <;> rfl

theorem textAt_sorted (key : String) (fields : List (String × Json)) :
    (sorted (.obj fields)).textAt key = textAt key (.obj fields) := by
  simp [textAt, sorted, entries?, lookup_sortedFields, Option.bind_map]

end Json

namespace Target

def requestContext (target : Target) (t : TaggedRequest) : Except Error Json :=
  match target with
  | .rust => (Rust.requestContext t).map (·.toJson)
  | .generic => (Generic.requestContext t).map (·.toJson)

def typeContext (target : Target) (d : TypeDefinition) : Except Error Json :=
  match target with
  | .rust => (Rust.typeContext d).map (·.toJson)
  | .generic => .ok (Generic.typeContext d).toJson

theorem names_of_requestContext {target : Target} {t : TaggedRequest} {context : Json}
    (built : target.requestContext t = .ok context) :
    context.textAt "name" = t.request.sdkName ∧
      context.textAt "contract_name" = t.request.name := by
  cases target with
  | rust =>
    obtain ⟨c, done, rfl⟩ := map_eq_ok_iff.mp built
    obtain ⟨payload, -, returned⟩ := bind_eq_ok.mp done
    obtain rfl := Except.ok.inj returned
    exact ⟨Json.textAt_sorted _ _, Json.textAt_sorted _ _⟩
  | generic =>
    obtain ⟨c, done, rfl⟩ := map_eq_ok_iff.mp built
    obtain ⟨payload, -, returned⟩ := bind_eq_ok.mp done
    obtain rfl := Except.ok.inj returned
    exact ⟨Json.textAt_sorted _ _, Json.textAt_sorted _ _⟩

theorem contractName_of_typeContext {target : Target} {d : TypeDefinition} {context : Json}
    (built : target.typeContext d = .ok context) : context.textAt "contract_name" = d.name := by
  cases target with
  | rust =>
    obtain ⟨c, done, rfl⟩ := map_eq_ok_iff.mp built
    obtain ⟨fields, -, returned⟩ := bind_eq_ok.mp done
    obtain rfl := Except.ok.inj returned
    exact Json.textAt_sorted _ _
  | generic =>
    obtain rfl := Except.ok.inj built
    exact Json.textAt_sorted _ _

end Target

variable {m : Model} {target : Target}

theorem ContextSet.build_written {R T : Type} (requestContext : TaggedRequest → Except Error R)
    (typeContext : TypeDefinition → Except Error T) (name : R → String) {writeRequest : R → Json}
    {writeType : T → Json} (named : ∀ c, (writeRequest c).textAt "name" = name c) :
    (build requestContext typeContext name m).map
        (fun set => (set.requests.map writeRequest, set.types.map writeType)) =
      (do
        let requests ← m.requests.mapM fun t => (requestContext t).map writeRequest
        let types ← m.types.definitions.mapM fun d => (typeContext d).map writeType
        pure (requests.mergeSort fun a b => a.textAt "name" ≤ b.textAt "name", types)) := by
  rw [build, mapM_map_outcome, mapM_map_outcome]
  cases m.requests.mapM requestContext with
  | error e => rfl
  | ok requests =>
    cases m.types.definitions.mapM typeContext with
    | error e => rfl
    | ok types =>
      have sorted := List.map_mergeSort (f := writeRequest) (l := requests)
        (r := fun a b => name a ≤ name b) (s := fun a b => a.textAt "name" ≤ b.textAt "name")
        fun a _ b _ => by rw [named, named]
      exact congrArg (fun requests => Except.ok (requests, types.map writeType)) sorted

namespace Model

theorem contexts_written (m : Model) (target : Target) :
    (m.contexts target).map (fun c => (c.requestsJson, c.typesJson)) =
      (do
        let requests ← m.requests.mapM target.requestContext
        let types ← m.types.definitions.mapM target.typeContext
        pure (requests.mergeSort fun a b => a.textAt "name" ≤ b.textAt "name", types)) := by
  cases target with
  | rust =>
    rw [contexts]
    refine Eq.trans ?_ (ContextSet.build_written Rust.requestContext Rust.typeContext (·.name)
      fun c => Json.textAt_sorted "name" _)
    cases ContextSet.build Rust.requestContext Rust.typeContext (·.name) m <;> rfl
  | generic =>
    rw [contexts]
    refine Eq.trans ?_ (ContextSet.build_written Generic.requestContext
      (fun d => .ok (Generic.typeContext d)) (·.name) fun c => Json.textAt_sorted "name" _)
    cases ContextSet.build Generic.requestContext (fun d => .ok (Generic.typeContext d)) (·.name) m
      <;> rfl

theorem contexts_succeeds_iff :
    (∃ c, m.contexts target = .ok c) ↔
      (∀ t ∈ m.requests, ∃ context, target.requestContext t = .ok context) ∧
        ∀ d ∈ m.types.definitions, ∃ context, target.typeContext d = .ok context := by
  have written : (∃ c, m.contexts target = .ok c) ↔
      ∃ lists, (m.contexts target).map (fun c => (c.requestsJson, c.typesJson)) = .ok lists := by
    simp [map_eq_ok_iff]
  rw [written, contexts_written, ← mapM_succeeds_iff, ← mapM_succeeds_iff]
  simp only [bind_eq_ok]
  constructor
  · rintro ⟨_, requests, each, types, defined, -⟩
    exact ⟨⟨requests, each⟩, types, defined⟩
  · rintro ⟨⟨requests, each⟩, types, defined⟩
    exact ⟨_, requests, each, types, defined, rfl⟩

theorem contexts_eq_error_iff {e : Error} :
    m.contexts target = .error e ↔
      FirstFailure target.requestContext m.requests e ∨
        (∀ t ∈ m.requests, ∃ context, target.requestContext t = .ok context) ∧
          FirstFailure target.typeContext m.types.definitions e := by
  rw [← map_eq_error_iff, contexts_written, ← mapM_succeeds_iff, ← mapM_eq_error_iff,
    ← mapM_eq_error_iff]
  simp only [bind_eq_error]
  constructor
  · rintro (first | ⟨requests, each, second | ⟨types, -, returned⟩⟩)
    · exact .inl first
    · exact .inr ⟨⟨requests, each⟩, second⟩
    · cases returned
  · rintro (first | ⟨⟨requests, each⟩, second⟩)
    · exact .inl first
    · exact .inr ⟨requests, each, .inl second⟩

structure Covered (m : Model) (target : Target) (c : Contexts) : Prop where
  requests : ∃ built,
    List.Forall₂ (fun t context => target.requestContext t = .ok context) m.requests built ∧
      OrderedBy (Json.textAt "name") built c.requestsJson
  types : List.Forall₂ (fun d context => target.typeContext d = .ok context) m.types.definitions
    c.typesJson

theorem covered_of_contexts {c : Contexts} (built : m.contexts target = .ok c) :
    m.Covered target c := by
  have written : (m.contexts target).map (fun c => (c.requestsJson, c.typesJson)) =
      .ok (c.requestsJson, c.typesJson) := by
    rw [built]
    rfl
  rw [contexts_written] at written
  obtain ⟨requests, each, rest⟩ := bind_eq_ok.mp written
  obtain ⟨types, defined, returned⟩ := bind_eq_ok.mp rest
  obtain ⟨sorted, same⟩ := Prod.mk.inj (Except.ok.inj returned)
  refine ⟨⟨requests, mapM_eq_ok_iff.mp each, ?_⟩, same ▸ mapM_eq_ok_iff.mp defined⟩
  rw [← sorted]
  exact orderedBy_mergeSort (Json.textAt "name") requests

theorem names_of_covered {c : Contexts} (covered : m.Covered target c) :
    OrderedBy Prod.fst (m.requests.map fun t => (t.request.sdkName, t.request.name))
      (c.requestsJson.map fun v => (v.textAt "name", v.textAt "contract_name")) := by
  obtain ⟨built, each, ordered⟩ := covered.requests
  have names : built.map (fun v => (v.textAt "name", v.textAt "contract_name")) =
      m.requests.map fun t => (t.request.sdkName, t.request.name) := by
    rw [← List.forall₂_eq_eq_eq, List.forall₂_map_left_iff, List.forall₂_map_right_iff]
    refine each.flip.imp fun context t done => ?_
    obtain ⟨name, contractName⟩ := Target.names_of_requestContext done
    rw [name, contractName]
  rw [← names]
  exact OrderedBy.map ordered

theorem contractNames_of_covered {c : Contexts} (covered : m.Covered target c) :
    c.typesJson.map (Json.textAt "contract_name") = m.types.definitions.map (·.name) := by
  rw [← List.forall₂_eq_eq_eq, List.forall₂_map_left_iff, List.forall₂_map_right_iff]
  exact covered.types.flip.imp fun context d built => Target.contractName_of_typeContext built

end Model

theorem Contract.KeysAreNames.resolved {c : Contract} (named : c.KeysAreNames) {registry : Registry}
    {s : Selection} (resolved : c.resolveWith registry s = .ok m) :
    m.types.definitions.map (·.name) = m.types.keys := by
  obtain ⟨-, variants, -, rfl⟩ := resolveWith_eq_ok_iff.mp resolved
  rw [Catalog.definitions, List.map_map]
  refine List.map_congr_left fun e kept => ?_
  exact (named e (Catalog.mem_entries_reachableFrom.mp kept).1).symm

theorem Model.contexts_cover (m : Model) (target : Target) :
    ((∃ c, m.contexts target = .ok c) ↔
      (∀ t ∈ m.requests, ∃ context, target.requestContext t = .ok context) ∧
        ∀ d ∈ m.types.definitions, ∃ context, target.typeContext d = .ok context) ∧
    (∀ e, m.contexts target = .error e ↔
      FirstFailure target.requestContext m.requests e ∨
        (∀ t ∈ m.requests, ∃ context, target.requestContext t = .ok context) ∧
          FirstFailure target.typeContext m.types.definitions e) ∧
    ∀ c, m.contexts target = .ok c →
      m.Covered target c ∧
        ∀ text contract registry s, Contract.ofText? text = .ok contract →
          contract.resolveWith registry s = .ok m →
            c.typesJson.map (Json.textAt "contract_name") = m.types.keys ∧
              m.types.keys.Pairwise (· < ·) := by
  refine ⟨contexts_succeeds_iff, fun e => contexts_eq_error_iff, fun c built => ?_⟩
  have covered := covered_of_contexts built
  refine ⟨covered, fun text contract registry s read resolved => ⟨?_, ?_⟩⟩
  · have named := ((Contract.ofText?_eq_ok_iff_read? contract).mp read).1
    rw [contractNames_of_covered covered, named.resolved resolved]
  · exact List.pairwise_map.mpr m.types.ordered

def writtenRequest (name : String) (requiredParams : List Param) : Request :=
  { name, family := .objectApi, requiredParams }

def writtenType (name : String) : TypeDefinition :=
  { name, kind := .struct [] }

def writtenContract : Contract where
  requests := [
    writtenRequest "com.acme.PutTape" [{ name := "Drive", typeName := "TapeDrive" }],
    writtenRequest "com.acme.GetTape" [{ name := "Id", typeName := "Tape" }],
    writtenRequest "GetTape" []]
  types := .ofList (["Tape", "TapeDrive"].map fun key => (key, writtenType key))

-- The requests are not in the order of their names, of which two are the same but for what stands
-- before them, and the types not in that of their keys.
def writtenJson : Json := .obj [
  ("requests", .arr (writtenContract.requests.map Request.toJson)),
  ("types", .obj (["TapeDrive", "Tape"].map fun key => (key, (writtenType key).toJson)))]

def tapeText : String :=
  writtenJson.pretty

theorem ofText?_tapeText : Contract.ofText? tapeText = .ok writtenContract := by
  have readable : writtenJson.Readable := by simp [writtenJson]
  have decoded : Contract.ofDocument? writtenJson = some writtenContract := by decide +kernel
  have named : writtenContract.KeysAreNames := by decide +kernel
  refine (Contract.ofText?_eq_ok_iff_read? _).mpr ⟨named, ?_⟩
  rw [Contract.read?, tapeText, Json.parse?_pretty readable, Option.bind_some, decoded]
  rfl

def writtenModel : Model :=
  writtenContract.modelOf .builtin {} writtenContract.requests

theorem resolve_writtenContract :
    writtenContract.resolveWith .builtin {} = .ok writtenModel := by
  have valid : validateAll (Selection.candidates {} writtenContract.requests) = .ok () := by decide
  have single : splitAll (Selection.candidates {} writtenContract.requests) =
      .ok writtenContract.requests := by
    decide +kernel
  exact Contract.resolveWith_of_splitAll valid single

theorem types_writtenModel : writtenModel.types = writtenContract.types := by
  refine Catalog.reachableFrom_eq_self fun key known => ?_
  have inside : ∀ key ∈ writtenContract.types.keys,
      ∃ r ∈ writtenContract.requests, key ∈ r.references := by
    decide
  obtain ⟨r, listed, refers⟩ := inside key known
  exact .named listed (Request.mem_references.mp refers) known

theorem writtenModel_suited : ∃ c, writtenModel.contexts .rust = .ok c := by
  have paid : ∀ t ∈ writtenModel.requests, t.request.payload?.isOk = true := by decide
  have plain : ∀ d ∈ writtenContract.types.definitions, d.elements = [] := by decide
  refine Model.contexts_rust_succeeds_iff.mpr
    ⟨Model.contexts_generic_succeeds_iff.mpr paid, fun d defined e listed => ?_⟩
  rw [types_writtenModel] at defined
  rw [plain d defined] at listed
  exact absurd listed List.not_mem_nil

theorem orderedBy_writtenNames :
    OrderedBy Prod.fst
      [("PutTape", "com.acme.PutTape"), ("GetTape", "com.acme.GetTape"), ("GetTape", "GetTape")]
      [("GetTape", "com.acme.GetTape"), ("GetTape", "GetTape"),
        ("PutTape", "com.acme.PutTape")] := by
  refine ⟨by decide, by decide, fun k => ?_⟩
  by_cases get : k = "GetTape"
  · subst get
    rfl
  · simp [List.filter_cons, Ne.symm get]

theorem Model.contexts_cover_tapeText :
    (∃ m c, Contract.ofText? tapeText = .ok writtenContract ∧
      writtenContract.resolveWith .builtin {} = .ok m ∧
      m.contexts .rust = .ok c ∧
      m.Covered .rust c ∧
      m.requests.map (·.request.name) = ["com.acme.PutTape", "com.acme.GetTape", "GetTape"] ∧
      c.requestsJson.map (Json.textAt "contract_name") =
        ["com.acme.GetTape", "GetTape", "com.acme.PutTape"] ∧
      c.typesJson.map (Json.textAt "contract_name") = ["Tape", "TapeDrive"]) ∧
    ∃ e, FirstFailure (Target.typeContext .rust) (jobModel ["JobId", "Key"]).types.definitions e ∧
      (jobModel ["JobId", "Key"]).contexts .rust = .error e := by
  constructor
  · obtain ⟨c, built⟩ := writtenModel_suited
    obtain ⟨covered, told⟩ := (contexts_cover writtenModel .rust).2.2 c built
    have ordered : c.requestsJson.map (Json.textAt "contract_name") =
        ["com.acme.GetTape", "GetTape", "com.acme.PutTape"] := by
      have names := congrArg (List.map Prod.snd)
        ((names_of_covered covered).unique orderedBy_writtenNames)
      rwa [List.map_map] at names
    refine ⟨writtenModel, c, ofText?_tapeText, resolve_writtenContract, built, covered, rfl, ordered, ?_⟩
    rw [(told _ _ _ _ ofText?_tapeText resolve_writtenContract).1, types_writtenModel]
    rfl
  · let e : Error := .malformed "Id" (.severalTags ["JobId", "Key"])
    let d : TypeDefinition := ⟨"com.acme.Job", none, .struct [jobElement ["JobId", "Key"]]⟩
    have conflict : Rust.typeContext d = .error e := by decide +kernel
    have fails : Target.typeContext .rust d = .error e := by
      rw [Target.typeContext, conflict]
      rfl
    have first : FirstFailure (Target.typeContext .rust)
        (jobModel ["JobId", "Key"]).types.definitions e :=
      ⟨[], d, [], rfl, by simp, fails⟩
    have paid : ∀ t ∈ jobRequests, t.request.payload?.isOk = true := by decide +kernel
    refine ⟨e, first, ((contexts_cover _ .rust).2.1 e).mpr (.inr ⟨fun t listed => ?_, first⟩)⟩
    obtain ⟨c, done⟩ := Rust.requestContext_succeeds_iff.mpr (paid t listed)
    exact ⟨_, map_eq_ok_iff.mpr ⟨c, done, rfl⟩⟩

end ApiContract
