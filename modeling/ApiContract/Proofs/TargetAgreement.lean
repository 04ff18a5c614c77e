import ApiContract.Proofs.Contexts

set_option autoImplicit false

namespace ApiContract

theorem forall₂_of_common {α β γ : Type} {P : α → β → Prop} {Q : α → γ → Prop} {R : β → γ → Prop}
    {as : List α} {bs : List β} {cs : List γ} (first : List.Forall₂ P as bs)
    (second : List.Forall₂ Q as cs) (related : ∀ a b c, P a b → Q a c → R b c) :
    List.Forall₂ R bs cs := by
  induction first generalizing cs with
  | nil =>
    cases second
    exact .nil
  | cons here _ ih =>
    cases second with
    | cons there rest => exact .cons (related _ _ _ here there) (ih rest)

theorem forall₂_mergeSort {α β : Type} {R : α → β → Prop} {name : α → String}
    {title : β → String} (sameName : ∀ a b, R a b → name a = title b) {as : List α} {bs : List β}
    (related : List.Forall₂ R as bs) :
    List.Forall₂ R (as.mergeSort fun a b => name a ≤ name b)
      (bs.mergeSort fun a b => title a ≤ title b) := by
  obtain ⟨lengths, each⟩ := List.forall₂_iff_zip.mp related
  -- Both lists are sorted as the list of their pairs is.
  let pairs := (as.zip bs).mergeSort fun p q => name p.1 ≤ name q.1
  have lefts : pairs.map Prod.fst = as.mergeSort fun a b => name a ≤ name b := by
    rw [List.map_mergeSort (s := fun a b => name a ≤ name b) fun _ _ _ _ => rfl,
      List.map_fst_zip (by omega)]
  have rights : pairs.map Prod.snd = bs.mergeSort fun a b => title a ≤ title b := by
    rw [List.map_mergeSort (s := fun a b => title a ≤ title b), List.map_snd_zip (by omega)]
    intro p first q second
    rw [sameName _ _ (each first), sameName _ _ (each second)]
  rw [← lefts, ← rights, List.forall₂_map_left_iff, List.forall₂_map_right_iff, List.forall₂_same]
  intro p listed
  exact each (List.mem_mergeSort.mp listed)

structure RequestsAgree (rust : Rust.RequestContext) (generic : Generic.RequestContext) : Prop where
  name : rust.name = generic.name
  contractName : rust.contractName = generic.contractName
  verb : rust.verb = generic.verb
  strategy : rust.strategy = generic.strategy
  tags : rust.tags = generic.tags
  family : rust.module = generic.classification
  payload : rust.payload.map (·.contractType) = generic.payload.map (·.typeName)
  constructorArgs : rust.constructorArgs.map (·.contractType) =
    generic.constructorArgs.map (·.typeName)

structure TypesAgree (rust : Rust.TypeContext) (generic : Generic.TypeContext) : Prop where
  name : rust.name = generic.name
  contractName : rust.contractName = generic.contractName
  isEnum : rust.isEnum = generic.isEnum

theorem Rust.contractType_constructorArgs (r : Request) (args : List Param) :
    (constructorArgs r args).map (·.contractType) = args.map (·.typeName) := by
  simp [constructorArgs, Arg.ofParam]

theorem Rust.requestContext_eq_error_iff {t : TaggedRequest} {e : Error} :
    requestContext t = .error e ↔ t.request.payload? = .error e := by
  simp only [requestContext, bind_eq_error]
  simp [pure, Except.pure]

theorem Generic.requestContext_eq_error_iff {t : TaggedRequest} {e : Error} :
    requestContext t = .error e ↔ t.request.payload? = .error e := by
  simp only [requestContext, bind_eq_error]
  simp [pure, Except.pure]

theorem Rust.requestContext_succeeds_iff {t : TaggedRequest} :
    (∃ context, requestContext t = .ok context) ↔ t.request.payload?.isOk = true := by
  rw [← Generic.requestContext_succeeds_iff, ← not_iff_not, ← exists_error_iff, ← exists_error_iff]
  simp only [requestContext_eq_error_iff, Generic.requestContext_eq_error_iff]

theorem requestsAgree_of_built {t : TaggedRequest} {rust : Rust.RequestContext}
    {generic : Generic.RequestContext} (first : Rust.requestContext t = .ok rust)
    (second : Generic.requestContext t = .ok generic) : RequestsAgree rust generic := by
  obtain ⟨payload, found, returned⟩ := bind_eq_ok.mp first
  obtain ⟨payload', found', returned'⟩ := bind_eq_ok.mp second
  obtain rfl : payload = payload' := Except.ok.inj (found.symm.trans found')
  obtain rfl := Except.ok.inj returned
  obtain rfl := Except.ok.inj returned'
  constructor
  case payload => cases payload <;> rfl
  case constructorArgs => exact Rust.contractType_constructorArgs _ _
  all_goals rfl

theorem typesAgree_of_built {d : TypeDefinition} {rust : Rust.TypeContext}
    {generic : Generic.TypeContext} (first : Rust.typeContext d = .ok rust)
    (second : Except.ok (Generic.typeContext d) = Except.ok (ε := Error) generic) :
    TypesAgree rust generic := by
  obtain ⟨fields, -, returned⟩ := bind_eq_ok.mp first
  obtain rfl := Except.ok.inj returned
  obtain rfl := Except.ok.inj second
  exact ⟨rfl, rfl, rfl⟩

theorem Rust.field_succeeds_iff {e : Element} :
    (∃ context, field e = .ok context) ↔ ∃ tag, e.tag? = .ok tag := by
  simp only [field, bind_eq_ok]
  constructor
  · rintro ⟨_, tag, found, -⟩
    exact ⟨tag, found⟩
  · rintro ⟨tag, found⟩
    exact ⟨_, tag, found, rfl⟩

theorem Rust.typeContext_succeeds_iff {d : TypeDefinition} :
    (∃ context, typeContext d = .ok context) ↔ ∀ e ∈ d.elements, ∃ tag, e.tag? = .ok tag := by
  simp only [← field_succeeds_iff, ← mapM_succeeds_iff, typeContext, bind_eq_ok]
  constructor
  · rintro ⟨_, fields, each, -⟩
    exact ⟨fields, each⟩
  · rintro ⟨fields, each⟩
    exact ⟨_, fields, each, rfl⟩

namespace Model

variable {m : Model}

theorem contexts_generic_eq_error_iff {e : Error} :
    m.contexts .generic = .error e ↔ FirstFailure (·.request.payload?) m.requests e := by
  have defined :
      m.types.definitions.mapM (fun d => Except.ok (ε := Error) (Generic.typeContext d)) =
        .ok (m.types.definitions.map Generic.typeContext) := by
    rw [mapM_eq_ok_iff, List.forall₂_map_right_iff, List.forall₂_same]
    exact fun _ _ => rfl
  -- Its types cannot fail, so the first request that does decides.
  rw [← FirstFailure.congr fun t e => Generic.requestContext_eq_error_iff, ← mapM_eq_error_iff]
  simp [contexts, ContextSet.build, bind_eq_error, defined, pure, Except.pure]

theorem contexts_rust_of_firstFailure {e : Error}
    (fails : FirstFailure (·.request.payload?) m.requests e) : m.contexts .rust = .error e := by
  have first : m.requests.mapM Rust.requestContext = .error e :=
    mapM_eq_error_iff.mpr
      ((FirstFailure.congr fun t e => Rust.requestContext_eq_error_iff).mpr fails)
  simp [contexts, ContextSet.build, bind_eq_error, first]

theorem contexts_rust_succeeds_iff :
    (∃ contexts, m.contexts .rust = .ok contexts) ↔
      (∃ contexts, m.contexts .generic = .ok contexts) ∧
        ∀ d ∈ m.types.definitions, ∀ e ∈ d.elements, ∃ tag, e.tag? = .ok tag := by
  have built : (∃ contexts, m.contexts .rust = .ok contexts) ↔
      ∃ set, ContextSet.build Rust.requestContext Rust.typeContext (·.name) m = .ok set := by
    simp only [contexts, bind_eq_ok]
    constructor
    · rintro ⟨_, set, done, -⟩
      exact ⟨set, done⟩
    · rintro ⟨set, done⟩
      exact ⟨_, set, done, rfl⟩
  rw [built, ContextSet.build_succeeds_iff, contexts_generic_succeeds_iff]
  simp only [Rust.requestContext_succeeds_iff, Rust.typeContext_succeeds_iff]

def HasConflictingTags (m : Model) : Prop :=
  ∃ d ∈ m.types.definitions, ∃ elements, d.kind = .struct elements ∧
    ∃ element ∈ elements, ∃ e, element.tag? = .error e

theorem hasConflictingTags_iff :
    m.HasConflictingTags ↔
      ¬∀ d ∈ m.types.definitions, ∀ e ∈ d.elements, ∃ tag, e.tag? = .ok tag := by
  simp only [HasConflictingTags, exists_error_iff, not_forall, exists_prop]
  refine exists_congr fun d => and_congr_right fun _ => ?_
  cases shape : d.kind <;> simp [TypeDefinition.elements, shape]

theorem contexts_agree (m : Model) :
    (∀ e, m.contexts .generic = .error e → m.contexts .rust = .error e) ∧
      (∀ generic, m.contexts .generic = .ok generic →
        ((∃ e, m.contexts .rust = .error e) ↔ m.HasConflictingTags)) ∧
      ∀ generic rust, m.contexts .generic = .ok generic → m.contexts .rust = .ok rust →
        ∃ g r, generic = .generic g ∧ rust = .rust r ∧
          List.Forall₂ RequestsAgree r.requests g.requests ∧
          List.Forall₂ TypesAgree r.types g.types := by
  refine ⟨fun e fails => ?_, fun generic built => ?_, fun generic rust built built' => ?_⟩
  · exact contexts_rust_of_firstFailure (contexts_generic_eq_error_iff.mp fails)
  · rw [exists_error_iff, contexts_rust_succeeds_iff, hasConflictingTags_iff,
      and_iff_right ⟨generic, built⟩]
  · obtain ⟨g, done, returned⟩ := bind_eq_ok.mp built
    obtain ⟨r, done', returned'⟩ := bind_eq_ok.mp built'
    obtain ⟨requests, each, defined, sorted⟩ := ContextSet.build_eq_ok_iff.mp done
    obtain ⟨requests', each', defined', sorted'⟩ := ContextSet.build_eq_ok_iff.mp done'
    refine ⟨g, r, (Except.ok.inj returned).symm, (Except.ok.inj returned').symm, ?_, ?_⟩
    · have agree : List.Forall₂ RequestsAgree requests' requests :=
        forall₂_of_common each' each fun _ _ _ => requestsAgree_of_built
      rw [sorted, sorted']
      exact forall₂_mergeSort (fun _ _ agree => agree.name) agree
    · exact forall₂_of_common defined' defined fun _ _ _ => typesAgree_of_built

-- The names are not in order, and one of the requests has a payload.
def jobRequests : List TaggedRequest := [
  ⟨{ name := "com.acme.PutJobRequest"
     family := .managementApi
     requiredParams := [{ name := "Job", typeName := uuidType }]
     responseCodes := [{ code := 200, types := [{ typeName := "com.acme.Job" }] }] }, []⟩,
  ⟨{ name := "com.acme.GetJobRequest", family := .objectApi }, ["get-job"]⟩]

def jobElement (tags : List String) : Element where
  name := "Id"
  typeName := uuidType
  annotations := tags.map fun tag =>
    ⟨"com.acme.CustomMarshaledName", [{ name := "Value", value := tag }]⟩

def jobModel (tags : List String) : Model where
  requests := jobRequests
  types := .ofList [("com.acme.Job", ⟨"com.acme.Job", none, .struct [jobElement tags]⟩)]

theorem contexts_agree_jobModel :
    (∃ generic rust, (jobModel ["JobId"]).contexts .generic = .ok (.generic generic) ∧
      (jobModel ["JobId"]).contexts .rust = .ok (.rust rust) ∧
      List.Forall₂ RequestsAgree rust.requests generic.requests ∧
      List.Forall₂ TypesAgree rust.types generic.types) ∧
    ∃ generic e, (jobModel ["JobId", "Key"]).contexts .generic = .ok generic ∧
      (jobModel ["JobId", "Key"]).contexts .rust = .error e := by
  have paid : ∀ t ∈ jobRequests, t.request.payload?.isOk = true := by decide +kernel
  have built (tags : List String) : ∃ generic, (jobModel tags).contexts .generic = .ok generic :=
    contexts_generic_succeeds_iff.mpr paid
  constructor
  · obtain ⟨generic, first⟩ := built ["JobId"]
    have tagged : ∀ d ∈ (jobModel ["JobId"]).types.definitions, ∀ e ∈ d.elements,
        e.tag? = .ok "JobId" := by decide +kernel
    obtain ⟨rust, second⟩ := contexts_rust_succeeds_iff.mpr
      ⟨⟨generic, first⟩, fun d defined e listed => ⟨_, tagged d defined e listed⟩⟩
    obtain ⟨g, r, rfl, rfl, requests, types⟩ := (contexts_agree _).2.2 generic rust first second
    exact ⟨g, r, first, second, requests, types⟩
  · obtain ⟨generic, first⟩ := built ["JobId", "Key"]
    have conflict : (jobElement ["JobId", "Key"]).tag? =
        .error (.malformed "Id" (.severalTags ["JobId", "Key"])) := by decide +kernel
    obtain ⟨e, fails⟩ := ((contexts_agree _).2.1 generic first).mpr
      ⟨_, .head _, _, rfl, _, .head _, _, conflict⟩
    exact ⟨generic, e, first, fails⟩

end Model

end ApiContract
