import ApiContract.Proofs.Naming
import ApiContract.Proofs.TargetAgreement
import Mathlib.Data.List.Infix

set_option autoImplicit false

namespace ApiContract

namespace Text

variable {word text : List Char}

theorem splitLastWord?_eq_none_iff (nonempty : word ≠ []) :
    splitLastWord? word text = none ↔ ¬word <:+: text := by
  induction text with
  | nil => simpa [splitLastWord?] using nonempty
  | cons c cs ih =>
    rw [splitLastWord?, List.infix_cons_iff]
    cases later : splitLastWord? word cs with
    | some parts =>
      have inside : word <:+: cs := by simpa [later] using ih
      simp [inside]
    | none =>
      have outside : ¬word <:+: cs := ih.mp later
      by_cases here : word <+: c :: cs <;>
        simp [here, outside]

theorem splitLastWord?_append (nonempty : word ≠ []) (before : List Char) :
    splitLastWord? word (before ++ word) = some (before, []) := by
  induction before with
  | nil =>
    cases word with
    | nil => contradiction
    | cons c cs =>
      -- What is left after the first character is too short to hold the word again.
      have short : ¬c :: cs <:+: cs := fun inside => absurd inside.length_le (by simp)
      simp [splitLastWord?, (splitLastWord?_eq_none_iff nonempty).mpr short]
  | cons c before ih => simp [splitLastWord?, ih]

theorem dropTail?_eq_none_of_getLast? {tail : List Char} (nonempty : tail ≠ [])
    (different : text.getLast? ≠ tail.getLast?) : dropTail? tail text = none := by
  refine Option.eq_none_iff_forall_ne_some.mpr fun stem dropped => different ?_
  rw [dropTail?_eq_some.mp dropped, List.getLast?_append_of_ne_nil _ nonempty]

end Text

namespace Name

theorem mentions_iff {name word : String} (nonempty : word ≠ "") :
    mentions name word = true ↔ word.toList <:+: name.toList := by
  have characters : word.toList ≠ [] := by simpa using nonempty
  rw [mentions, Option.isSome_iff_ne_none, ne_eq, Text.splitLastWord?_eq_none_iff characters,
    not_not]

theorem withoutHandler_request (front : String) :
    withoutHandler (front ++ "Request") = front ++ "Request" := by
  have kept : Text.dropTail? "Handler".toList (front ++ "Request").toList = none :=
    Text.dropTail?_eq_none_of_getLast? (by decide) (by simp)
  rw [withoutHandler, kept]

theorem withoutHandler_requestHandler (front : String) :
    withoutHandler (front ++ "RequestHandler") = front ++ "Request" := by
  have dropped : Text.dropTail? "Handler".toList (front ++ "RequestHandler").toList =
      some (front ++ "Request").toList := Text.dropTail?_eq_some.mpr (by simp)
  rw [withoutHandler, dropped]
  exact String.ofList_toList

theorem splitTail?_request {front : String} (oneLine : '\n' ∉ front.toList) :
    splitTail? (front ++ "Request") = some (front, "Request") := by
  have noHandler : Text.dropTail? "RequestHandler".toList (front ++ "Request").toList = none :=
    Text.dropTail?_eq_none_of_getLast? (by decide) (by simp)
  have dropped : Text.dropTail? "Request".toList (front ++ "Request").toList =
      some front.toList := Text.dropTail?_eq_some.mpr (by simp)
  simp only [splitTail?, requestTails, List.findSome?_cons, noHandler, dropped, if_neg oneLine,
    String.ofList_toList]

theorem replaceLastRequest_request (front word : String) :
    replaceLastRequest (front ++ "Request") word = front ++ word := by
  have split : Text.splitLastWord? "Request".toList (front ++ "Request").toList =
      some (front.toList, []) := by
    rw [String.toList_append]
    exact Text.splitLastWord?_append (by decide) _
  rw [replaceLastRequest, split]
  simp

section Bare

variable {front : String} (noDot : '.' ∉ front.toList)
include noDot

theorem simple_request : simple (front ++ "Request") = front ++ "Request" :=
  simple_eq_self_of_no_dot (by simpa using noDot)

theorem stem_request (oneLine : '\n' ∉ front.toList) : stem (front ++ "Request") = front := by
  unfold stem
  rw [simple_request noDot, splitTail?_request oneLine]

theorem insertBeforeTail_request (oneLine : '\n' ∉ front.toList) (token : String) :
    insertBeforeTail (front ++ "Request") token = front ++ token ++ "Request" := by
  have unscoped : scope (front ++ "Request") = "" := by
    rw [scope, Text.splitLast?_eq_none_iff.mpr (by simpa using noDot)]
  unfold insertBeforeTail insertInSimple
  rw [if_pos unscoped, simple_request noDot, splitTail?_request oneLine]

end Bare

end Name

namespace Request

variable {r : Request} {stem : String}

/-- What the generated names of a request begin with: its simple name up to the tail, and the mark
of the management interface where the request is of that interface and does not have it yet. -/
structure HasStem (r : Request) (stem : String) : Prop where
  oneLine : '\n' ∉ (Name.simple r.name).toList
  ends : ∃ front,
    (Name.simple r.name = front ++ "Request" ∨ Name.simple r.name = front ++ "RequestHandler") ∧
    stem = if r.family = .managementApi ∧ ¬managementToken.toList <:+: (front ++ "Request").toList
      then front ++ managementToken else front

theorem HasStem.mem (has : r.HasStem stem) {c : Char} (inside : c ∈ stem.toList) :
    c ∈ (Name.simple r.name).toList ∨ c ∈ managementToken.toList := by
  obtain ⟨front, ends, rfl⟩ := has.ends
  have kept : c ∈ front.toList → c ∈ (Name.simple r.name).toList := by
    rcases ends with whole | whole <;> rw [whole, String.toList_append] <;>
      exact List.mem_append_left _
  split_ifs at inside
  · rw [String.toList_append, List.mem_append] at inside
    exact inside.imp_left kept
  · exact .inl (kept inside)

theorem HasStem.no_dot (has : r.HasStem stem) : '.' ∉ stem.toList := fun inside =>
  (has.mem inside).elim (Name.no_dot_in_simple r.name) (by decide)

theorem HasStem.no_break (has : r.HasStem stem) : '\n' ∉ stem.toList := fun inside =>
  (has.mem inside).elim has.oneLine (by decide)

theorem HasStem.sdkName_eq (has : r.HasStem stem) : r.sdkName = stem ++ "Request" := by
  obtain ⟨front, ends, marked⟩ := has.ends
  have base : Name.withoutHandler (Name.simple r.name) = front ++ "Request" := by
    rcases ends with whole | whole <;> rw [whole]
    · exact Name.withoutHandler_request front
    · exact Name.withoutHandler_requestHandler front
  have unmarked : (decide (r.family = .managementApi) &&
        !Name.mentions (front ++ "Request") managementToken) = true ↔
      r.family = .managementApi ∧ ¬managementToken.toList <:+: (front ++ "Request").toList := by
    rw [← Name.mentions_iff (by decide), Bool.and_eq_true, decide_eq_true_eq, Bool.not_eq_true',
      Bool.not_eq_true]
  simp only [sdkName, base, unmarked]
  split_ifs at marked ⊢
  · have noDot : '.' ∉ front.toList := fun inside => has.no_dot (by simp [marked, inside])
    have noBreak : '\n' ∉ front.toList := fun inside => has.no_break (by simp [marked, inside])
    rw [Name.insertBeforeTail_request noDot noBreak, marked]
  · rw [marked]

end Request

namespace Rust

structure RequestContext.NamedAfter (context : RequestContext) (stem : String) : Prop where
  name : context.name = stem ++ "Request"
  responseName : context.responseName = stem ++ "Response"
  responseParserName : context.responseParserName = stem ++ "ResponseParser"
  fnName : context.fnName = Name.snakeCase stem

variable {r : Request} {stem : String} {tags : List String} {context : RequestContext}

theorem namedAfter_of_hasStem (has : r.HasStem stem)
    (built : requestContext ⟨r, tags⟩ = .ok context) : context.NamedAfter stem := by
  obtain ⟨payload, -, made⟩ := bind_eq_ok.mp built
  obtain rfl := Except.ok.inj made
  constructor <;> simp only [has.sdkName_eq]
  · rw [Name.response, Name.simple_request has.no_dot, Name.replaceLastRequest_request]
  · rw [Name.responseParser, Name.simple_request has.no_dot, Name.replaceLastRequest_request]
  · rw [Name.stem_request has.no_dot has.no_break]

section Pairs

variable {other : RequestContext} {otherStem : String}

theorem responseName_eq_iff (named : context.NamedAfter stem)
    (otherNamed : other.NamedAfter otherStem) :
    context.responseName = other.responseName ↔ context.name = other.name := by
  rw [named.responseName, otherNamed.responseName, named.name, otherNamed.name,
    String.append_left_inj, String.append_left_inj]

theorem responseParserName_eq_iff (named : context.NamedAfter stem)
    (otherNamed : other.NamedAfter otherStem) :
    context.responseParserName = other.responseParserName ↔ context.name = other.name := by
  rw [named.responseParserName, otherNamed.responseParserName, named.name, otherNamed.name,
    String.append_left_inj, String.append_left_inj]

theorem responseName_ne_parserName (named : context.NamedAfter stem)
    (otherNamed : other.NamedAfter otherStem) :
    context.responseName ≠ other.responseParserName := by
  intro same
  rw [named.responseName, otherNamed.responseParserName] at same
  have last := congrArg (fun s : String => s.toList.getLast?) same
  simp at last

end Pairs

end Rust

theorem generated_names_coherent {r : Request} {stem : String} (has : r.HasStem stem) :
    r.sdkName = stem ++ "Request" ∧
      ∀ tags context, Rust.requestContext ⟨r, tags⟩ = .ok context →
        context.NamedAfter stem ∧
          ∀ other otherStem otherTags otherContext, other.HasStem otherStem →
            Rust.requestContext ⟨other, otherTags⟩ = .ok otherContext →
              (context.responseName = otherContext.responseName ↔
                context.name = otherContext.name) ∧
              (context.responseParserName = otherContext.responseParserName ↔
                context.name = otherContext.name) ∧
              context.responseName ≠ otherContext.responseParserName := by
  refine ⟨has.sdkName_eq, fun tags context built => ?_⟩
  have named := Rust.namedAfter_of_hasStem has built
  refine ⟨named, fun other otherStem otherTags otherContext otherHas otherBuilt => ?_⟩
  have otherNamed := Rust.namedAfter_of_hasStem otherHas otherBuilt
  exact ⟨Rust.responseName_eq_iff named otherNamed,
    Rust.responseParserName_eq_iff named otherNamed,
    Rust.responseName_ne_parserName named otherNamed⟩

-- The words of the tail stand in front of it as well, and the second name is marked already.
def logsRequest : Request where
  name := "com.acme.RequestHandlerRequestLogsRequestHandler"
  family := .managementApi

def markedLogsRequest : Request where
  name := "org.acme.RequestHandlerRequestLogsSpectraS3Request"
  family := .managementApi

theorem generated_names_coherent_logsRequest :
    let stem := "RequestHandlerRequestLogsSpectraS3"
    logsRequest.HasStem stem ∧ markedLogsRequest.HasStem stem ∧
      logsRequest.sdkName = stem ++ "Request" ∧
      ∃ context other, Rust.requestContext ⟨logsRequest, []⟩ = .ok context ∧
        Rust.requestContext ⟨markedLogsRequest, []⟩ = .ok other ∧
        context.NamedAfter stem ∧ context.responseName = other.responseName ∧
        context.responseParserName = other.responseParserName := by
  intro stem
  have has : logsRequest.HasStem stem :=
    ⟨by decide +kernel, "RequestHandlerRequestLogs", .inr (by decide +kernel), by decide +kernel⟩
  have otherHas : markedLogsRequest.HasStem stem :=
    ⟨by decide +kernel, stem, .inl (by decide +kernel), by decide +kernel⟩
  obtain ⟨context, built⟩ : ∃ context, Rust.requestContext ⟨logsRequest, []⟩ = .ok context :=
    Rust.requestContext_succeeds_iff.mpr (by decide +kernel)
  obtain ⟨other, otherBuilt⟩ :
      ∃ context, Rust.requestContext ⟨markedLogsRequest, []⟩ = .ok context :=
    Rust.requestContext_succeeds_iff.mpr (by decide +kernel)
  obtain ⟨sdkName, ofContext⟩ := generated_names_coherent has
  obtain ⟨named, ofPair⟩ := ofContext [] context built
  obtain ⟨responses, parsers, -⟩ := ofPair _ stem [] other otherHas otherBuilt
  have otherNamed := Rust.namedAfter_of_hasStem otherHas otherBuilt
  have same : context.name = other.name := named.name.trans otherNamed.name.symm
  exact ⟨has, otherHas, sdkName, context, other, built, otherBuilt, named, responses.mpr same,
    parsers.mpr same⟩

end ApiContract
