import ApiContract.Proofs.FormatAgreement
import ApiContract.Proofs.YamlNodes
import ApiContract.Proofs.YamlNumbers
import ApiContract.Yaml.Document

set_option autoImplicit false

namespace ApiContract

namespace Json

def written? : Json → Option String
  | .null => some "null"
  | .bool value => some (toString value)
  | .int n => some (toString n)
  | .real literal => some literal
  | .str text => some text
  | _ => none

-- A value that is read loosely.
structure Loose where
  json : Json

namespace Loose

def entries? (v : Loose) : Option (List (String × Loose)) :=
  (Json.entries? v.json).map (·.map fun f => (f.1, ⟨f.2⟩))

def fields? (names : List String) (v : Loose) : Option (List (String × Loose)) :=
  v.entries?.bind fun entries =>
    let known := entries.filter (names.contains ·.1)
    if (known.map (·.1)).Nodup then some known else none

instance : Document Loose where
  text? v := v.json.written?
  bool? v := Json.bool? v.json
  status? v := Json.status? v.json
  items? v := (Json.items? v.json).map (·.map Loose.mk)
  entries? := entries?
  fields? := fields?
  isAbsent? v := Json.isAbsent? v.json
  word? v := v.json.written?
  names? v := Json.names? v.json

end Loose

end Json

namespace Yaml

open Document (Agrees SameField bind_rel filter_rel keys_eq)

def Corresponds (v : Value) (w : Json.Loose) : Prop :=
  Mirrors w.json v.node

namespace Value

-- A scalar that is present, and none of the words that YAML knows.
structure IsOther (v : Value) : Prop where
  items : v.items? = none
  entries : v.entries? = none
  absent : v.isAbsent? = some false
  bool : v.bool? = none

variable (anchored : List (Nat × Node)) {text : String}

theorem isOther_of_likeNumber (like : LikeNumber text) :
    IsOther ⟨anchored, .scalar {} .plain text⟩ := by
  have present : text ≠ "" := like.ne "" rfl
  have notNull : Scalar.isNull text = false := by
    simp [Scalar.isNull, like.ne "null" rfl, like.ne "Null" rfl, like.ne "NULL" rfl,
      like.ne "~" rfl]
  have notBool : Scalar.bool? text = none := by
    simp [Scalar.bool?, like.ne "true" rfl, like.ne "True" rfl, like.ne "TRUE" rfl,
      like.ne "false" rfl, like.ne "False" rfl, like.ne "FALSE" rfl]
  constructor
  case items =>
    simp only [items?, target]
    split
    case h_1 same => cases same
    case h_2 same =>
      cases same
      contradiction
    case h_3 => rfl
  case entries =>
    simp only [entries?, target]
    split
    case h_1 same => cases same
    case h_2 same =>
      cases same
      contradiction
    case h_3 => rfl
  case absent => simp [isAbsent?, target, present, notNull]
  case bool => exact notBool

theorem isOther_int (n : Int) : IsOther ⟨anchored, .scalar {} .plain (toString n)⟩ :=
  isOther_of_likeNumber anchored (likeNumber_toString n)

theorem isOther_real (number : Json.number? text.toList = some (.real text)) :
    IsOther ⟨anchored, .scalar {} .plain text⟩ :=
  isOther_of_likeNumber anchored (likeNumber_of_number? number)

theorem entries?_mapping {fields : List (String × Json)} {entries : List (Node × Node)}
    (members : List.Forall₂ MirrorsField fields entries) :
    ∃ es, entries? ⟨anchored, .mapping {} entries⟩ = some es ∧
      List.Forall₂ (SameField Corresponds) es (fields.map fun f => (f.1, ⟨f.2⟩)) := by
  show ∃ es, entries.mapM (fun e => (text? ⟨anchored, e.1⟩).map
    (·, (⟨anchored, e.2⟩ : Value))) = some es ∧ _
  induction members with
  | nil => exact ⟨[], rfl, .nil⟩
  | @cons f e _ _ head _ ih =>
    obtain ⟨es, read, same⟩ := ih
    obtain ⟨key, mirrors⟩ := head
    refine ⟨(f.1, ⟨anchored, e.2⟩) :: es, ?_, .cons ⟨rfl, mirrors⟩ same⟩
    rw [List.mapM_cons, key, read]
    rfl

theorem entries_rel {v : Value} {w : Json.Loose} (corresponds : Corresponds v w) :
    Option.Rel (List.Forall₂ (SameField Corresponds)) v.entries? w.entries? := by
  obtain ⟨anchored, node⟩ := v
  obtain ⟨json⟩ := w
  have corresponds : Mirrors json node := corresponds
  cases corresponds with
  | int n =>
    rw [(isOther_int anchored n).entries]
    exact .none
  | real number =>
    rw [(isOther_real anchored number).entries]
    exact .none
  | bool value => cases value <;> exact .none
  | obj keys values =>
    obtain ⟨entries, isMapping, members⟩ := Mirrors.fields (.obj keys values)
    obtain rfl := (Node.mapping.inj isMapping).2
    obtain ⟨es, read, same⟩ := entries?_mapping anchored members
    rw [read]
    exact .some same
  | _ => exact .none

end Value

theorem agrees : Agrees Corresponds where
  text := by
    rintro ⟨_, node⟩ ⟨json⟩ mirrors
    cases mirrors <;> rfl
  bool := by
    rintro ⟨anchored, node⟩ ⟨json⟩ mirrors
    cases mirrors with
    | bool value => cases value <;> rfl
    | int n => exact (Value.isOther_int anchored n).bool
    | real number => exact (Value.isOther_real anchored number).bool
    | _ => rfl
  status := by
    rintro ⟨_, node⟩ ⟨json⟩ mirrors
    cases mirrors with
    | bool value => cases value <;> rfl
    | int n =>
      show (Scalar.natural? (toString n)).bind _ = Json.status? (.int n)
      rw [Scalar.natural?_int, Json.status?]
      by_cases natural : 0 ≤ n
      · have same : n.toNat < 65536 ↔ n < 65536 := by omega
        simp [natural, same]
      · simp [natural]
    | real number =>
      show (Scalar.natural? _).bind _ = none
      rw [Scalar.natural?_real number]
      rfl
    | _ => rfl
  absent := by
    rintro ⟨anchored, node⟩ ⟨json⟩ mirrors
    cases mirrors with
    | bool value => cases value <;> rfl
    | int n => exact (Value.isOther_int anchored n).absent
    | real number => exact (Value.isOther_real anchored number).absent
    | _ => rfl
  word := by
    rintro ⟨_, node⟩ ⟨json⟩ mirrors
    cases mirrors <;> rfl
  items := by
    rintro ⟨anchored, node⟩ ⟨json⟩ mirrors
    cases mirrors with
    | int n =>
      show Option.Rel _ (Value.items? _) none
      rw [(Value.isOther_int anchored n).items]
      exact .none
    | real number =>
      show Option.Rel _ (Value.items? _) none
      rw [(Value.isOther_real anchored number).items]
      exact .none
    | bool value => cases value <;> exact .none
    | arr members =>
      refine .some ?_
      rw [List.forall₂_map_left_iff, List.forall₂_map_right_iff]
      exact members.flip
    | _ => exact .none
  entries := Value.entries_rel
  fields := by
    intro v w corresponds names
    refine bind_rel (Value.entries_rel corresponds) fun es es' same => ?_
    have known := filter_rel same (names.contains ·)
    simp only [keys_eq known]
    split
    · exact .some known
    · exact .none

end Yaml

end ApiContract
