import ApiContract.Document.Text
import ApiContract.Proofs.LooseJson

set_option autoImplicit false

namespace ApiContract

variable {text : String}

namespace Contract

def KeysAreNames (c : Contract) : Prop :=
  ∀ e ∈ c.types.entries, e.1 = e.2.name

instance (c : Contract) : Decidable c.KeysAreNames :=
  inferInstanceAs (Decidable (∀ e ∈ c.types.entries, e.1 = e.2.name))

theorem mismatch?_eq_none_iff (c : Contract) : c.mismatch? = none ↔ c.KeysAreNames := by
  simp [mismatch?, KeysAreNames]

theorem ofText?_eq_ok_iff_read? (c : Contract) :
    ofText? text = .ok c ↔ c.KeysAreNames ∧ read? text = some c := by
  rw [← mismatch?_eq_none_iff, ofText?]
  cases read? text with
  | none => simp
  | some d =>
    cases found : d.mismatch? with
    | none =>
      simp only [found, Except.ok.injEq, Option.some.injEq]
      exact ⟨fun same => ⟨same ▸ found, same⟩, And.right⟩
    | some keyAndName =>
      simp only [found, reduceCtorEq, false_iff, Option.some.injEq]
      rintro ⟨matching, rfl⟩
      simp [found] at matching

theorem read?_eq_some_iff {v : Json} (wellFormed : Json.parse? text = some v) (c : Contract) :
    read? text = some c ↔
      ofDocument? v = some c ∨
        ofDocument? v = none ∧ (Yaml.value? text).bind ofDocument? = some c := by
  rw [read?, wellFormed]
  cases direct : ofDocument? v <;> simp [direct]

theorem yaml_eq_some_iff {v : Json} (wellFormed : Json.parse? text = some v)
    (noSeparator : ∀ ch ∈ text.toList, Yaml.isSeparator ch = false) (c : Contract) :
    (Yaml.value? text).bind ofDocument? = some c ↔
      (Yaml.parse? text).isSome ∧ ofDocument? (Json.Loose.mk v) = some c := by
  rw [Yaml.value?]
  cases yaml : Yaml.parse? text with
  | none => simp
  | some n =>
    have mirrors := Yaml.mirrors_of_parse? noSeparator wellFormed yaml
    have same : ofDocument? (Yaml.Value.ofNode n) = ofDocument? (Json.Loose.mk v) :=
      ofDocument?_congr Yaml.agrees mirrors
    simp [same]

/-- A JSON text is read by the rules of JSON if these give a contract, and by those of YAML
otherwise. -/
theorem ofText?_eq_ok_iff {v : Json} (wellFormed : Json.parse? text = some v) (c : Contract) :
    (ofText? text = .ok c ↔ c.KeysAreNames ∧
      (ofDocument? v = some c ∨
        ofDocument? v = none ∧ (Yaml.value? text).bind ofDocument? = some c)) ∧
    ((∀ ch ∈ text.toList, Yaml.isSeparator ch = false) →
      (ofText? text = .ok c ↔ c.KeysAreNames ∧
        (ofDocument? v = some c ∨
          ofDocument? v = none ∧ (Yaml.parse? text).isSome ∧
            ofDocument? (Json.Loose.mk v) = some c))) := by
  have chosen : ofText? text = .ok c ↔ c.KeysAreNames ∧
      (ofDocument? v = some c ∨
        ofDocument? v = none ∧ (Yaml.value? text).bind ofDocument? = some c) := by
    rw [ofText?_eq_ok_iff_read?, read?_eq_some_iff wellFormed]
  refine ⟨chosen, fun noSeparator => ?_⟩
  rw [chosen, yaml_eq_some_iff wellFormed noSeparator]

def textNaming (name : String) : String :=
  "\x7b\"requests\":[\x7b\"name\":" ++ name ++ ",\"classification\":\"amazons3\"\x7d]\x7d"

def documentNaming (name : Json) : Json :=
  .obj [("requests", .arr [.obj [("name", name), ("classification", .str "amazons3")]])]

def naming (name : String) : Contract :=
  { requests := [{ name := name, family := .objectApi }], types := .empty }

theorem ofText?_eq_ok_iff_null :
    Json.parse? (textNaming "null") = some (documentNaming .null) ∧
      ofDocument? (documentNaming .null) = none ∧
      ofDocument? (Json.Loose.mk (documentNaming .null)) = some (naming "null") ∧
      ofText? (textNaming "null") = .ok (naming "null") := by
  have wellFormed : Json.parse? (textNaming "null") = some (documentNaming .null) := by rfl
  have refused : ofDocument? (documentNaming .null) = none := by rfl
  have loosely : ofDocument? (Json.Loose.mk (documentNaming .null)) = some (naming "null") := by
    rfl
  have noSeparator : ∀ ch ∈ (textNaming "null").toList, Yaml.isSeparator ch = false := by
    have none : (textNaming "null").toList.all (!Yaml.isSeparator ·) = true := by decide +kernel
    simpa only [List.all_eq_true, Bool.not_eq_true'] using none
  have isYaml : (Yaml.parse? (textNaming "null")).isSome := by decide +kernel
  refine ⟨wellFormed, refused, loosely, ?_⟩
  exact ((ofText?_eq_ok_iff wellFormed _).2 noSeparator).mpr
    ⟨by decide, .inr ⟨refused, isYaml, loosely⟩⟩

/-- No name is given by the rules of JSON, and still the text stands for a contract. -/
theorem ofText?_numeric_name :
    Json.parse? (textNaming "5") = some (documentNaming (.int 5)) ∧
      ofDocument? (documentNaming (.int 5)) = none ∧
      ofText? (textNaming "5") = .ok (naming "5") :=
  ⟨by rfl, by rfl, by decide +kernel⟩

end Contract

end ApiContract
