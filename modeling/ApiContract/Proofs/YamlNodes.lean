import ApiContract.Proofs.YamlTokens
import ApiContract.Yaml.Parser
import Mathlib.Data.List.Forall2

set_option autoImplicit false

namespace ApiContract.Yaml

open Json (Expects Frame)

inductive Mirrors : Json → Node → Prop
  | null : Mirrors .null (.scalar {} .plain "null")
  | bool (value : Bool) : Mirrors (.bool value) (.scalar {} .plain (toString value))
  | int (n : Int) : Mirrors (.int n) (.scalar {} .plain (toString n))
  | real {literal : String} (number : Json.number? literal.toList = some (.real literal)) :
      Mirrors (.real literal) (.scalar {} .plain literal)
  | str (text : String) : Mirrors (.str text) (.scalar {} .quoted text)
  | arr {items : List Json} {nodes : List Node} (members : List.Forall₂ Mirrors items nodes) :
      Mirrors (.arr items) (.sequence {} nodes)
  | obj {fields : List (String × Json)} {entries : List (Node × Node)}
      (keys : entries.map (·.1) = fields.map (.scalar {} .quoted ·.1))
      (values : List.Forall₂ Mirrors (fields.map (·.2)) (entries.map (·.2))) :
      Mirrors (.obj fields) (.mapping {} entries)

def MirrorsField (field : String × Json) (entry : Node × Node) : Prop :=
  entry.1 = .scalar {} .quoted field.1 ∧ Mirrors field.2 entry.2

theorem mirrors_obj {fields : List (String × Json)} {entries : List (Node × Node)}
    (members : List.Forall₂ MirrorsField fields entries) :
    Mirrors (.obj fields) (.mapping {} entries) := by
  refine .obj ?_ ?_
  · induction members with
    | nil => rfl
    | cons head _ ih => rw [List.map_cons, List.map_cons, head.1, ih]
  · rw [List.forall₂_map_left_iff, List.forall₂_map_right_iff]
    exact members.imp fun _ _ mirrors => mirrors.2

theorem Mirrors.fields {fields : List (String × Json)} {n : Node}
    (mirrors : Mirrors (.obj fields) n) :
    ∃ entries, n = .mapping {} entries ∧ List.Forall₂ MirrorsField fields entries := by
  cases mirrors with
  | @obj _ entries keys values =>
    refine ⟨entries, rfl, ?_⟩
    induction fields generalizing entries with
    | nil =>
      obtain rfl : entries = [] := by simpa using keys
      exact .nil
    | cons f fields ih =>
      cases entries with
      | nil => simp at keys
      | cons e entries =>
        obtain ⟨key, keys⟩ := List.cons.inj keys
        obtain ⟨value, values⟩ := List.forall₂_cons.mp values
        exact .cons ⟨key, value⟩ (ih keys values)

theorem mirrors_of_isBare {t : Json.Token} {literal : String} {v : Json} (bare : t.IsBare literal)
    (scalar : Expects.scalar? t = some v) : Mirrors v (.scalar {} .plain literal) := by
  cases bare with
  | null | bool | int => exact Option.some.inj scalar ▸ by constructor
  | real number => exact Option.some.inj scalar ▸ .real number

theorem mirrors_of_written {t : Json.Token} {y : Token} {v : Json} (written : Written t y)
    (scalar : Expects.scalar? t = some v) :
    ∃ style text, y = .scalar style text ∧ Mirrors v (.scalar {} style text) := by
  cases written with
  | text name => exact ⟨_, name, rfl, Option.some.inj scalar ▸ .str name⟩
  | bare bare => exact ⟨_, _, rfl, mirrors_of_isBare bare scalar⟩
  | _ => contradiction

theorem Written.eq_of_sign {t : Json.Token} {y z : Token} (written : Written t y)
    (written' : Written t z) (sign : (Json.Reader.sign? t).isSome = true) : y = z := by
  cases written' with
  | text => contradiction
  | bare bare => cases bare <;> contradiction
  | _ =>
    cases written with
    | bare bare => cases bare
    | _ => rfl

theorem Written.unique {t t' : Json.Token} {y : Token} (written : Written t y)
    (written' : Written t' y) (sign : (Json.Reader.sign? t).isSome = true) : t = t' := by
  cases written with
  | text => contradiction
  | bare bare => cases bare <;> contradiction
  | _ =>
    cases written'
    rfl

namespace Reader

variable {α β : Type}

theorem bind_eq_some {x : Reader α} {f : α → Reader β} {s s' : Stream} {b : β} :
    (x >>= f) s = some (b, s') ↔ ∃ a s₁, x s = some (a, s₁) ∧ f a s₁ = some (b, s') := by
  show (x s).bind (fun r => f r.1 r.2) = _ ↔ _
  rw [Option.bind_eq_some_iff]
  exact ⟨fun ⟨⟨a, s₁⟩, read, later⟩ => ⟨a, s₁, read, later⟩,
    fun ⟨a, s₁, read, later⟩ => ⟨⟨a, s₁⟩, read, later⟩⟩

def goOn (s : Stream) (tokens : List Token) : Stream :=
  { s with tokens }

theorem node_scalar {s : Stream} {style : ScalarStyle} {text : String} {rest : List Token}
    (tokens : s.tokens = .scalar style text :: rest) (depth : Nat) (block indentless : Bool) :
    node (depth + 1) block indentless s = some (.scalar {} style text, goOn s rest) := by
  obtain ⟨_, slots, handles⟩ := s
  obtain rfl := tokens
  rw [node]
  rfl

theorem node_sequence {s s' : Stream} {rest : List Token} {n : Node}
    (tokens : s.tokens = .openSequence :: rest) {depth : Nat} {block indentless : Bool}
    (read : node (depth + 1) block indentless s = some (n, s')) :
    ∃ items, flowItems depth true (goOn s rest) = some (items, s') ∧ n = .sequence {} items := by
  obtain ⟨_, slots, handles⟩ := s
  obtain rfl := tokens
  rw [node] at read
  have read : (flowItems depth true >>= fun items => (pure (.sequence {} items) : Reader Node))
      ⟨rest, slots, handles⟩ = some (n, s') := read
  obtain ⟨items, _, isItems, returned⟩ := bind_eq_some.mp read
  obtain ⟨rfl, rfl⟩ := Prod.mk.inj (Option.some.inj returned)
  exact ⟨items, isItems, rfl⟩

theorem node_mapping {s s' : Stream} {rest : List Token} {n : Node}
    (tokens : s.tokens = .openMapping :: rest) {depth : Nat} {block indentless : Bool}
    (read : node (depth + 1) block indentless s = some (n, s')) :
    ∃ entries, flowEntries depth true (goOn s rest) = some (entries, s') ∧
      n = .mapping {} entries := by
  obtain ⟨_, slots, handles⟩ := s
  obtain rfl := tokens
  rw [node] at read
  have read : (flowEntries depth true >>= fun entries =>
      (pure (.mapping {} entries) : Reader Node)) ⟨rest, slots, handles⟩ = some (n, s') := read
  obtain ⟨entries, _, isEntries, returned⟩ := bind_eq_some.mp read
  obtain ⟨rfl, rfl⟩ := Prod.mk.inj (Option.some.inj returned)
  exact ⟨entries, isEntries, rfl⟩

-- Where the next item or entry of a collection begins: at once for the first, and after a comma for
-- all others.
def Separated (first : Bool) (s s' : Stream) : Prop :=
  (first = true ∧ s' = s) ∨ first = false ∧ ∃ rest, s.tokens = .comma :: rest ∧ s' = goOn s rest

def itemsHere (depth : Nat) : Reader (List Node) := do
  match ← peek with
  | some .closeSequence => skip; return []
  | some .key =>
    skip
    let entry ← pair depth
    return .mapping {} [entry] :: (← flowItems depth false)
  | _ =>
    let item ← node depth false false
    return item :: (← flowItems depth false)

theorem itemsHere_cases {depth : Nat} {s s' : Stream} {items : List Node}
    (read : itemsHere depth s = some (items, s')) :
    s.tokens.head? = some .closeSequence ∨ s.tokens.head? = some .key ∨
      ∃ n s₁ more, node depth false false s = some (n, s₁) ∧
        flowItems depth false s₁ = some (more, s') ∧ items = n :: more := by
  obtain ⟨tokens, slots, handles⟩ := s
  have further (read : (node depth false false >>= fun n => flowItems depth false >>= fun more =>
      (pure (n :: more) : Reader (List Node))) ⟨tokens, slots, handles⟩ = some (items, s')) :
      ∃ n s₁ more, node depth false false ⟨tokens, slots, handles⟩ = some (n, s₁) ∧
        flowItems depth false s₁ = some (more, s') ∧ items = n :: more := by
    obtain ⟨n, s₁, isNode, read⟩ := bind_eq_some.mp read
    obtain ⟨more, _, isMore, returned⟩ := bind_eq_some.mp read
    obtain ⟨rfl, rfl⟩ := Prod.mk.inj (Option.some.inj returned)
    exact ⟨n, s₁, more, isNode, isMore, rfl⟩
  cases tokens with
  | nil => exact .inr (.inr (further read))
  | cons y ys =>
    cases y with
    | closeSequence => exact .inl rfl
    | key => exact .inr (.inl rfl)
    | _ => exact .inr (.inr (further read))

theorem flowItems_cases {depth : Nat} {first : Bool} {s s' : Stream} {items : List Node}
    (read : flowItems (depth + 1) first s = some (items, s')) :
    (∃ rest, s.tokens = .closeSequence :: rest ∧ items = [] ∧ s' = goOn s rest) ∨
      s.tokens.head? ≠ some .closeSequence ∧
        ∃ s₁, Separated first s s₁ ∧ itemsHere depth s₁ = some (items, s') := by
  obtain ⟨tokens, slots, handles⟩ := s
  rw [flowItems] at read
  cases tokens with
  | nil => contradiction
  | cons y ys =>
    by_cases closes : y = .closeSequence
    · subst closes
      obtain ⟨rfl, rfl⟩ := Prod.mk.inj (Option.some.inj read)
      exact .inl ⟨ys, rfl, rfl, rfl⟩
    · refine .inr ⟨by simpa using closes, ?_⟩
      cases first with
      | true =>
        refine ⟨_, .inl ⟨rfl, rfl⟩, ?_⟩
        cases y with
        | closeSequence => contradiction
        | _ => exact read
      | false =>
        cases y with
        | comma => exact ⟨_, .inr ⟨rfl, ys, rfl, rfl⟩, read⟩
        | _ => contradiction

def entriesHere (depth : Nat) : Reader (List (Node × Node)) := do
  match ← peek with
  | some .closeMapping => skip; return []
  | some .key =>
    skip
    let key ← nodeOrEmpty depth false false endsFlowKey
    let value ← valueOrEmpty depth false endsFlowValue
    return (key, value) :: (← flowEntries depth false)
  | _ =>
    let key ← node depth false false
    return (key, .empty) :: (← flowEntries depth false)

theorem entriesHere_cases {depth : Nat} {s s' : Stream} {entries : List (Node × Node)}
    (read : entriesHere depth s = some (entries, s')) :
    s.tokens.head? = some .closeMapping ∨
      (∃ rest key value s₁ s₂ more, s.tokens = .key :: rest ∧
        nodeOrEmpty depth false false endsFlowKey (goOn s rest) = some (key, s₁) ∧
        valueOrEmpty depth false endsFlowValue s₁ = some (value, s₂) ∧
        flowEntries depth false s₂ = some (more, s') ∧ entries = (key, value) :: more) ∨
      s.tokens.head? ≠ some .key ∧ ∃ key s₁ more, node depth false false s = some (key, s₁) ∧
        flowEntries depth false s₁ = some (more, s') := by
  obtain ⟨tokens, slots, handles⟩ := s
  have further (read : (node depth false false >>= fun key =>
      flowEntries depth false >>= fun more =>
      (pure ((key, .empty) :: more) : Reader (List (Node × Node)))) ⟨tokens, slots, handles⟩ =
        some (entries, s')) :
      ∃ key s₁ more, node depth false false ⟨tokens, slots, handles⟩ = some (key, s₁) ∧
        flowEntries depth false s₁ = some (more, s') := by
    obtain ⟨key, s₁, isKey, read⟩ := bind_eq_some.mp read
    obtain ⟨more, _, isMore, returned⟩ := bind_eq_some.mp read
    obtain ⟨rfl, rfl⟩ := Prod.mk.inj (Option.some.inj returned)
    exact ⟨key, s₁, more, isKey, isMore⟩
  cases tokens with
  | nil => exact .inr (.inr ⟨by simp, further read⟩)
  | cons y ys =>
    cases y with
    | closeMapping => exact .inl rfl
    | key =>
      have read : (nodeOrEmpty depth false false endsFlowKey >>= fun key =>
          valueOrEmpty depth false endsFlowValue >>= fun value =>
          flowEntries depth false >>= fun more =>
          (pure ((key, value) :: more) : Reader (List (Node × Node)))) ⟨ys, slots, handles⟩ =
            some (entries, s') := read
      obtain ⟨key, s₁, isKey, read⟩ := bind_eq_some.mp read
      obtain ⟨value, s₂, isValue, read⟩ := bind_eq_some.mp read
      obtain ⟨more, _, isMore, returned⟩ := bind_eq_some.mp read
      obtain ⟨rfl, rfl⟩ := Prod.mk.inj (Option.some.inj returned)
      exact .inr (.inl ⟨ys, key, value, s₁, s₂, more, rfl, isKey, isValue, isMore, rfl⟩)
    | _ => exact .inr (.inr ⟨by simp, further read⟩)

theorem flowEntries_cases {depth : Nat} {first : Bool} {s s' : Stream}
    {entries : List (Node × Node)}
    (read : flowEntries (depth + 1) first s = some (entries, s')) :
    (∃ rest, s.tokens = .closeMapping :: rest ∧ entries = [] ∧ s' = goOn s rest) ∨
      s.tokens.head? ≠ some .closeMapping ∧
        ∃ s₁, Separated first s s₁ ∧ entriesHere depth s₁ = some (entries, s') := by
  obtain ⟨tokens, slots, handles⟩ := s
  rw [flowEntries] at read
  cases tokens with
  | nil => contradiction
  | cons y ys =>
    by_cases closes : y = .closeMapping
    · subst closes
      obtain ⟨rfl, rfl⟩ := Prod.mk.inj (Option.some.inj read)
      exact .inl ⟨ys, rfl, rfl, rfl⟩
    · refine .inr ⟨by simpa using closes, ?_⟩
      cases first with
      | true =>
        refine ⟨_, .inl ⟨rfl, rfl⟩, ?_⟩
        cases y with
        | closeMapping => contradiction
        | _ => exact read
      | false =>
        cases y with
        | comma => exact ⟨_, .inr ⟨rfl, ys, rfl, rfl⟩, read⟩
        | _ => contradiction

theorem nodeOrEmpty_eq_some {depth : Nat} {block indentless : Bool} {ends : Token → Bool}
    {s s' : Stream} {n : Node} (goesOn : s.tokens.head?.any ends = false)
    (read : nodeOrEmpty depth block indentless ends s = some (n, s')) :
    ∃ less, less < depth ∧ node less block indentless s = some (n, s') := by
  cases depth with
  | zero => contradiction
  | succ depth =>
    rw [nodeOrEmpty] at read
    obtain ⟨ended, _, followed, read⟩ := bind_eq_some.mp read
    obtain ⟨rfl, rfl⟩ := Prod.mk.inj (Option.some.inj followed)
    rw [goesOn, if_neg Bool.false_ne_true] at read
    exact ⟨depth, Nat.lt_succ_self depth, read⟩

theorem valueOrEmpty_eq_some {depth : Nat} {ends : Token → Bool} {s s' : Stream}
    {rest : List Token} {n : Node} (tokens : s.tokens = .value :: rest)
    (read : valueOrEmpty depth false ends s = some (n, s')) :
    ∃ less, less < depth ∧ nodeOrEmpty less false false ends (goOn s rest) = some (n, s') := by
  cases depth with
  | zero => contradiction
  | succ depth =>
    obtain ⟨_, slots, handles⟩ := s
    obtain rfl := tokens
    rw [valueOrEmpty] at read
    exact ⟨depth, Nat.lt_succ_self depth, read⟩

def Ahead (e : Expects) (s : Stream) (v : Json) : Prop :=
  ∃ ts, Marked ts s.tokens ∧ e.Accepts ts v

theorem Ahead.next {e : Expects} {s : Stream} {v : Json} (ahead : Ahead e s v) :
    (s.tokens = [] ∧ e = .nothing v) ∨
    (∃ t y ys e', s.tokens = y :: ys ∧ Written t y ∧ e.Step t e' ∧ Ahead e' (goOn s ys) v) ∨
    ∃ name ys e₁ e₂, s.tokens = .key :: .scalar .quoted name :: .value :: ys ∧
      e.Step (.text (some name)) e₁ ∧ e₁.Step .colon e₂ ∧ Ahead e₂ (goOn s ys) v := by
  obtain ⟨ts, marked, accepted⟩ := ahead
  generalize isTokens : s.tokens = tokens at marked
  cases marked with
  | nil => exact .inl ⟨rfl, Expects.accepts_nil.mp accepted⟩
  | cons written rest =>
    obtain ⟨e', step, accepted⟩ := Expects.accepts_cons.mp accepted
    exact .inr (.inl ⟨_, _, _, e', rfl, written, Expects.step_cases step, _, rest, accepted⟩)
  | key rest =>
    obtain ⟨e₁, step₁, accepted⟩ := Expects.accepts_cons.mp accepted
    obtain ⟨e₂, step₂, accepted⟩ := Expects.accepts_cons.mp accepted
    exact .inr (.inr ⟨_, _, e₁, e₂, rfl, Expects.step_cases step₁, Expects.step_cases step₂,
      _, rest, accepted⟩)

-- The next token of YAML is one of JSON, unless it marks a key.
theorem Ahead.sign {e : Expects} {s : Stream} {v : Json} {y : Token} {ys : List Token}
    (ahead : Ahead e s v) (tokens : s.tokens = y :: ys) {t : Json.Token} (written : Written t y)
    (sign : (Json.Reader.sign? t).isSome = true) :
    ∃ e', e.Step t e' ∧ Ahead e' (goOn s ys) v := by
  rcases ahead.next with ⟨none, _⟩ | ⟨t', y', ys', e', tokens', written', step, ahead⟩ |
    ⟨name, ys', e₁, e₂, tokens', _⟩
  · rw [tokens] at none
    contradiction
  · obtain ⟨rfl, rfl⟩ := List.cons.inj (tokens.symm.trans tokens')
    obtain rfl := written.unique written' sign
    exact ⟨e', step, ahead⟩
  · obtain ⟨rfl, -⟩ := List.cons.inj (tokens.symm.trans tokens')
    cases written

theorem Ahead.opened {stack : List Frame} {s : Stream} {v : Json}
    (ahead : Ahead (.value stack) s v) : s.tokens.head? ≠ some .closeSequence := by
  intro closes
  obtain ⟨ys, tokens⟩ := List.head?_eq_some_iff.mp closes
  obtain ⟨_, step, -⟩ := ahead.sign tokens .closeArray rfl
  cases step with
  | scalar _ scalar => contradiction

theorem Ahead.value {e : Expects} {s : Stream} {v : Json} {stack : List Frame}
    (ahead : Ahead e s v) (starts : e.Starts stack)
    (opened : s.tokens.head? ≠ some .closeSequence) :
    (∃ rest, s.tokens = .openSequence :: rest ∧ Ahead (.itemOrEnd stack) (goOn s rest) v) ∨
    (∃ rest, s.tokens = .openMapping :: rest ∧ Ahead (.keyOrEnd stack) (goOn s rest) v) ∨
    ∃ style text rest j, s.tokens = .scalar style text :: rest ∧
      Mirrors j (.scalar {} style text) ∧ Ahead (.place j stack) (goOn s rest) v := by
  rcases ahead.next with ⟨_, rfl⟩ | ⟨t, y, ys, e', tokens, written, step, ahead⟩ |
    ⟨name, ys, e₁, e₂, _, step₁, step₂, _⟩
  · cases starts
  · cases step with
    | openObject starts' =>
      obtain rfl := starts.unique starts'
      obtain rfl := written.eq_of_sign .openObject rfl
      exact .inr (.inl ⟨ys, tokens, ahead⟩)
    | openArray starts' =>
      obtain rfl := starts.unique starts'
      obtain rfl := written.eq_of_sign .openArray rfl
      exact .inl ⟨ys, tokens, ahead⟩
    | scalar starts' scalar =>
      obtain rfl := starts.unique starts'
      obtain ⟨style, text, rfl, mirrors⟩ := mirrors_of_written written scalar
      exact .inr (.inr ⟨style, text, ys, _, tokens, mirrors, ahead⟩)
    | emptyArray =>
      obtain rfl := written.eq_of_sign .closeArray rfl
      exact absurd (by rw [tokens]; rfl) opened
    | _ => cases starts
  · cases step₁ with
    | scalar => exact absurd step₂ (Expects.isPlaced_place _ _).not_step_colon
    | _ => cases starts

inductive InItems : Bool → List Json → List Frame → Expects → Prop
  | first (stack : List Frame) : InItems true [] stack (.itemOrEnd stack)
  | more (items : List Json) (stack : List Frame) :
      InItems false items stack (.more (.arr items) stack)

theorem Ahead.itemsEnd {first : Bool} {items : List Json} {stack : List Frame} {e : Expects}
    {s : Stream} {v : Json} (ahead : Ahead e s v) (inItems : InItems first items stack e)
    {rest : List Token} (tokens : s.tokens = .closeSequence :: rest) :
    Ahead (.place (.arr items.reverse) stack) (goOn s rest) v := by
  obtain ⟨e', step, ahead⟩ := ahead.sign tokens .closeArray rfl
  cases step with
  | emptyArray | closeArray =>
    cases inItems
    exact ahead
  | scalar _ scalar => contradiction

theorem Ahead.item {first : Bool} {items : List Json} {stack : List Frame} {e : Expects}
    {s s₁ : Stream} {v : Json} (ahead : Ahead e s v) (inItems : InItems first items stack e)
    (separated : Separated first s s₁) (goesOn : s.tokens.head? ≠ some .closeSequence) :
    ∃ e₁, e₁.Starts (.arr items :: stack) ∧ Ahead e₁ s₁ v ∧
      s₁.tokens.head? ≠ some .closeSequence := by
  cases inItems with
  | first =>
    obtain ⟨-, rfl⟩ | ⟨none, -⟩ := separated
    · exact ⟨_, .first stack, ahead, goesOn⟩
    · contradiction
  | more =>
    obtain ⟨none, -⟩ | ⟨-, rest, tokens, rfl⟩ := separated
    · contradiction
    obtain ⟨e', step, ahead⟩ := ahead.sign tokens .comma rfl
    cases step with
    | nextItem => exact ⟨_, .value _, ahead, ahead.opened⟩
    | scalar _ scalar => contradiction

inductive InFields : Bool → List (Option String × Json) → List Frame → Expects → Prop
  | first (stack : List Frame) : InFields true [] stack (.keyOrEnd stack)
  | more (fields : List (Option String × Json)) (key : Option String) (stack : List Frame) :
      InFields false fields stack (.more (.obj fields key) stack)

theorem Ahead.fieldsEnd {first : Bool} {fields : List (Option String × Json)}
    {stack : List Frame} {e : Expects} {s : Stream} {v : Json} (ahead : Ahead e s v)
    (inFields : InFields first fields stack e) {rest : List Token}
    (tokens : s.tokens = .closeMapping :: rest) :
    Ahead (.place (Json.ofFields fields.reverse) stack) (goOn s rest) v := by
  obtain ⟨e', step, ahead⟩ := ahead.sign tokens .closeObject rfl
  cases step with
  | emptyObject | closeObject =>
    cases inFields
    exact ahead
  | scalar _ scalar => contradiction

inductive StartsKey : Expects → List (Option String × Json) → List Frame → Prop
  | first (stack : List Frame) : StartsKey (.keyOrEnd stack) [] stack
  | next (fields : List (Option String × Json)) (stack : List Frame) :
      StartsKey (.key fields stack) fields stack

theorem StartsKey.not_starts {e : Expects} {fields : List (Option String × Json)}
    {stack stack' : List Frame} (starts : StartsKey e fields stack) : ¬ e.Starts stack' := by
  intro starts'
  cases starts <;> cases starts'

theorem Ahead.colon {fields : List (Option String × Json)} {name : Option String}
    {stack : List Frame} {s : Stream} {v : Json} (ahead : Ahead (.colon fields name stack) s v) :
    ∃ ys, s.tokens = .value :: ys ∧ Ahead (.value (.obj fields name :: stack)) (goOn s ys) v := by
  rcases ahead.next with ⟨_, none⟩ | ⟨t, y, ys, e', tokens, written, step, ahead⟩ |
    ⟨_, _, _, _, _, step, _⟩
  · contradiction
  · cases step with
    | colon =>
      obtain rfl := written.eq_of_sign .colon rfl
      exact ⟨ys, tokens, ahead⟩
    | openObject starts | openArray starts | scalar starts => cases starts
  · cases step with
    | scalar starts => cases starts

-- Where a key begins, a colon and a value follow, whether it is marked or not.
theorem Ahead.key {fields : List (Option String × Json)} {stack : List Frame} {e : Expects}
    {s : Stream} {v : Json} (ahead : Ahead e s v) (starts : StartsKey e fields stack)
    (goesOn : s.tokens.head? ≠ some .closeMapping) :
    ∃ name ys, Ahead (.value (.obj fields (some name) :: stack)) (goOn s ys) v ∧
      (s.tokens = .key :: .scalar .quoted name :: .value :: ys ∨
        s.tokens = .scalar .quoted name :: .value :: ys) := by
  rcases ahead.next with ⟨_, rfl⟩ | ⟨t, y, ys, e', tokens, written, step, ahead⟩ |
    ⟨name, ys, e₁, e₂, tokens, step₁, step₂, ahead⟩
  · cases starts
  · cases step with
    | firstKey name | nextKey fields name =>
      cases starts
      cases written with
      | text name =>
        obtain ⟨rest, next, ahead⟩ := ahead.colon
        exact ⟨name, rest, ahead, .inr (by rw [tokens]; exact congrArg _ next)⟩
      | bare bare => cases bare
    | emptyObject =>
      obtain rfl := written.eq_of_sign .closeObject rfl
      exact absurd (by rw [tokens]; rfl) goesOn
    | openObject starts' | openArray starts' | scalar starts' =>
      exact absurd starts' starts.not_starts
    | _ => cases starts
  · cases step₁ with
    | firstKey | nextKey =>
      cases starts
      cases step₂ with
      | colon => exact ⟨name, ys, ahead, .inl tokens⟩
      | scalar starts' => cases starts'
    | scalar starts' => exact absurd starts' starts.not_starts

theorem Ahead.field {first : Bool} {fields : List (Option String × Json)} {stack : List Frame}
    {e : Expects} {s s₁ : Stream} {v : Json} (ahead : Ahead e s v)
    (inFields : InFields first fields stack e) (separated : Separated first s s₁)
    (goesOn : s.tokens.head? ≠ some .closeMapping) :
    ∃ e₁, StartsKey e₁ fields stack ∧ Ahead e₁ s₁ v ∧ s₁.tokens.head? ≠ some .closeMapping := by
  cases inFields with
  | first =>
    obtain ⟨-, rfl⟩ | ⟨none, -⟩ := separated
    · exact ⟨_, .first stack, ahead, goesOn⟩
    · contradiction
  | more =>
    obtain ⟨none, -⟩ | ⟨-, rest, tokens, rfl⟩ := separated
    · contradiction
    obtain ⟨e', step, ahead⟩ := ahead.sign tokens .comma rfl
    cases step with
    | nextField =>
      refine ⟨_, .next _ _, ahead, fun closes => ?_⟩
      -- No entry may be missing after a comma.
      obtain ⟨ys, tokens'⟩ := List.head?_eq_some_iff.mp closes
      obtain ⟨_, step, -⟩ := ahead.sign tokens' .closeObject rfl
      cases step with
      | scalar _ scalar => contradiction
    | scalar _ scalar => contradiction

def NodeMirrors (depth : Nat) : Prop :=
  ∀ {block indentless : Bool} {s s' : Stream} {n : Node} {e : Expects} {stack : List Frame}
    {v : Json}, node depth block indentless s = some (n, s') → e.Starts stack → Ahead e s v →
    s.tokens.head? ≠ some .closeSequence → ∃ j, Mirrors j n ∧ Ahead (.place j stack) s' v

def ItemsMirror (depth : Nat) : Prop :=
  ∀ {first : Bool} {s s' : Stream} {nodes : List Node} {e : Expects} {items : List Json}
    {stack : List Frame} {v : Json}, flowItems depth first s = some (nodes, s') →
    InItems first items stack e → Ahead e s v →
    ∃ js, List.Forall₂ Mirrors js nodes ∧ Ahead (.place (.arr (items.reverse ++ js)) stack) s' v

def EntriesMirror (depth : Nat) : Prop :=
  ∀ {first : Bool} {s s' : Stream} {entries : List (Node × Node)} {e : Expects}
    {fields : List (Option String × Json)} {stack : List Frame} {v : Json},
    flowEntries depth first s = some (entries, s') → InFields first fields stack e → Ahead e s v →
    ∃ fs, List.Forall₂ MirrorsField fs entries ∧
      Ahead (.place (Json.ofFields (fields.reverse ++ fs.map fun f => (some f.1, f.2))) stack) s' v

theorem ofFields_of_named (fs : List (String × Json)) :
    Json.ofFields (fs.map fun f => (some f.1, f.2)) = .obj fs := by
  have named : (fs.map fun f => (some f.1, f.2)).mapM (fun f => f.1.map (·, f.2)) = some fs := by
    induction fs with
    | nil => rfl
    | cons f fs ih => simp [ih]
  rw [Json.ofFields, named]

theorem nodeMirrors_succ {depth : Nat} (items : ItemsMirror depth) (entries : EntriesMirror depth) :
    NodeMirrors (depth + 1) := by
  intro block indentless s s' n e stack v read starts ahead opened
  rcases ahead.value starts opened with ⟨rest, tokens, ahead⟩ | ⟨rest, tokens, ahead⟩ |
    ⟨style, text, rest, j, tokens, mirrors, ahead⟩
  · obtain ⟨nodes, readItems, rfl⟩ := node_sequence tokens read
    obtain ⟨js, mirror, ahead⟩ := items readItems (.first stack) ahead
    exact ⟨.arr js, .arr mirror, ahead⟩
  · obtain ⟨nodes, readEntries, rfl⟩ := node_mapping tokens read
    obtain ⟨fs, mirror, ahead⟩ := entries readEntries (.first stack) ahead
    rw [List.reverse_nil, List.nil_append, ofFields_of_named] at ahead
    exact ⟨.obj fs, mirrors_obj mirror, ahead⟩
  · rw [node_scalar tokens] at read
    obtain ⟨rfl, rfl⟩ := Prod.mk.inj (Option.some.inj read)
    exact ⟨j, mirrors, ahead⟩

theorem itemsMirror_succ {depth : Nat} (item : NodeMirrors depth) (items : ItemsMirror depth) :
    ItemsMirror (depth + 1) := by
  intro first s s' nodes e done stack v read inItems ahead
  rcases flowItems_cases read with ⟨rest, tokens, rfl, rfl⟩ | ⟨goesOn, s₁, separated, read⟩
  · refine ⟨[], .nil, ?_⟩
    rw [List.append_nil]
    exact ahead.itemsEnd inItems tokens
  · obtain ⟨e₁, starts, ahead, opened⟩ := ahead.item inItems separated goesOn
    rcases itemsHere_cases read with closes | marked | ⟨n, s₂, more, readItem, readMore, rfl⟩
    · exact absurd closes opened
    · rcases ahead.value starts opened with ⟨_, tokens, _⟩ | ⟨_, tokens, _⟩ |
        ⟨_, _, _, _, tokens, _⟩ <;> simp [tokens] at marked
    · obtain ⟨j, mirrors, ahead⟩ := item readItem starts ahead opened
      obtain ⟨js, mirror, ahead⟩ := items readMore (.more (j :: done) stack) ahead
      refine ⟨j :: js, .cons mirrors mirror, ?_⟩
      rwa [List.reverse_cons, List.append_assoc] at ahead

theorem flowEntries_value {depth : Nat} {s s' : Stream} {entries : List (Node × Node)}
    {rest : List Token} (tokens : s.tokens = .value :: rest) :
    flowEntries depth false s ≠ some (entries, s') := by
  intro read
  cases depth with
  | zero => contradiction
  | succ depth =>
    rcases flowEntries_cases read with ⟨_, closes, _⟩ | ⟨_, _, ⟨none, _⟩ | ⟨_, _, comma, _⟩, _⟩
    · simp [tokens] at closes
    · contradiction
    · simp [tokens] at comma

theorem Ahead.fieldValue {fields : List (Option String × Json)} {name : Option String}
    {stack : List Frame} {s : Stream} {v : Json}
    (ahead : Ahead (.value (.obj fields name :: stack)) s v) :
    s.tokens.head?.any endsFlowValue = false := by
  rcases ahead.value (.value _) ahead.opened with ⟨_, tokens, _⟩ | ⟨_, tokens, _⟩ |
    ⟨_, _, _, _, tokens, _⟩ <;> simp [tokens, endsFlowValue]

theorem node_scalar_eq_some {depth : Nat} {block indentless : Bool} {s s' : Stream}
    {style : ScalarStyle} {text : String} {rest : List Token} {n : Node}
    (tokens : s.tokens = .scalar style text :: rest)
    (read : node depth block indentless s = some (n, s')) :
    n = .scalar {} style text ∧ s' = goOn s rest := by
  cases depth with
  | zero => contradiction
  | succ depth =>
    rw [node_scalar tokens] at read
    obtain ⟨rfl, rfl⟩ := Prod.mk.inj (Option.some.inj read)
    exact ⟨rfl, rfl⟩

theorem entriesMirror_succ {depth : Nat} (value : ∀ less < depth, NodeMirrors less)
    (entries : EntriesMirror depth) : EntriesMirror (depth + 1) := by
  intro first s s' nodes e done stack v read inFields ahead
  rcases flowEntries_cases read with ⟨rest, tokens, rfl, rfl⟩ | ⟨goesOn, s₁, separated, read⟩
  · refine ⟨[], .nil, ?_⟩
    rw [List.map_nil, List.append_nil]
    exact ahead.fieldsEnd inFields tokens
  · obtain ⟨e₁, starts, ahead, opened⟩ := ahead.field inFields separated goesOn
    obtain ⟨name, ys, ahead, tokens⟩ := ahead.key starts opened
    rcases entriesHere_cases read with closes |
      ⟨rest, key, n, s₂, s₃, more, marked, readKey, readValue, readMore, rfl⟩ |
      ⟨unmarked, key, s₂, more, readKey, readMore⟩
    · exact absurd closes opened
    · obtain tokens | tokens := tokens
      · obtain rfl := (List.cons.inj (tokens.symm.trans marked)).2
        obtain ⟨_, -, readKey⟩ := nodeOrEmpty_eq_some rfl readKey
        obtain ⟨rfl, rfl⟩ := node_scalar_eq_some rfl readKey
        obtain ⟨few, isFew, readValue⟩ := valueOrEmpty_eq_some rfl readValue
        obtain ⟨less, isLess, readValue⟩ := nodeOrEmpty_eq_some ahead.fieldValue readValue
        obtain ⟨j, mirrors, ahead⟩ :=
          value less (Nat.lt_trans isLess isFew) readValue (.value _) ahead ahead.opened
        obtain ⟨fs, mirror, ahead⟩ := entries readMore (.more ((name, j) :: done) none stack) ahead
        refine ⟨(name, j) :: fs, .cons ⟨rfl, mirrors⟩ mirror, ?_⟩
        rwa [List.reverse_cons, List.append_assoc] at ahead
      · exact absurd (tokens.symm.trans marked) (by simp)
    · obtain tokens | tokens := tokens
      · exact absurd (by rw [tokens]; rfl) unmarked
      -- A key that is not marked is taken for a whole entry, and its colon cannot follow one.
      · obtain ⟨rfl, rfl⟩ := node_scalar_eq_some tokens readKey
        exact absurd readMore (flowEntries_value rfl)

theorem mirror (depth : Nat) : NodeMirrors depth ∧ ItemsMirror depth ∧ EntriesMirror depth := by
  -- Items and entries are read one level down, but the value of an entry three levels.
  induction depth using Nat.strongRecOn with
  | ind depth ih =>
    cases depth with
    | zero => exact ⟨nofun, nofun, nofun⟩
    | succ depth =>
      obtain ⟨node, items, entries⟩ := ih depth (Nat.lt_succ_self depth)
      have less : ∀ less < depth, NodeMirrors less := fun less isLess =>
        (ih less (Nat.lt_succ_of_lt isLess)).1
      exact ⟨nodeMirrors_succ items entries, itemsMirror_succ node items,
        entriesMirror_succ less entries⟩

end Reader

theorem Reader.Ahead.nothing {j v : Json} {s : Stream} (ahead : Ahead (.nothing j) s v) :
    j = v := by
  rcases ahead.next with ⟨_, same⟩ | ⟨_, _, _, _, _, _, step, _⟩ | ⟨_, _, _, _, _, step, _⟩
  · exact Expects.nothing.inj same
  · cases step with
    | openObject starts | openArray starts | scalar starts => cases starts
  · cases step with
    | scalar starts => cases starts

theorem Reader.document_eq_content {y : Token} {ys : List Token}
    (begins : y = .openSequence ∨ y = .openMapping ∨ ∃ style text, y = .scalar style text) :
    document (y :: ys) = content [] (y :: ys) := by
  rcases begins with rfl | rfl | ⟨style, text, rfl⟩ <;> rfl

/-- A JSON text that can be read as YAML holds the node that mirrors its value. -/
theorem mirrors_of_parse? {text : String} {v : Json} {n : Node}
    (noSeparator : ∀ c ∈ text.toList, isSeparator c = false) (json : Json.parse? text = some v)
    (yaml : parse? text = some n) : Mirrors v n := by
  obtain ⟨ts, isTokens, accepted⟩ := Option.bind_eq_some_iff.mp json
  obtain ⟨ys, scanned, yaml⟩ := Option.bind_eq_some_iff.mp yaml
  obtain ⟨⟨n', rest⟩, read, yaml⟩ := Option.bind_eq_some_iff.mp yaml
  obtain ⟨-, returned⟩ := Option.ite_none_right_eq_some.mp yaml
  obtain rfl := Option.some.inj returned
  have accepted : (Expects.value []).Accepts ts v := accepted
  have marked := marked_of_tokens? noSeparator isTokens accepted scanned
  have ahead : Reader.Ahead (.value []) ⟨ys, [], [] ++ Reader.usualHandles⟩ v :=
    ⟨ts, marked, accepted⟩
  have isContent : Reader.document ys = Reader.content [] ys := by
    rcases ahead.value (.value []) ahead.opened with ⟨_, tokens, _⟩ | ⟨_, tokens, _⟩ |
      ⟨style, text, _, _, tokens, _⟩
    all_goals obtain rfl := tokens
    · exact Reader.document_eq_content (.inl rfl)
    · exact Reader.document_eq_content (.inr (.inl rfl))
    · exact Reader.document_eq_content (.inr (.inr ⟨style, text, rfl⟩))
  rw [isContent] at read
  obtain ⟨⟨n, s⟩, readNode, returned⟩ := Option.bind_eq_some_iff.mp read
  obtain ⟨rfl, rfl⟩ := Prod.mk.inj (Option.some.inj returned)
  obtain ⟨j, mirrors, ahead⟩ := (Reader.mirror _).1 readNode (.value []) ahead ahead.opened
  exact ahead.nothing ▸ mirrors

end ApiContract.Yaml
