import ApiContract.Proofs.YamlLines
import ApiContract.Proofs.YamlNodes

set_option autoImplicit false

namespace ApiContract.Yaml

def ofSetting : Setting → Node
  | .text text => .scalar {} (styleOf text) text
  | .flag value => .scalar {} .plain (if value then "true" else "false")
  | .texts texts => .sequence {} (texts.map fun text => .scalar {} (styleOf text) text)

namespace Reader

section Steps

variable {s s' : Stream} {rest : List Token} {depth : Nat} {block indentless : Bool}

-- Where no anchor and no tag stands, a node has no properties.
theorem node_of_blockMapping {entries : List (Node × Node)}
    (tokens : s.tokens = .blockMapping :: rest)
    (read : blockEntries depth (goOn s rest) = some (entries, s')) :
    node (depth + 1) true indentless s = some (.mapping {} entries, s') := by
  obtain ⟨_, slots, handles⟩ := s
  obtain rfl := tokens
  rw [node]
  exact (bind_eq_some (f := fun entries => (pure (.mapping {} entries) : Reader Node))).mpr
    ⟨entries, s', read, rfl⟩

theorem node_of_entry {items : List Node} (tokens : s.tokens = .entry :: rest)
    (read : indentlessItems depth s = some (items, s')) :
    node (depth + 1) block true s = some (.sequence {} items, s') := by
  obtain ⟨_, slots, handles⟩ := s
  obtain rfl := tokens
  rw [node]
  exact (bind_eq_some (f := fun items => (pure (.sequence {} items) : Reader Node))).mpr
    ⟨items, s', read, rfl⟩

theorem node_of_emptyList (tokens : s.tokens = .openSequence :: .closeSequence :: rest) :
    node (depth + 2) block indentless s = some (.sequence {} [], goOn s rest) := by
  obtain ⟨_, slots, handles⟩ := s
  obtain rfl := tokens
  rw [node, flowItems]
  rfl

theorem nodeOrEmpty_of_node {ends : Token → Bool} {n : Node}
    (goesOn : s.tokens.head?.any ends = false)
    (read : node depth block indentless s = some (n, s')) :
    nodeOrEmpty (depth + 1) block indentless ends s = some (n, s') := by
  rw [nodeOrEmpty]
  refine bind_eq_some.mpr ⟨s.tokens.head?.any ends, s, rfl, ?_⟩
  rw [goesOn, if_neg Bool.false_ne_true]
  exact read

theorem valueOrEmpty_of_value {ends : Token → Bool} {n : Node}
    (tokens : s.tokens = .value :: rest)
    (read : nodeOrEmpty depth block block ends (goOn s rest) = some (n, s')) :
    valueOrEmpty (depth + 1) block ends s = some (n, s') := by
  obtain ⟨_, slots, handles⟩ := s
  obtain rfl := tokens
  rw [valueOrEmpty]
  exact read

theorem indentlessItems_of_entry {n : Node} {items : List Node} {s₁ : Stream}
    (tokens : s.tokens = .entry :: rest)
    (item : nodeOrEmpty depth true false endsIndentlessItem (goOn s rest) = some (n, s₁))
    (more : indentlessItems depth s₁ = some (items, s')) :
    indentlessItems (depth + 1) s = some (n :: items, s') := by
  obtain ⟨_, slots, handles⟩ := s
  obtain rfl := tokens
  rw [indentlessItems]
  exact (bind_eq_some (f := fun n => do return n :: (← indentlessItems depth))).mpr
    ⟨n, s₁, item, bind_eq_some.mpr ⟨items, s', more, rfl⟩⟩

theorem indentlessItems_end (stops : s.tokens.head? ≠ some .entry) :
    indentlessItems (depth + 1) s = some ([], s) := by
  obtain ⟨tokens, slots, handles⟩ := s
  rw [indentlessItems]
  cases tokens with
  | nil => rfl
  | cons y ys =>
    cases y with
    | entry => exact absurd rfl stops
    | _ => rfl

theorem blockEntries_of_key {k v : Node} {entries : List (Node × Node)} {s₁ s₂ : Stream}
    (tokens : s.tokens = .key :: rest)
    (key : nodeOrEmpty depth true true endsBlockKey (goOn s rest) = some (k, s₁))
    (value : valueOrEmpty depth true endsBlockKey s₁ = some (v, s₂))
    (more : blockEntries depth s₂ = some (entries, s')) :
    blockEntries (depth + 1) s = some ((k, v) :: entries, s') := by
  obtain ⟨_, slots, handles⟩ := s
  obtain rfl := tokens
  rw [blockEntries]
  exact (bind_eq_some (f := fun k => do
    let v ← valueOrEmpty depth true endsBlockKey
    return (k, v) :: (← blockEntries depth))).mpr
    ⟨k, s₁, key, bind_eq_some.mpr ⟨v, s₂, value, bind_eq_some.mpr ⟨entries, s', more, rfl⟩⟩⟩

theorem blockEntries_end (tokens : s.tokens = .blockEnd :: rest) :
    blockEntries (depth + 1) s = some ([], goOn s rest) := by
  obtain ⟨_, slots, handles⟩ := s
  obtain rfl := tokens
  rw [blockEntries]
  rfl

end Steps

section Settings

open Scanner (itemTokens valueTokens settingTokens)

variable {s : Stream} {rest : List Token} {depth : Nat}

-- An item takes two levels below the one of its list.
theorem indentlessItems_itemTokens {texts : List String} (deep : texts.length + 2 < depth)
    (stops : rest.head? ≠ some .entry) (tokens : s.tokens = itemTokens texts ++ rest) :
    indentlessItems depth s =
      some (texts.map fun text => .scalar {} (styleOf text) text, goOn s rest) := by
  induction texts generalizing s depth with
  | nil =>
    obtain ⟨d, rfl⟩ : ∃ d, depth = d + 1 := ⟨depth - 1, by omega⟩
    have same : goOn s rest = s := by rw [goOn, ← tokens.trans (List.nil_append rest)]
    rw [same]
    exact indentlessItems_end (by rw [tokens]; exact stops)
  | cons text texts ih =>
    obtain ⟨d, rfl⟩ : ∃ d, depth = d + 3 := ⟨depth - 3, by omega⟩
    rw [List.length_cons] at deep
    have more : indentlessItems (d + 2) (goOn s (itemTokens texts ++ rest)) = _ :=
      ih (by omega) rfl
    exact indentlessItems_of_entry tokens
      (nodeOrEmpty_of_node rfl (node_scalar rfl d true false)) more

theorem valueOrEmpty_valueTokens (setting : Setting)
    (deep : (valueTokens setting).length + 5 < depth)
    (stops : rest.head? ≠ some .entry)
    (tokens : s.tokens = .value :: (valueTokens setting ++ rest)) :
    valueOrEmpty depth true endsBlockKey s = some (ofSetting setting, goOn s rest) := by
  obtain ⟨d, rfl⟩ : ∃ d, depth = d + 4 := ⟨depth - 4, by omega⟩
  match setting with
  | .text text =>
    exact valueOrEmpty_of_value tokens (nodeOrEmpty_of_node rfl (node_scalar rfl _ true true))
  | .flag value =>
    exact valueOrEmpty_of_value tokens (nodeOrEmpty_of_node rfl (node_scalar rfl _ true true))
  | .texts [] =>
    exact valueOrEmpty_of_value tokens (nodeOrEmpty_of_node rfl (node_of_emptyList rfl))
  | .texts (text :: texts) =>
    refine valueOrEmpty_of_value tokens (nodeOrEmpty_of_node rfl (node_of_entry rfl ?_))
    have some : (itemTokens (text :: texts)).length = 2 * (text :: texts).length := by
      simp [itemTokens]
      omega
    have deep : (itemTokens (text :: texts)).length + 5 < d + 4 := deep
    exact indentlessItems_itemTokens (by omega) stops rfl

theorem blockEntries_settingTokens {settings : Settings}
    (deep : (settings.flatMap settingTokens).length + 5 < depth)
    (tokens : s.tokens = settings.flatMap settingTokens ++ .blockEnd :: rest) :
    blockEntries depth s =
      some (settings.map fun s => (.scalar {} .plain s.1, ofSetting s.2), goOn s rest) := by
  induction settings generalizing s depth with
  | nil =>
    obtain ⟨d, rfl⟩ : ∃ d, depth = d + 1 := ⟨depth - 1, by omega⟩
    exact blockEntries_end tokens
  | cons setting settings ih =>
    obtain ⟨d, rfl⟩ : ∃ d, depth = d + 3 := ⟨depth - 3, by omega⟩
    generalize later : settings.flatMap settingTokens ++ .blockEnd :: rest = ends at *
    have split : s.tokens = .key :: .scalar .plain setting.1 :: .value ::
        (valueTokens setting.2 ++ ends) := by
      rw [tokens, ← later, List.flatMap_cons, settingTokens]
      simp
    have count : ((setting :: settings).flatMap settingTokens).length =
        (valueTokens setting.2).length + 3 + (settings.flatMap settingTokens).length := by
      simp only [List.flatMap_cons, settingTokens, List.length_append, List.length_cons,
        List.length_nil]
      omega
    have stops : ends.head? ≠ some .entry := by
      rw [← later]
      cases settings <;> simp [settingTokens]
    have value : valueOrEmpty (d + 2) true endsBlockKey
        (goOn s (.value :: (valueTokens setting.2 ++ ends))) = _ :=
      valueOrEmpty_valueTokens setting.2 (by omega) stops rfl
    have more : blockEntries (d + 2) (goOn s ends) = _ := ih (by omega) rfl
    exact blockEntries_of_key split (nodeOrEmpty_of_node rfl (node_scalar rfl d true true)) value
      more

end Settings

end Reader

theorem parse?_write {first : String × Setting} {settings : Settings}
    (keys : ∀ s ∈ first :: settings, IsKey s.1) :
    parse? (write (first :: settings)) =
      some (.mapping {} ((first :: settings).map fun s =>
        (.scalar {} .plain s.1, ofSetting s.2))) := by
  have tokens := tokens?_write keys
  set tail := (first :: settings).flatMap Scanner.settingTokens ++ [.blockEnd] with isTail
  have count : tail.length = ((first :: settings).flatMap Scanner.settingTokens).length + 1 := by
    rw [isTail, List.length_append, List.length_singleton]
  let s : Stream := { tokens := .blockMapping :: tail, handles := Reader.usualHandles }
  have entries : Reader.blockEntries (3 * (tail.length + 1) + 2) (Reader.goOn s tail) = _ :=
    Reader.blockEntries_settingTokens (by omega) isTail
  have read : Reader.node (3 * (tail.length + 1) + 3) true false s = _ :=
    Reader.node_of_blockMapping rfl entries
  have content : Reader.content [] (.blockMapping :: tail) =
      some (.mapping {} ((first :: settings).map fun s =>
        (.scalar {} .plain s.1, ofSetting s.2)), []) :=
    Option.bind_eq_some_iff.mpr ⟨_, read, rfl⟩
  exact Option.bind_eq_some_iff.mpr ⟨_, tokens, Option.bind_eq_some_iff.mpr ⟨_, content, rfl⟩⟩

end ApiContract.Yaml
