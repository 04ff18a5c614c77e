import ApiContract.Proofs.JsonTokens
import ApiContract.Yaml.Scanner

set_option autoImplicit false

namespace ApiContract.Yaml

open Json.Reader (tokensFrom? tokensFrom?_text_cons tokensFrom?_escape_cons tokensFrom?_unit_cons)

def IsUnified (cs : List Char) : Prop :=
  ∀ c ∈ cs, c ≠ '\r' ∧ (isBreak c = true → c = '\n')

theorem IsUnified.suffix {cs rest : List Char} (unified : IsUnified cs) (later : rest <:+ cs) :
    IsUnified rest :=
  fun c mem => unified c (later.subset mem)

namespace Quoted

theorem eq_space_or_tab {c : Char} (blank : isBlank c = true) : c = ' ' ∨ c = '\t' := by
  simpa [isBlank] using blank

theorem escaped?_of_json {e c : Char} (escaped : Json.Reader.escaped? e = some c) :
    escaped? e = some c := by
  unfold Json.Reader.escaped? at escaped
  split at escaped
  all_goals first | exact escaped | contradiction

theorem pushUnit_of_hexChar? {chars digits : List Char} {e : Char} {values : List Nat}
    (read : digits.mapM Text.hexValue? = some values)
    (character : Text.hexChar? digits = some e) :
    ({ chars } : Json.Unfinished).pushUnit (values.foldl (fun n d => 16 * n + d) 0) =
      { chars := e :: chars } := by
  have number : Text.hexNumber? digits = some (values.foldl (fun n d => 16 * n + d) 0) :=
    congrArg (Option.map _) read
  generalize values.foldl (fun n d => 16 * n + d) 0 = n at number ⊢
  obtain ⟨m, same, isChar⟩ := Option.bind_eq_some_iff.mp character
  obtain rfl := Option.some.inj (number.symm.trans same)
  obtain ⟨valid, isChar⟩ := Option.dite_none_right_eq_some.mp isChar
  obtain rfl := Option.some.inj isChar
  have noHalf : ¬ (0xDC00 ≤ n ∧ n < 0xE000) ∧ ¬ (0xD800 ≤ n ∧ n < 0xDC00) := by
    unfold Nat.isValidChar at valid
    omega
  have isChar : Char.ofNat n = Char.ofNatAux n valid := dif_pos valid
  rw [← isChar]
  simp [Json.Unfinished.pushUnit, noHalf]

theorem tokensFrom?_escaped {u : Json.Unfinished} {e : Char} {cs : List Char}
    {ts : List Json.Token} (noUnit : e ≠ 'u')
    (tokens : tokensFrom? (.text u) ('\\' :: e :: cs) = some ts) :
    ∃ c, escaped? e = some c ∧ tokensFrom? (.text (u.push c)) cs = some ts := by
  rw [tokensFrom?_text_cons, if_neg (by decide), if_pos rfl, tokensFrom?_escape_cons,
    if_neg noUnit, Option.bind_eq_some_iff] at tokens
  obtain ⟨c, escaped, tokens⟩ := tokens
  exact ⟨c, escaped?_of_json escaped, tokens⟩

/-- A quoted scalar of YAML is the string of JSON with the same characters: as no line ends in it,
there is nothing to fold. -/
theorem tokensFrom?_of_readDouble? {p q : Progress} {cs rest : List Char}
    (read : readDouble? p cs = some (q, rest)) (unified : IsUnified cs)
    (whole : p.gap.broken = false) {ts : List Json.Token}
    (tokens : tokensFrom? (.text { chars := p.gap.folded ++ p.text }) cs = some ts) :
    rest <:+ cs ∧ ∃ ts', tokensFrom? .gap rest = some ts' ∧
      ts = .text (some (String.ofList q.text.reverse)) :: ts' := by
  -- Where JSON goes on within the string, YAML reads the same character; it folds only at a
  -- break, and JSON refuses all breaks that are left in the text.
  fun_induction readDouble? p cs with
  | case1 | case4 | case7 | case9 | case11 | case14 | case15 => contradiction
  | case2 p c cs blank ih =>
    have later := unified.suffix (List.suffix_cons c cs)
    rcases eq_space_or_tab blank with rfl | rfl
    · have pushed : (p.pushBlank ' ').gap.folded ++ (p.pushBlank ' ').text =
          ' ' :: (p.gap.folded ++ p.text) := by
        simp [Progress.pushBlank, Gap.pushBlank, Gap.folded, whole]
      have kept : (p.pushBlank ' ').gap.broken = false := by
        simp [Progress.pushBlank, Gap.pushBlank, whole]
      obtain ⟨suffix, found⟩ := ih read later kept (by rw [pushed]; exact tokens)
      exact ⟨suffix.trans (List.suffix_cons _ _), found⟩
    · contradiction
  | case3 p c cs _ breaks ih =>
    obtain rfl := (unified c List.mem_cons_self).2 breaks
    contradiction
  | case5 p c cs _ _ _ closes =>
    obtain rfl := eq_of_beq closes
    obtain ⟨rfl, rfl⟩ := Prod.mk.inj (Option.some.inj read)
    rw [tokensFrom?_text_cons, if_pos rfl, Option.map_eq_some_iff] at tokens
    obtain ⟨ts', after, rfl⟩ := tokens
    exact ⟨List.suffix_cons _ _, ts', after, rfl⟩
  | case6 p c _ _ _ escapes | case10 p c _ _ _ escapes =>
    -- These escapes are none of JSON.
    obtain rfl := eq_of_beq escapes
    obtain ⟨e, refused, _⟩ := tokensFrom?_escaped (by decide) tokens
    contradiction
  | case8 p c _ _ _ escapes a b c' d cs e character _ ih =>
    obtain rfl := eq_of_beq escapes
    rw [tokensFrom?_text_cons, if_neg (by decide), if_pos rfl, tokensFrom?_escape_cons, if_pos rfl]
      at tokens
    have length : [a, b, c', d].length = 3 + 1 := rfl
    have unit := (Json.Reader.tokensFrom?_unit _ length 0 cs).symm.trans tokens
    obtain ⟨values, read', later⟩ := Option.bind_eq_some_iff.mp unit
    rw [pushUnit_of_hexChar? read' character] at later
    have suffix : cs <:+ '\\' :: 'u' :: a :: b :: c' :: d :: cs :=
      ⟨['\\', 'u', a, b, c', d], rfl⟩
    obtain ⟨suffix', found⟩ := ih read (unified.suffix suffix) rfl later
    exact ⟨suffix'.trans suffix, found⟩
  | case12 p c _ _ _ escapes e cs _ _ _ breaks =>
    obtain rfl := eq_of_beq escapes
    obtain rfl := (unified e (by simp)).2 breaks
    obtain ⟨e, refused, _⟩ := tokensFrom?_escaped (by decide) tokens
    contradiction
  | case13 p c _ _ _ escapes e cs _ _ _ _ c' escaped _ ih =>
    obtain rfl := eq_of_beq escapes
    have noUnit : e ≠ 'u' := by
      rintro rfl
      contradiction
    obtain ⟨c'', escaped', later⟩ := tokensFrom?_escaped noUnit tokens
    obtain rfl := Option.some.inj (escaped.symm.trans escaped')
    have suffix : cs <:+ '\\' :: e :: cs := ⟨['\\', e], rfl⟩
    obtain ⟨suffix', found⟩ := ih read (unified.suffix suffix) rfl later
    exact ⟨suffix'.trans suffix, found⟩
  | case16 p c cs _ _ _ noQuote noEscape ih =>
    rw [tokensFrom?_text_cons, if_neg (by simpa using noQuote), if_neg (by simpa using noEscape)]
      at tokens
    split at tokens
    · contradiction
    · have suffix := List.suffix_cons c cs
      obtain ⟨suffix', found⟩ := ih read (unified.suffix suffix) rfl tokens
      exact ⟨suffix'.trans suffix, found⟩

end Quoted

namespace Plain

open Json.Reader (isBareChar isNumberChar between_of_tokensFrom?)

theorem toNat_lt_of_isBareChar {c : Char} (bare : isBareChar c = true) : c.toNat < 0x2028 := by
  simp only [isBareChar, isNumberChar, Bool.or_eq_true, beq_iff_eq] at bare
  rcases bare with lower | ((((digit | rfl) | rfl) | rfl) | rfl) | rfl
  · have bounds : decide ('a' ≤ c) = true ∧ decide (c ≤ 'z') = true :=
      Bool.and_eq_true_iff.mp lower
    have bound : c.toNat ≤ 'z'.toNat := of_decide_eq_true bounds.2
    exact Nat.lt_of_le_of_lt bound (by decide)
  · exact Nat.lt_of_le_of_lt (Char.isDigit_iff_toNat.mp digit).2 (by decide)
  all_goals decide

theorem ne_of_isBareChar {c x : Char} (bare : isBareChar c = true)
    (notBare : isBareChar x = false) : c ≠ x := by
  rintro rfl
  rw [notBare] at bare
  contradiction

theorem isBareChar_spec {c : Char} (bare : isBareChar c = true) :
    isBlank c = false ∧ isBreak c = false ∧ c ≠ ':' ∧ isFlowIndicator c = false := by
  have ascii := toNat_lt_of_isBareChar bare
  have other {x : Char} (notBare : isBareChar x = false) : c ≠ x := ne_of_isBareChar bare notBare
  have noBreak : c.toNat ≠ 0x2028 ∧ c.toNat ≠ 0x2029 := by omega
  refine ⟨?_, ?_, other rfl, ?_⟩
  · simp [isBlank, other (show isBareChar ' ' = false from rfl),
      other (show isBareChar '\t' = false from rfl)]
  · simp [isBreak, noBreak, other (show isBareChar '\n' = false from rfl)]
  · simp [isFlowIndicator, other (show isBareChar ',' = false from rfl),
      other (show isBareChar '[' = false from rfl), other (show isBareChar ']' = false from rfl),
      other (show isBareChar '\x7b' = false from rfl),
      other (show isBareChar '\x7d' = false from rfl)]

theorem read?_bare (inFlow : Bool) (indent : Nat) {word : List Char}
    (bare : word.all isBareChar = true) {p : Progress} (gap : p.gap = {})
    (within : p.afterGap = false) (cs : List Char) :
    ∃ q : Progress, q.text = word.reverse ++ p.text ∧
      read? inFlow indent p (word ++ cs) = read? inFlow indent q cs := by
  induction word generalizing p with
  | nil => exact ⟨p, rfl, rfl⟩
  | cons c word ih =>
    have ⟨here, later⟩ : isBareChar c = true ∧ word.all isBareChar = true := by simpa using bare
    obtain ⟨noBlank, noBreak, noColon, noIndicator⟩ := isBareChar_spec here
    obtain ⟨q, text, same⟩ := ih later (p := p.push c) rfl rfl
    refine ⟨q, ?_, ?_⟩
    · simp [text, Progress.push, gap, Gap.folded]
    · rw [← same, List.cons_append, read?]
      simp [noBlank, noBreak, noColon, noIndicator, within, isRefused, endsBefore]

def Ends (inFlow : Bool) (ts : List Json.Token) : Prop :=
  ts = [] ∨ inFlow = true ∧ ∃ t ts', ts = t :: ts' ∧ t ∈ [.comma, .closeArray, .closeObject]

theorem not_ends_of_isBare {t : Json.Token} {literal : String} (written : t.IsBare literal)
    {inFlow : Bool} {ts : List Json.Token} : ¬ Ends inFlow (t :: ts) := by
  cases written <;> simp [Ends]

-- What follows a word or a number adds nothing to the plain scalar.
theorem read?_end {inFlow : Bool} {indent : Nat} {p q : Progress} {cs rest : List Char}
    (read : read? inFlow indent p cs = some (q, rest)) (unified : IsUnified cs)
    {ts : List Json.Token} (tokens : tokensFrom? .gap cs = some ts) (ends : Ends inFlow ts) :
    q.text = p.text ∧ rest <:+ cs ∧ tokensFrom? .gap rest = some ts := by
  induction cs generalizing p with
  | nil =>
    obtain ⟨rfl, rfl⟩ := Prod.mk.inj (Option.some.inj read)
    exact ⟨rfl, List.suffix_rfl, tokens⟩
  | cons c cs ih =>
    have later := unified.suffix (List.suffix_cons c cs)
    cases between_of_tokensFrom? tokens with
    | blank blank after =>
      have ⟨noReturn, _⟩ := unified c List.mem_cons_self
      by_cases space : isBlank c = true
      · rw [read?, if_pos space] at read
        split at read
        · contradiction
        · obtain ⟨text, suffix, found⟩ := ih read later after
          exact ⟨text, suffix.trans (List.suffix_cons c cs), found⟩
      -- A plain scalar goes on over a line break, but nothing that follows here can be part of it.
      · obtain rfl : c = '\n' := by
          simp only [isBlank, List.mem_cons, List.not_mem_nil, or_false] at blank space
          grind
        obtain ⟨text, suffix, found⟩ := ih (p := p.pushBreak '\n') read later after
        exact ⟨text, suffix.trans (List.suffix_cons _ cs), found⟩
    | sign t written after =>
      obtain none | ⟨rfl, t', ts', same, isEnd⟩ := ends
      · contradiction
      obtain ⟨rfl, rfl⟩ := List.cons.inj same
      have stops : some (p, c :: cs) = some (q, rest) := by
        rw [← read]
        simp only [List.mem_cons, List.not_mem_nil, or_false] at isEnd
        rcases isEnd with rfl | rfl | rfl <;> obtain rfl := Option.some.inj written <;>
          simp [read?, isBlank, isBreak, isRefused, endsBefore, isFlowIndicator]
      obtain ⟨rfl, rfl⟩ := Prod.mk.inj (Option.some.inj stops)
      exact ⟨rfl, List.suffix_rfl, tokens⟩
    | text after =>
      obtain ⟨name, ts', rfl⟩ := Json.Reader.text_of_tokensFrom?
        (show Json.Mode.IsText (.text {}) from trivial) after
      simp [Ends] at ends
    | bare begins inside written after => exact absurd ends (not_ends_of_isBare written)

end Plain

end ApiContract.Yaml
