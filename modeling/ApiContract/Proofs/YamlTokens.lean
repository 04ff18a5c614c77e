import ApiContract.Proofs.YamlScalars

set_option autoImplicit false

namespace ApiContract.Yaml

open Json (Expects)
open Json.Reader (tokensFrom? between_of_tokensFrom? sign?)

inductive Written : Json.Token → Token → Prop
  | openObject : Written .openObject .openMapping
  | closeObject : Written .closeObject .closeMapping
  | openArray : Written .openArray .openSequence
  | closeArray : Written .closeArray .closeSequence
  | colon : Written .colon .value
  | comma : Written .comma .comma
  | text (name : String) : Written (.text (some name)) (.scalar .quoted name)
  | bare {t : Json.Token} {literal : String} (written : t.IsBare literal) :
      Written t (.scalar .plain literal)

/-- The tokens as they are scanned, where some keys are marked. -/
inductive Marked : List Json.Token → List Token → Prop
  | nil : Marked [] []
  | cons {t : Json.Token} {y : Token} {ts : List Json.Token} {ys : List Token}
      (written : Written t y) (rest : Marked ts ys) : Marked (t :: ts) (y :: ys)
  | key {name : String} {ts : List Json.Token} {ys : List Token} (rest : Marked ts ys) :
      Marked (.text (some name) :: .colon :: ts) (.key :: .scalar .quoted name :: .value :: ys)

theorem Marked.append {ts ts' : List Json.Token} {ys ys' : List Token} (front : Marked ts ys)
    (rest : Marked ts' ys') : Marked (ts ++ ts') (ys ++ ys') := by
  induction front with
  | nil => exact rest
  | cons written _ ih => exact .cons written ih
  | key _ ih => exact .key ih

theorem Marked.concat {ts : List Json.Token} {ys : List Token} {t : Json.Token} {y : Token}
    (front : Marked ts ys.reverse) (written : Written t y) :
    Marked (ts ++ [t]) (y :: ys).reverse := by
  rw [List.reverse_cons]
  exact front.append (.cons written .nil)

namespace Scanner

/-- The scanner has come as far as the tokens that are done. No block is open, and what may be a
key is the string before the colon that must follow. -/
structure Fits (s : Scanner) (e : Expects) (done : List Json.Token) : Prop where
  indent : s.indent = -1
  indents : s.indents = []
  depth : s.outerKeys.length = e.depth
  keyAllowed : e.wantsKey → s.keyAllowed = true
  marked : Marked done s.tokens.reverse
  colon : e.wantsColon → ∃ name front tokens, done = front ++ [.text (some name)] ∧
    s.tokens = .scalar .quoted name :: tokens ∧ Marked front tokens.reverse ∧
    ∀ k ∈ s.possibleKey, k.position + 1 = s.count

theorem inFlow_eq_decide (s : Scanner) : s.inFlow = decide (0 < s.outerKeys.length) := by
  cases outer : s.outerKeys <;> simp [inFlow, outer]

theorem dropKey?_eq_some {s s' : Scanner} (dropped : s.dropKey? = some s') :
    s' = { s with possibleKey := none } := by
  unfold dropKey? at dropped
  split at dropped
  · contradiction
  · exact (Option.some.inj dropped).symm

theorem saveKey?_eq_some {s s' : Scanner} (saved : s.saveKey? = some s') :
    ∃ key, s' = { s with possibleKey := key } ∧
      (s.keyAllowed = true → ∀ k ∈ key, k.position = s.count) := by
  unfold saveKey? at saved
  split at saved
  case isTrue =>
    obtain ⟨dropped, isDropped, saved⟩ := Option.bind_eq_some_iff.mp saved
    obtain rfl := dropKey?_eq_some isDropped
    obtain rfl := Option.some.inj saved
    exact ⟨_, rfl, fun _ k isKey => by obtain rfl := Option.some.inj isKey; rfl⟩
  case isFalse notAllowed =>
    obtain rfl := Option.some.inj saved
    exact ⟨s.possibleKey, rfl, fun allowed => absurd allowed notAllowed⟩

section Steps

variable {s s' : Scanner} {e e' : Expects} {done : List Json.Token} {t : Json.Token} {y : Token}

theorem Fits.openFlow (fits : s.Fits e done) (opened : s.openFlow? y = some s')
    (written : Written t y) (depth : e'.depth = e.depth + 1) (noColon : ¬ e'.wantsColon) :
    s'.Fits e' (done ++ [t]) ∧ s'.cursor.rest = s.cursor.rest.drop 1 := by
  obtain ⟨saved, isSaved, opened⟩ := Option.bind_eq_some_iff.mp opened
  obtain ⟨key, rfl, -⟩ := saveKey?_eq_some isSaved
  obtain rfl := Option.some.inj opened
  exact ⟨{
    indent := fits.indent
    indents := fits.indents
    depth := by simp [indicator, emit, fits.depth, depth]
    keyAllowed := fun _ => rfl
    marked := fits.marked.concat written
    colon := fun wanted => absurd wanted noColon }, rfl⟩

theorem Fits.closeFlow (fits : s.Fits e done) (closed : s.closeFlow? y = some s')
    (written : Written t y) (depth : e'.depth + 1 = e.depth) (placed : e'.isPlaced) :
    s'.Fits e' (done ++ [t]) ∧ s'.cursor.rest = s.cursor.rest.drop 1 := by
  obtain ⟨dropped, isDropped, closed⟩ := Option.bind_eq_some_iff.mp closed
  obtain rfl := dropKey?_eq_some isDropped
  obtain ⟨key, outer, isOuter⟩ : ∃ key outer, s.outerKeys = key :: outer := by
    apply List.exists_cons_of_length_pos
    rw [fits.depth, ← depth]
    exact Nat.succ_pos _
  simp only [isOuter] at closed
  obtain rfl := Option.some.inj closed
  exact ⟨{
    indent := fits.indent
    indents := fits.indents
    depth := by
      have same := fits.depth
      rw [isOuter, ← depth] at same
      exact Nat.succ.inj same
    keyAllowed := fun wanted => (placed.not_wantsKey wanted).elim
    marked := fits.marked.concat written
    colon := fun wanted => (placed.not_wantsColon wanted).elim }, rfl⟩

theorem Fits.comma (fits : s.Fits e done) (passed : s.comma? = some s')
    (depth : e'.depth = e.depth) (noColon : ¬ e'.wantsColon) :
    s'.Fits e' (done ++ [.comma]) ∧ s'.cursor.rest = s.cursor.rest.drop 1 := by
  obtain ⟨dropped, isDropped, passed⟩ := Option.bind_eq_some_iff.mp passed
  obtain rfl := dropKey?_eq_some isDropped
  obtain rfl := Option.some.inj passed
  exact ⟨{
    indent := fits.indent
    indents := fits.indents
    depth := fits.depth.trans depth.symm
    keyAllowed := fun _ => rfl
    marked := fits.marked.concat .comma
    colon := fun wanted => absurd wanted noColon }, rfl⟩

theorem roll_of_inFlow (inFlow : s.inFlow = true) (column position : Nat) (y : Token) :
    s.roll column position y = s := by
  simp [roll, inFlow]

-- The mark of a key is put before the string that is one, unless the colon comes too late.
theorem Fits.value (fits : s.Fits e done) (valued : s.value? = some s') (wanted : e.wantsColon)
    (inFlow : s.inFlow = true) (depth : e'.depth = e.depth) (noKey : ¬ e'.wantsKey)
    (noColon : ¬ e'.wantsColon) :
    s'.Fits e' (done ++ [.colon]) ∧ s'.cursor.rest = s.cursor.rest.drop 1 := by
  obtain ⟨name, front, tokens, isDone, isTokens, marked, position⟩ := fits.colon wanted
  have fits' {s' : Scanner} (indent : s'.indent = s.indent) (indents : s'.indents = s.indents)
      (outer : s'.outerKeys = s.outerKeys) (marked : Marked (done ++ [.colon]) s'.tokens.reverse) :
      s'.Fits e' (done ++ [.colon]) := {
    indent := indent.trans fits.indent
    indents := indents.trans fits.indents
    depth := by rw [outer, fits.depth, depth]
    keyAllowed := fun wanted => absurd wanted noKey
    marked := marked
    colon := fun wanted => absurd wanted noColon }
  -- The key is still possible only if the colon stands on its line and near enough.
  unfold value? at valued
  split at valued
  case h_1 k possible =>
    have inFlow' : (s.insertAt k.position .key).inFlow = true := inFlow
    rw [roll_of_inFlow inFlow'] at valued
    obtain rfl := Option.some.inj valued
    refine ⟨fits' rfl rfl rfl ?_, rfl⟩
    have next : s.count - k.position = 1 := by
      have := position k possible
      omega
    have inserted : s.tokens.insertIdx (s.count - k.position) .key =
        .scalar .quoted name :: .key :: tokens := by
      rw [next, isTokens]
      rfl
    simp only [indicator, emit, insertAt, inserted, isDone, List.reverse_cons, List.append_assoc]
    exact marked.append (.key .nil)
  case h_2 =>
    rw [inFlow, roll_of_inFlow inFlow] at valued
    obtain rfl := Option.some.inj valued
    exact ⟨fits' rfl rfl rfl (fits.marked.concat .colon), rfl⟩

theorem Fits.quoted {cs : List Char} {ts : List Json.Token} (fits : s.Fits e done)
    (read : s.quoted? Quoted.readDouble? = some s') (unified : IsUnified s.cursor.rest)
    (rest : s.cursor.rest = '"' :: cs) (tokens : tokensFrom? (.text {}) cs = some ts) :
    s'.cursor.rest <:+ s.cursor.rest ∧ ∃ name ts', ts = .text (some name) :: ts' ∧
      tokensFrom? .gap s'.cursor.rest = some ts' ∧
      ∀ {e'}, e'.depth = e.depth → ¬ e'.wantsKey → (e'.wantsColon → e.wantsKey) →
        s'.Fits e' (done ++ [.text (some name)]) := by
  obtain ⟨saved, isSaved, read⟩ := Option.bind_eq_some_iff.mp read
  obtain ⟨key, rfl, position⟩ := saveKey?_eq_some isSaved
  obtain ⟨⟨q, after⟩, isRead, read⟩ := Option.bind_eq_some_iff.mp read
  obtain rfl := Option.some.inj read
  have start : (s.cursor.skip 1).rest = cs := by rw [Cursor.skip, rest]; rfl
  simp only [start] at isRead
  have suffix : cs <:+ s.cursor.rest := rest ▸ List.suffix_cons _ cs
  obtain ⟨later, ts', found, rfl⟩ :=
    Quoted.tokensFrom?_of_readDouble? isRead (unified.suffix suffix) rfl tokens
  refine ⟨later.trans suffix, _, ts', rfl, found, fun depth noKey colon => ?_⟩
  exact {
    indent := fits.indent
    indents := fits.indents
    depth := fits.depth.trans depth.symm
    keyAllowed := fun wanted => absurd wanted noKey
    marked := fits.marked.concat (.text _)
    colon := fun wanted => ⟨_, done, s.tokens, rfl, rfl, fits.marked, fun k isKey =>
      congrArg (· + 1) (position (fits.keyAllowed (colon wanted)) k isKey)⟩ }

theorem Fits.plain {c : Char} {more cs : List Char} {ts : List Json.Token} (fits : s.Fits e done)
    (read : s.plain? = some s') (unified : IsUnified s.cursor.rest)
    (rest : s.cursor.rest = c :: more ++ cs)
    (bare : (c :: more).all Json.Reader.isBareChar = true)
    (written : t.IsBare (String.ofList (c :: more))) (tokens : tokensFrom? .gap cs = some ts)
    (ends : Plain.Ends s.inFlow ts) (depth : e'.depth = e.depth) (placed : e'.isPlaced) :
    s'.Fits e' (done ++ [t]) ∧ s'.cursor.rest <:+ s.cursor.rest ∧
      tokensFrom? .gap s'.cursor.rest = some ts := by
  obtain ⟨saved, isSaved, read⟩ := Option.bind_eq_some_iff.mp read
  obtain ⟨key, rfl, position⟩ := saveKey?_eq_some isSaved
  obtain ⟨⟨q, after⟩, isRead, read⟩ := Option.bind_eq_some_iff.mp read
  obtain rfl := Option.some.inj read
  simp only [rest] at isRead
  obtain ⟨p, text, same⟩ := Plain.read?_bare s.inFlow (s.indent + 1).toNat bare
    (p := { place := s.cursor.place }) rfl rfl cs
  have suffix : cs <:+ s.cursor.rest := rest ▸ List.suffix_append _ cs
  obtain ⟨text', later, found⟩ :=
    Plain.read?_end (same.symm.trans isRead) (unified.suffix suffix) tokens ends
  have literal : String.ofList q.text.reverse = String.ofList (c :: more) := by
    rw [text', text, List.append_nil, List.reverse_reverse]
  refine ⟨?_, later.trans suffix, found⟩
  exact {
    indent := fits.indent
    indents := fits.indents
    depth := fits.depth.trans depth.symm
    keyAllowed := fun wanted => (placed.not_wantsKey wanted).elim
    marked := fits.marked.concat (.bare (literal ▸ written))
    colon := fun wanted => (placed.not_wantsColon wanted).elim }

end Steps

theorem gap_or_token {c : Char} {cs : List Char} {ts : List Json.Token}
    (between : Json.Reader.Between c cs ts) :
    (c ∈ [' ', '\n', '\t', '\r'] ∧ tokensFrom? .gap cs = some ts) ∨
      (isBlank c = false ∧ isBreak c = false ∧ c ≠ '#') := by
  cases between with
  | blank blank later => exact .inl ⟨blank, later⟩
  | sign t written =>
    cases t with
    | openObject | closeObject | openArray | closeArray | colon | comma =>
      obtain rfl := Option.some.inj written
      exact .inr (by decide)
    | _ => contradiction
  | text => exact .inr (by decide)
  | bare begins =>
    have bare := Json.Reader.isBareChar_of_begins begins
    have ⟨noBlank, noBreak, _, _⟩ := Plain.isBareChar_spec bare
    exact .inr ⟨noBlank, noBreak, Plain.ne_of_isBareChar bare rfl⟩

-- The gap between two tokens is a gap of JSON, as no comment can stand in it.
theorem skipGapFrom_spec {inFlow keyAllowed : Bool} {place : Place} {cs : List Char}
    (unified : IsUnified cs) {ts : List Json.Token} (tokens : tokensFrom? .gap cs = some ts)
    {allowed : Bool} {cursor : Cursor}
    (skipped : skipGapFrom inFlow keyAllowed false place cs = (allowed, cursor)) :
    cursor.rest <:+ cs ∧ tokensFrom? .gap cursor.rest = some ts ∧
      (keyAllowed = true → allowed = true) ∧ ∀ c ∈ cursor.rest.head?, c ≠ ' ' ∧ c ≠ '\n' := by
  induction cs generalizing keyAllowed place with
  | nil =>
    obtain ⟨rfl, rfl⟩ := Prod.mk.inj skipped
    exact ⟨List.suffix_rfl, tokens, id, by simp⟩
  | cons c cs ih =>
    have later := unified.suffix (List.suffix_cons c cs)
    have further {allowed' : Bool} {place' : Place} (kept : keyAllowed = true → allowed' = true)
        (after : tokensFrom? .gap cs = some ts)
        (skipped : skipGapFrom inFlow allowed' false place' cs = (allowed, cursor)) :
        cursor.rest <:+ c :: cs ∧ tokensFrom? .gap cursor.rest = some ts ∧
          (keyAllowed = true → allowed = true) ∧
          ∀ c ∈ cursor.rest.head?, c ≠ ' ' ∧ c ≠ '\n' := by
      obtain ⟨suffix, found, allows, head⟩ := ih later after skipped
      exact ⟨suffix.trans (List.suffix_cons c cs), found, allows ∘ kept, head⟩
    have stays (noBreak : isBreak c = false) (noSpace : c ≠ ' ') (noComment : c ≠ '#')
        (noTab : ((inFlow || !keyAllowed) && c == '\t') = false) :
        cursor.rest <:+ c :: cs ∧ tokensFrom? .gap cursor.rest = some ts ∧
          (keyAllowed = true → allowed = true) ∧
          ∀ c ∈ cursor.rest.head?, c ≠ ' ' ∧ c ≠ '\n' := by
      simp only [skipGapFrom, noBreak, noTab, Bool.or_false, Bool.false_or, beq_iff_eq, noSpace,
        noComment, Bool.false_eq_true, if_false] at skipped
      obtain ⟨rfl, rfl⟩ := Prod.mk.inj skipped
      refine ⟨List.suffix_rfl, tokens, id, fun x isHead => ?_⟩
      obtain rfl := Option.some.inj isHead
      exact ⟨noSpace, by rintro rfl; contradiction⟩
    rcases gap_or_token (between_of_tokensFrom? tokens) with
      ⟨blank, after⟩ | ⟨noBlank, noBreak, noComment⟩
    · have ⟨noReturn, _⟩ := unified c List.mem_cons_self
      simp only [List.mem_cons, List.not_mem_nil, or_false, noReturn] at blank
      rcases blank with rfl | rfl | rfl
      · exact further id after skipped
      · exact further (fun allowed => by simp [allowed]) after skipped
      -- A tab is passed over unless a key may follow outside of brackets.
      · by_cases passes : (inFlow || !keyAllowed) = true
        · have skipped' : skipGapFrom inFlow keyAllowed false (place.advance 1) cs =
              (allowed, cursor) := by
            simpa [skipGapFrom, isBreak, passes] using skipped
          exact further id after skipped'
        · exact stays rfl (by decide) (by decide) (by simpa using passes)
    · have noTab : c ≠ '\t' := by rintro rfl; contradiction
      exact stays noBreak (by rintro rfl; contradiction) noComment (by simp [noTab])

theorem unroll_of_no_block {s : Scanner} (noBlock : s.indents = []) (column : Int) :
    s.unroll column = s := by
  obtain ⟨cursor, tokens, count, indent, indents, possibleKey, outerKeys, keyAllowed⟩ := s
  obtain rfl : indents = [] := noBlock
  unfold unroll
  split <;> rfl

theorem keep?_eq_some {place : Place} {key kept : Option PossibleKey}
    (keeps : keep? place key = some kept) : ∀ k ∈ kept, k ∈ key := by
  unfold keep? at keeps
  split at keeps
  · obtain rfl := Option.some.inj keeps
    exact fun _ => id
  · split at keeps
    · split at keeps
      · contradiction
      · obtain rfl := Option.some.inj keeps
        simp
    · obtain rfl := Option.some.inj keeps
      exact fun _ => id

theorem length_of_mapM {α β : Type} {read? : α → Option β} {xs : List α} {ys : List β}
    (read : xs.mapM read? = some ys) : ys.length = xs.length := by
  induction xs generalizing ys with
  | nil =>
    obtain rfl := Option.some.inj read
    rfl
  | cons x xs ih =>
    rw [List.mapM_cons] at read
    obtain ⟨y, -, read⟩ := Option.bind_eq_some_iff.mp read
    obtain ⟨ys, later, read⟩ := Option.bind_eq_some_iff.mp read
    obtain rfl := Option.some.inj read
    rw [List.length_cons, List.length_cons, ih later]

-- Passing over a gap changes nothing but where the scanner is, and which keys are possible.
theorem Fits.gap {s s' : Scanner} {e : Expects} {done ts : List Json.Token} (fits : s.Fits e done)
    (unified : IsUnified s.cursor.rest) (tokens : tokensFrom? .gap s.cursor.rest = some ts)
    (passed : s.skipGap.dropStaleKeys? = some s') :
    s'.Fits e done ∧ s'.cursor.rest <:+ s.cursor.rest ∧
      tokensFrom? .gap s'.cursor.rest = some ts ∧
      ∀ c ∈ s'.cursor.rest.head?, c ≠ ' ' ∧ c ≠ '\n' := by
  obtain ⟨possibleKey, kept, passed⟩ := Option.bind_eq_some_iff.mp passed
  obtain ⟨outerKeys, keptOuter, passed⟩ := Option.bind_eq_some_iff.mp passed
  obtain rfl := Option.some.inj passed
  obtain ⟨suffix, found, allows, head⟩ := skipGapFrom_spec unified tokens rfl
  refine ⟨?_, suffix, found, head⟩
  exact {
    indent := fits.indent
    indents := fits.indents
    depth := (length_of_mapM keptOuter).trans fits.depth
    keyAllowed := fun wanted => allows (fits.keyAllowed wanted)
    marked := fits.marked
    colon := fun wanted => by
      obtain ⟨name, front, tokens, isDone, isTokens, marked, position⟩ := fits.colon wanted
      exact ⟨name, front, tokens, isDone, isTokens, marked, fun k isKey =>
        position k (keep?_eq_some kept k isKey)⟩ }

section FirstCharacter

variable (s : Scanner) (cs : List Char)

def readSign? (s : Scanner) : Json.Token → Option Scanner
  | .openObject => s.openFlow? .openMapping
  | .openArray => s.openFlow? .openSequence
  | .closeObject => s.closeFlow? .closeMapping
  | .closeArray => s.closeFlow? .closeSequence
  | .colon => s.value?
  | .comma => s.comma?
  | _ => none

theorem token?_sign {t : Json.Token} {c : Char} (written : sign? t = some c)
    (inFlow : t = .colon → s.inFlow = true) : s.token? c cs = s.readSign? t := by
  cases t with
  | openObject | openArray | closeObject | closeArray | comma =>
    obtain rfl := Option.some.inj written
    simp [token?, atMarker, readSign?]
  | colon =>
    obtain rfl := Option.some.inj written
    simp [token?, atMarker, readSign?, inFlow]
  | _ => contradiction

theorem token?_quote : s.token? '"' cs = s.quoted? Quoted.readDouble? := by
  simp [token?, atMarker]

theorem token?_tab : s.token? '\t' cs = none := by
  simp [token?, atMarker, beginsPlain, isReserved]

theorem token?_word {c : Char} (word : c.isLower = true ∨ c.isDigit = true) :
    s.token? c cs = s.plain? := by
  have other {x : Char} (notWord : (x.isLower || x.isDigit) = false) : c ≠ x := by
    rintro rfl
    simp only [Bool.or_eq_false_iff] at notWord
    simp [notWord] at word
  have free : isReserved c = false := by
    have notWords : ∀ x ∈ "-?:,[]\x7b\x7d#&*!|>'\"%@`\t".toList,
        (!(x.isLower || x.isDigit)) = true := List.all_eq_true.mp (by decide)
    by_contra reserved
    exact other ((Bool.not_eq_true' _).mp
      (notWords c (List.elem_iff.mp (Bool.of_not_eq_false reserved)))) rfl
  have unlike {x : Char} (reserved : isReserved x = true) : (c == x) = false := by
    apply beq_false_of_ne
    rintro rfl
    rw [free] at reserved
    contradiction
  have noMarker : atMarker (c :: cs) = false := by
    unfold atMarker
    split
    case h_1 same => exact absurd (List.cons.inj same).1 (other rfl)
    case h_2 same => exact absurd (List.cons.inj same).1 (other rfl)
    case h_3 => rfl
  simp (disch := decide) only [token?, unlike, noMarker, beginsPlain, free, Bool.and_false,
    Bool.false_and, Bool.not_false, Bool.true_or, Bool.false_eq_true, if_false, if_true]

theorem token?_minus {more : List Char} (digit : more.head?.any Char.isDigit = true) :
    s.token? '-' (more ++ cs) = s.plain? := by
  obtain ⟨d, more, rfl⟩ : ∃ d later, more = d :: later := by
    cases more with
    | nil => contradiction
    | cons d later => exact ⟨d, later, rfl⟩
  have bare : Json.Reader.isBareChar d = true :=
    @Json.Reader.isBareChar_of_begins d [] (.inr (.inl digit))
  have ⟨noBlank, noBreak, _, _⟩ := Plain.isBareChar_spec bare
  have noMarker : atMarker ('-' :: d :: (more ++ cs)) = false := by
    unfold atMarker
    split
    case h_1 same =>
      obtain rfl := (List.cons.inj (List.cons.inj same).2).1
      contradiction
    case h_2 same => exact absurd (List.cons.inj same).1 (by decide)
    case h_3 => rfl
  simp [token?, noMarker, atGap, beginsPlain, noBlank, noBreak]

end FirstCharacter

theorem ends_of_isPlaced {e : Expects} {ts : List Json.Token} {v : Json} (placed : e.isPlaced)
    (accepted : e.Accepts ts v) {inFlow : Bool} (isFlow : inFlow = decide (0 < e.depth)) :
    Plain.Ends inFlow ts := by
  cases ts with
  | nil => exact .inl rfl
  | cons t ts =>
    obtain ⟨e', taken, -⟩ := Expects.accepts_cons.mp accepted
    cases Expects.step_cases taken with
    | openObject starts | openArray starts | scalar starts => cases starts <;> exact placed.elim
    | closeArray | closeObject | nextItem | nextField =>
      exact .inr ⟨by simp [isFlow, Expects.depth], _, ts, rfl, by simp⟩
    | _ => exact placed.elim

theorem Fits.sign {s s' : Scanner} {e e' : Expects} {done : List Json.Token} {t : Json.Token}
    {c : Char} {cs : List Char} (fits : s.Fits e done) (written : sign? t = some c)
    (taken : e.step t = some e') (scanned : s.token? c cs = some s') :
    s'.Fits e' (done ++ [t]) ∧ s'.cursor.rest = s.cursor.rest.drop 1 := by
  have step := Expects.step_cases taken
  have inFlow : t = .colon → s.inFlow = true := by
    rintro rfl
    rw [inFlow_eq_decide, fits.depth]
    cases step with
    | colon fields name stack => simp [Expects.depth]
    | scalar _ scalar => contradiction
  rw [token?_sign s cs written inFlow] at scanned
  cases step with
  | openObject starts =>
    exact fits.openFlow scanned .openObject (congrArg (· + 1) starts.depth_eq.symm) id
  | openArray starts =>
    exact fits.openFlow scanned .openArray (congrArg (· + 1) starts.depth_eq.symm) id
  | emptyObject | closeObject =>
    exact fits.closeFlow scanned .closeObject (by rw [Expects.depth_place]; rfl)
      (Expects.isPlaced_place _ _)
  | emptyArray | closeArray =>
    exact fits.closeFlow scanned .closeArray (by rw [Expects.depth_place]; rfl)
      (Expects.isPlaced_place _ _)
  | colon fields name stack => exact fits.value scanned trivial (inFlow rfl) rfl id id
  | nextItem | nextField => exact fits.comma scanned rfl id
  | scalar _ scalar => cases t <;> contradiction
  | _ => contradiction

theorem Fits.step {s s' : Scanner} {e : Expects} {done ts : List Json.Token} {v : Json} {c : Char}
    {cs : List Char} (fits : s.Fits e done) (unified : IsUnified s.cursor.rest)
    (rest : s.cursor.rest = c :: cs) (noGap : c ≠ ' ' ∧ c ≠ '\n')
    (tokens : tokensFrom? .gap (c :: cs) = some ts) (accepted : e.Accepts ts v)
    (scanned : s.token? c cs = some s') :
    ∃ t ts' e', ts = t :: ts' ∧ e'.Accepts ts' v ∧ s'.Fits e' (done ++ [t]) ∧
      s'.cursor.rest <:+ s.cursor.rest ∧ tokensFrom? .gap s'.cursor.rest = some ts' := by
  have noReturn : c ≠ '\r' := (unified c (by simp [rest])).1
  cases between_of_tokensFrom? tokens with
  | blank blank =>
    obtain rfl : c = '\t' := by simpa [noGap, noReturn] using blank
    rw [token?_tab] at scanned
    contradiction
  | @sign _ _ t ts' written later =>
    obtain ⟨e', taken, accepted'⟩ := Expects.accepts_cons.mp accepted
    obtain ⟨fits', after⟩ := fits.sign written taken scanned
    refine ⟨t, ts', e', rfl, accepted', fits', after ▸ List.drop_suffix 1 _, ?_⟩
    rw [after, rest]
    exact later
  | text later =>
    rw [token?_quote] at scanned
    obtain ⟨suffix, name, ts', rfl, found, fits'⟩ := fits.quoted scanned unified rest later
    obtain ⟨e', taken, accepted'⟩ := Expects.accepts_cons.mp accepted
    refine ⟨_, ts', e', rfl, accepted', ?_, suffix, found⟩
    cases Expects.step_cases taken with
    | scalar starts =>
      have placed := Expects.isPlaced_place
      exact fits' (by rw [Expects.depth_place, starts.depth_eq]) (placed _ _).not_wantsKey
        fun wanted => ((placed _ _).not_wantsColon wanted).elim
    | firstKey | nextKey => exact fits' rfl id fun _ => trivial
  | @bare _ more cs t ts' begins inside written later =>
    obtain ⟨e', taken, accepted'⟩ := Expects.accepts_cons.mp accepted
    have scanned' : s.plain? = some s' := by
      rcases begins with lower | digit | ⟨rfl, digit⟩
      · rwa [token?_word _ _ (.inl lower)] at scanned
      · rwa [token?_word _ _ (.inr digit)] at scanned
      · rwa [token?_minus _ _ digit] at scanned
    have bare : (c :: more).all Json.Reader.isBareChar = true := by
      simpa [Json.Reader.isBareChar_of_begins begins] using inside
    obtain ⟨stack, w, starts, -, rfl⟩ := Expects.bare_step written taken
    have depth : (Expects.place w stack).depth = e.depth := by
      rw [Expects.depth_place, starts.depth_eq]
    have placed := Expects.isPlaced_place w stack
    have flow : s.inFlow = decide (0 < (Expects.place w stack).depth) := by
      rw [inFlow_eq_decide, fits.depth, depth]
    obtain ⟨fits', suffix, found⟩ := fits.plain scanned' unified rest bare written later
      (ends_of_isPlaced placed accepted' flow) depth placed
    exact ⟨t, ts', _, rfl, accepted', fits', suffix, found⟩

theorem marked_of_tokensWithin? {steps : Nat} {s : Scanner} {e : Expects}
    {done ts : List Json.Token} {v : Json} {all : List Token} (fits : s.Fits e done)
    (unified : IsUnified s.cursor.rest) (tokens : tokensFrom? .gap s.cursor.rest = some ts)
    (accepted : e.Accepts ts v) (scanned : s.tokensWithin? steps = some all) :
    Marked (done ++ ts) all := by
  -- In each round a gap is passed and one token is read, which moves on both readers.
  induction steps generalizing s e done ts with
  | zero => contradiction
  | succ steps ih =>
    obtain ⟨s', passed, scanned⟩ := Option.bind_eq_some_iff.mp scanned
    obtain ⟨fits, suffix, tokens, noGap⟩ := fits.gap unified tokens passed
    have unified := unified.suffix suffix
    simp only [unroll_of_no_block fits.indents] at scanned
    split at scanned
    case h_1 rest =>
      obtain ⟨last, dropped, scanned⟩ := Option.bind_eq_some_iff.mp scanned
      rw [unroll_of_no_block fits.indents] at dropped
      obtain rfl := dropKey?_eq_some dropped
      obtain rfl := Option.some.inj scanned
      rw [rest] at tokens
      obtain rfl : [] = ts := Option.some.inj tokens
      rw [List.append_nil]
      exact fits.marked
    case h_2 c cs rest =>
      obtain ⟨next, token, scanned⟩ := Option.bind_eq_some_iff.mp scanned
      rw [rest] at tokens
      have head : c ≠ ' ' ∧ c ≠ '\n' := noGap c (by rw [rest]; rfl)
      obtain ⟨t, ts', e', rfl, accepted, fits, suffix, tokens⟩ :=
        fits.step unified rest head tokens accepted token
      have marked := ih fits (unified.suffix suffix) tokens accepted scanned
      rwa [List.append_assoc] at marked

end Scanner

-- The line breaks of YAML that JSON has no breaks for, but takes as characters of a string.
def isSeparator (c : Char) : Bool :=
  c == nextLine || c.toNat == 0x2028 || c.toNat == 0x2029

theorem step_return (r : Json.Reader) : r.step '\r' = r.step '\n' := by
  obtain ⟨tokens, mode⟩ := r
  cases mode <;> rfl

theorem mode_of_step_newline {r r' : Json.Reader} (step : r.step '\n' = some r') :
    r'.mode = .gap := by
  obtain ⟨tokens, mode⟩ := r
  cases mode with
  | gap =>
    obtain rfl := Option.some.inj step
    rfl
  | word read | number read =>
    obtain ⟨closed, -, begun⟩ := Option.bind_eq_some_iff.mp step
    obtain rfl := Option.some.inj begun
    rfl
  | text | escape | unit => contradiction

theorem tokensFrom?_return (mode : Json.Mode) (cs : List Char) :
    tokensFrom? mode ('\r' :: cs) = tokensFrom? mode ('\n' :: cs) := by
  rw [Json.Reader.tokensFrom?_cons, Json.Reader.tokensFrom?_cons, step_return]

theorem tokensFrom?_newline_twice (mode : Json.Mode) (cs : List Char) :
    tokensFrom? mode ('\n' :: '\n' :: cs) = tokensFrom? mode ('\n' :: cs) := by
  rw [Json.Reader.tokensFrom?_cons, Json.Reader.tokensFrom?_cons mode]
  cases begun : Json.Reader.step { mode } '\n' with
  | none => rfl
  | some r =>
    have again : tokensFrom? .gap ('\n' :: cs) = tokensFrom? .gap cs := by
      simp [Json.Reader.tokensFrom?_cons, Json.Reader.step, Json.Reader.start]
    rw [Option.bind_some, Option.bind_some, mode_of_step_newline begun, again]

theorem ne_nextLine {c : Char} (noSeparator : isSeparator c = false) : c ≠ nextLine := by
  rintro rfl
  contradiction

theorem tokensFrom?_unifyBreaks {cs : List Char} (noSeparator : ∀ c ∈ cs, isSeparator c = false)
    (mode : Json.Mode) : tokensFrom? mode (unifyBreaks cs) = tokensFrom? mode cs := by
  have congr {cs cs' : List Char} (same : ∀ mode, tokensFrom? mode cs = tokensFrom? mode cs')
      (c : Char) (mode : Json.Mode) :
      tokensFrom? mode (c :: cs) = tokensFrom? mode (c :: cs') := by
    simp only [Json.Reader.tokensFrom?_cons, same]
  fun_induction unifyBreaks cs generalizing mode with
  | case1 => rfl
  | case2 cs ih =>
    have ih := ih fun c mem => noSeparator c (by simp [mem])
    calc
      _ = tokensFrom? mode ('\n' :: cs) := congr ih '\n' mode
      _ = tokensFrom? mode ('\n' :: '\n' :: cs) := (tokensFrom?_newline_twice mode cs).symm
      _ = tokensFrom? mode ('\r' :: '\n' :: cs) := (tokensFrom?_return mode _).symm
  | case3 c cs _ ih =>
    have ih := ih fun c mem => noSeparator c (by simp [mem])
    have noNextLine := ne_nextLine (noSeparator c List.mem_cons_self)
    by_cases isReturn : c = '\r'
    · subst isReturn
      exact (congr ih '\n' mode).trans (tokensFrom?_return mode cs).symm
    · rw [if_neg (by simp [isReturn, noNextLine])]
      exact congr ih c mode

theorem isUnified_unifyBreaks {cs : List Char} (noSeparator : ∀ c ∈ cs, isSeparator c = false) :
    IsUnified (unifyBreaks cs) := by
  have newline : '\n' ≠ '\r' ∧ (isBreak '\n' = true → '\n' = '\n') := by decide
  fun_induction unifyBreaks cs with
  | case1 => simp [IsUnified]
  | case2 cs ih =>
    have ih := ih fun c mem => noSeparator c (by simp [mem])
    exact List.forall_mem_cons.mpr ⟨newline, ih⟩
  | case3 c cs _ ih =>
    have ih := ih fun c mem => noSeparator c (by simp [mem])
    refine List.forall_mem_cons.mpr ⟨?_, ih⟩
    have free := noSeparator c List.mem_cons_self
    by_cases isReturn : c = '\r'
    · rw [if_pos (by simp [isReturn])]
      exact newline
    · rw [if_neg (by simp [isReturn, ne_nextLine free])]
      refine ⟨isReturn, fun breaks => ?_⟩
      simp only [isSeparator, Bool.or_eq_false_iff] at free
      simpa [isBreak, free] using breaks

theorem tokens?_byteOrderMark (cs : List Char) : Json.tokens? (byteOrderMark :: cs) = none := by
  have nothing : Json.Reader.step {} byteOrderMark = none := rfl
  rw [Json.tokens?, List.foldlM_cons, nothing]
  rfl

/-- A JSON text that can be scanned as YAML has the same tokens there. -/
theorem marked_of_tokens? {cs : List Char} {ts : List Json.Token} {ys : List Token} {v : Json}
    (noSeparator : ∀ c ∈ cs, isSeparator c = false) (tokens : Json.tokens? cs = some ts)
    (accepted : (Expects.value []).Accepts ts v) (scanned : tokens? cs = some ys) :
    Marked ts ys := by
  unfold tokens? at scanned
  split at scanned
  case isFalse => contradiction
  case isTrue =>
    have noMark : (cs.head? == some byteOrderMark) = false := by
      apply beq_false_of_ne
      intro mark
      obtain ⟨rest, rfl⟩ := List.head?_eq_some_iff.mp mark
      rw [tokens?_byteOrderMark] at tokens
      contradiction
    simp only [noMark, Bool.false_eq_true, if_false] at scanned
    have start : ({ cursor := { rest := unifyBreaks cs } } : Scanner).Fits (.value []) [] := {
      indent := rfl
      indents := rfl
      depth := rfl
      keyAllowed := fun _ => rfl
      marked := .nil
      colon := False.elim }
    have read : tokensFrom? .gap (unifyBreaks cs) = some ts :=
      (tokensFrom?_unifyBreaks noSeparator .gap).trans tokens
    exact Scanner.marked_of_tokensWithin? start (isUnified_unifyBreaks noSeparator) read accepted
      scanned

end ApiContract.Yaml
