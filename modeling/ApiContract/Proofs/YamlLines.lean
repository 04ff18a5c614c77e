import ApiContract.Proofs.YamlStyles
import ApiContract.Proofs.YamlTokens

set_option autoImplicit false

namespace ApiContract.Yaml

namespace Scanner

/-- What is done before each token. -/
def settle? (s : Scanner) : Option Scanner := do
  let s ← s.skipGap.dropStaleKeys?
  pure (s.unroll s.column)

theorem tokensWithin?_of_settle {s t : Scanner} {c : Char} {cs : List Char}
    (settled : s.settle? = some t) (rest : t.cursor.rest = c :: cs) (steps : Nat) :
    tokensWithin? (steps + 1) s = (t.token? c cs).bind (tokensWithin? steps) := by
  obtain ⟨dropped, isDropped, unrolled⟩ := Option.bind_eq_some_iff.mp settled
  obtain rfl := Option.some.inj unrolled
  simp [tokensWithin?, isDropped, rest]

def Reaches (s s' : Scanner) : Prop :=
  ∃ steps, steps + s'.cursor.rest.length ≤ s.cursor.rest.length ∧
    ∀ more, tokensWithin? (more + steps) s = tokensWithin? more s'

theorem Reaches.refl (s : Scanner) : s.Reaches s :=
  ⟨0, by omega, fun _ => rfl⟩

theorem Reaches.trans {s s' s'' : Scanner} (first : s.Reaches s') (later : s'.Reaches s'') :
    s.Reaches s'' := by
  obtain ⟨steps, bound, same⟩ := first
  obtain ⟨steps', bound', same'⟩ := later
  refine ⟨steps' + steps, by omega, fun more => ?_⟩
  rw [← Nat.add_assoc, same, same']

theorem reaches_token {s t s' : Scanner} {c : Char} {cs : List Char}
    (settled : s.settle? = some t) (rest : t.cursor.rest = c :: cs)
    (token : t.token? c cs = some s')
    (shorter : s'.cursor.rest.length < s.cursor.rest.length) : s.Reaches s' := by
  refine ⟨1, by omega, fun more => ?_⟩
  rw [tokensWithin?_of_settle settled rest, token, Option.bind_some]

-- The mapping of the settings is open, or is to be opened by the first key.
def IsBlock (s : Scanner) (begun : Bool) : Prop :=
  s.indent = (if begun then 0 else -1) ∧ s.indents = (if begun then [-1] else []) ∧
    s.outerKeys = []

/-- A line begins, and no key is missing. -/
structure AtLine (s : Scanner) (begun : Bool) (tokens : List Token) (rest : List Char) : Prop where
  block : s.IsBlock begun
  tokens : s.tokens = tokens
  rest : s.cursor.rest = rest
  column : s.cursor.place.column = 0
  keyAllowed : s.keyAllowed = true
  free : s.possibleKey.any (·.required) = false

def Arrives (s : Scanner) (begun : Bool) (tokens : List Token) (rest : List Char) : Prop :=
  rest.length ≤ s.cursor.rest.length ∧ ∃ t, s.settle? = some t ∧ t.AtLine begun tokens rest

theorem skipGapFrom_stop {inFlow keyAllowed : Bool} {place : Place} {rest : List Char}
    (begins : BeginsLine rest) :
    skipGapFrom inFlow keyAllowed false place rest = (keyAllowed, ⟨rest, place⟩) := by
  cases rest with
  | nil => rfl
  | cons c rest =>
    obtain ⟨noBlank, noBreak, noComment⟩ := begins c rfl
    simp only [isBlank, Bool.or_eq_false_iff] at noBlank
    simp [skipGapFrom, noBreak, noBlank, noComment]

theorem unroll_of_le {s : Scanner} {column : Nat} (deep : s.indent ≤ column) :
    s.unroll column = s := by
  obtain ⟨cursor, tokens, count, indent, indents, possibleKey, outerKeys, keyAllowed⟩ := s
  have ends : unrollFrom column indent indents tokens count = (indent, indents, tokens, count) := by
    cases indents with
    | nil => rfl
    | cons outer indents => rw [unrollFrom, if_neg (Int.not_lt.mpr deep)]
  unfold unroll
  split_ifs
  · rfl
  · simp only [ends]

theorem settle?_eq {s : Scanner} {keyAllowed : Bool} {cursor : Cursor} {kept : Option PossibleKey}
    (passed : skipGapFrom s.inFlow s.keyAllowed false s.cursor.place s.cursor.rest =
      (keyAllowed, cursor))
    (keeps : keep? cursor.place s.possibleKey = some kept)
    (outer : s.outerKeys.mapM (keep? cursor.place) = some s.outerKeys)
    (deep : s.indent ≤ cursor.place.column) :
    s.settle? = some { s with cursor, keyAllowed, possibleKey := kept } := by
  have skipped : s.skipGap = { s with cursor, keyAllowed } := by
    simp only [skipGap, passed]
  have dropped : s.skipGap.dropStaleKeys? =
      some { s with cursor, keyAllowed, possibleKey := kept } := by
    simp [skipped, dropStaleKeys?, keeps, outer]
  rw [settle?, dropped]
  exact congrArg some (unroll_of_le deep)

theorem keep?_free (place : Place) {key : Option PossibleKey}
    (free : key.any (·.required) = false) :
    ∃ kept, keep? place key = some kept ∧ kept.any (·.required) = false := by
  cases key with
  | none => exact ⟨none, rfl, rfl⟩
  | some k =>
    have notRequired : k.required = false := free
    by_cases stale :
      (k.place.line < place.line || k.place.column + longestKey < place.column) = true
    · refine ⟨none, ?_, rfl⟩
      simp only [keep?, stale, notRequired]
      rfl
    · exact ⟨some k, by simp only [keep?, stale]; rfl, free⟩

-- A line begins after a break, or at once where a key may stand.
theorem arrives {s : Scanner} {begun : Bool} {rest : List Char} (block : s.IsBlock begun)
    (free : s.possibleKey.any (·.required) = false) (begins : BeginsLine rest)
    (start : s.cursor.rest = '\n' :: rest ∨
      s.cursor.rest = rest ∧ s.cursor.place.column = 0 ∧ s.keyAllowed = true) :
    s.Arrives begun s.tokens rest := by
  obtain ⟨indent, indents, flow⟩ := block
  obtain ⟨place, column, passed⟩ : ∃ place : Place, place.column = 0 ∧
      skipGapFrom s.inFlow s.keyAllowed false s.cursor.place s.cursor.rest =
        (true, ⟨rest, place⟩) := by
    have noFlow : s.inFlow = false := by simp [inFlow, flow]
    rw [noFlow]
    rcases start with broken | ⟨isRest, column, allowed⟩
    · refine ⟨s.cursor.place.nextLine, rfl, ?_⟩
      rw [broken, skipGapFrom]
      simp [isBreak, skipGapFrom_stop begins]
    · exact ⟨s.cursor.place, column, by rw [isRest, allowed, skipGapFrom_stop begins]⟩
  obtain ⟨kept, keeps, free'⟩ := keep?_free place free
  have short : rest.length ≤ s.cursor.rest.length := by
    rcases start with same | ⟨same, -⟩ <;> simp [same]
  refine ⟨short, _, settle?_eq passed keeps (by rw [flow]; rfl) ?_, ?_⟩
  · rw [indent, column]
    cases begun <;> decide
  · exact {
      block := ⟨indent, indents, flow⟩
      tokens := rfl
      rest := rfl
      column := column
      keyAllowed := rfl
      free := free' }

structure AtText (s : Scanner) (tokens : List Token) (rest : List Char) : Prop where
  block : s.IsBlock true
  tokens : s.tokens = tokens
  rest : s.cursor.rest = ' ' :: rest
  noKey : s.possibleKey = none

section Texts

variable {s : Scanner} {tokens : List Token} {rest : List Char}

theorem inFlow_eq_false {begun : Bool} (block : s.IsBlock begun) : s.inFlow = false := by
  simp [inFlow, block.2.2]

theorem AtText.settle (here : s.AtText tokens rest) (begins : BeginsLine rest) :
    s.settle? = some { s with cursor := ⟨rest, s.cursor.place.advance 1⟩ } := by
  obtain ⟨⟨indent, indents, flow⟩, -, isRest, noKey⟩ := here
  have passed : skipGapFrom s.inFlow s.keyAllowed false s.cursor.place s.cursor.rest =
      (s.keyAllowed, ⟨rest, s.cursor.place.advance 1⟩) := by
    rw [isRest, skipGapFrom]
    simp [isBreak, skipGapFrom_stop begins]
  rw [settle?_eq passed (by rw [noKey]; rfl) (by rw [flow]; rfl) (by rw [indent]; simp)]
  simp [noKey]

-- The first character of a text comes next.
structure OnText (s : Scanner) (tokens : List Token) (rest : List Char) : Prop where
  block : s.IsBlock true
  tokens : s.tokens = tokens
  rest : s.cursor.rest = rest
  column : 0 < s.cursor.place.column
  noKey : s.possibleKey = none

theorem AtText.settles (here : s.AtText tokens rest) (begins : BeginsLine rest) :
    ∃ t, s.settle? = some t ∧ t.OnText tokens rest :=
  ⟨_, here.settle begins, here.block, here.tokens, rfl, Nat.succ_pos _, here.noKey⟩

def hereKey (s : Scanner) : PossibleKey where
  position := s.count
  place := s.cursor.place
  required := !s.inFlow && s.indent == s.column

theorem saveKey?_of_allowed (allowed : s.keyAllowed = true)
    (free : s.possibleKey.any (·.required) = false) :
    s.saveKey? = some { s with possibleKey := some s.hereKey } := by
  simp [saveKey?, allowed, dropKey?, free]
  rfl

-- What is saved as a possible key of a text need not be one.
theorem OnText.saveKey?_eq (on : s.OnText tokens rest) :
    ∃ key, s.saveKey? = some { s with possibleKey := key } ∧ key.any (·.required) = false := by
  have notRequired : (!s.inFlow && s.indent == s.column) = false := by
    have indent : s.indent = 0 := on.block.1
    have column := on.column
    have other : ((0 : Int) == (s.column : Int)) = false := by
      apply beq_false_of_ne
      simp only [Scanner.column]
      omega
    rw [indent, other, Bool.and_false]
  by_cases allowed : s.keyAllowed = true
  · exact ⟨s.hereKey, saveKey?_of_allowed allowed (by rw [on.noKey]; rfl), notRequired⟩
  · refine ⟨none, ?_, rfl⟩
    rw [saveKey?, if_neg allowed, ← on.noKey]
    rfl

theorem token?_inLine {c : Char} {cs : List Char} (column : 0 < s.cursor.place.column)
    (noFlow : s.inFlow = false) :
    (c = '|' → s.token? c cs = s.block? false) ∧
      (c = '\'' → s.token? c cs = s.quoted? Quoted.readSingle?) := by
  have inside : (s.column == 0) = false := beq_false_of_ne (Nat.ne_of_gt column)
  constructor
  · rintro rfl
    simp [token?, inside, noFlow]
  · rintro rfl
    simp [token?, inside]

-- The characters that begin something else than a scalar, whatever follows them.
def markup : List Char :=
  "#,[]\x7b\x7d&*!|>'\"%@`".toList

theorem not_mem_markup {c : Char} {cs : List Char}
    (noMarkup : Scalar.beginsLikeMarkup (c :: cs) = false) : c ∉ markup := by
  intro inside
  have others : ∀ x ∈ markup, x ≠ '-' ∧ x ≠ '?' ∧ x ≠ '.' :=
    List.all_iff_forall_prop.mp (by decide)
  obtain ⟨dash, question, dot⟩ := others c inside
  have begins : Scalar.beginsLikeMarkup (c :: cs) = markup.contains c := by
    unfold Scalar.beginsLikeMarkup
    split
    case h_7 same => obtain rfl := (List.cons.inj same).1; rfl
    all_goals simp_all
  rw [begins, List.contains_iff_mem.mpr inside] at noMarkup
  contradiction

theorem goesOn_of_allowsPlain {c : Char} {cs : List Char}
    (allowed : Scalar.allowsPlain (c :: cs) = true) (sign : c = '-' ∨ c = '?' ∨ c = ':') :
    ∃ d later, cs = d :: later ∧ isBlank d = false ∧ isBreak d = false := by
  obtain ⟨all, -, -, noMarkup, noColon, noKey, -⟩ := Plain.of_allowsPlain allowed
  cases cs with
  | nil => rcases sign with rfl | rfl | rfl <;> simp [Scalar.beginsLikeMarkup] at noMarkup noColon
  | cons d later =>
    refine ⟨d, later, rfl, ?_, (all d (by simp)).2⟩
    by_contra blank
    have space := Quoted.eq_space_or_tab (Bool.of_not_eq_false blank)
    rcases sign with rfl | rfl | rfl
    · rcases space with rfl | rfl <;> simp [Scalar.beginsLikeMarkup, isBlank] at noMarkup
    · rcases space with rfl | rfl <;> simp [Scalar.beginsLikeMarkup, isBlank] at noMarkup
    · exact blank (by simpa using (Scalar.anyAdjacent_cons noKey).1 d rfl)

theorem token?_plain {c : Char} {cs : List Char} (tail : List Char)
    (column : 0 < s.cursor.place.column) (noFlow : s.inFlow = false)
    (allowed : Scalar.allowsPlain (c :: cs) = true) : s.token? c (cs ++ tail) = s.plain? := by
  have inside : (s.column == 0) = false := beq_false_of_ne (Nat.ne_of_gt column)
  obtain ⟨all, -, -, noMarkup, -⟩ := Plain.of_allowsPlain allowed
  have unlike : ∀ x ∈ markup, (c == x) = false := fun x isMarkup =>
    beq_false_of_ne fun same => not_mem_markup noMarkup (same ▸ isMarkup)
  have noGap (sign : c = '-' ∨ c = '?' ∨ c = ':') :
      atGap (cs ++ tail) = false ∧ (cs ++ tail).head?.any isBlank = false := by
    obtain ⟨d, later, rfl, noBlank, noBreak⟩ := goesOn_of_allowsPlain allowed sign
    simp [atGap, noBlank, noBreak]
  have quiet {x : Char} (sign : x = '-' ∨ x = '?' ∨ x = ':') :
      (c == x && atGap (cs ++ tail)) = false := by
    by_cases same : c = x
    · rw [(noGap (same ▸ sign)).1, Bool.and_false]
    · rw [beq_false_of_ne same, Bool.false_and]
  have begins : beginsPlain false c (cs ++ tail) = true := by
    by_cases reserved : isReserved c = true
    · have signs : ∀ x ∈ "-?:,[]\x7b\x7d#&*!|>'\"%@`\t".toList,
          x ∈ markup ∨ x = '\t' ∨ x = '-' ∨ x = '?' ∨ x = ':' :=
        List.all_iff_forall_prop.mp (by decide)
      rcases signs c (List.elem_iff.mp reserved) with isMarkup | rfl | sign
      · exact absurd isMarkup (not_mem_markup noMarkup)
      · exact absurd (all '\t' List.mem_cons_self).1 (by decide)
      · obtain ⟨noGap, noBlank⟩ := noGap sign
        rw [beginsPlain, noGap, noBlank]
        rcases sign with rfl | rfl | rfl <;> decide
    · simp [beginsPlain, reserved]
  simp (disch := decide) only [token?, inside, unlike, noFlow, quiet, begins, Bool.false_and,
    Bool.false_or, Bool.false_eq_true, if_false, if_true]

def afterScalar (s : Scanner) (key : Option PossibleKey) (keyAllowed : Bool) (cursor : Cursor)
    (style : ScalarStyle) (text : String) : Scanner :=
  { s with possibleKey := key, keyAllowed, cursor }.emit (.scalar style text)

def ReadsScalar (s : Scanner) (style : ScalarStyle) (text : String) (rest : List Char) : Prop :=
  ∃ c cs key keyAllowed cursor, s.cursor.rest = c :: cs ∧
    s.token? c cs = some (s.afterScalar key keyAllowed cursor style text) ∧
    key.any (·.required) = false ∧
    (cursor.rest = '\n' :: rest ∨
      cursor.rest = rest ∧ cursor.place.column = 0 ∧ keyAllowed = true)

variable {text : String}

theorem OnText.reads_lines (on : s.OnText tokens (Scalar.lines text.toList ++ rest))
    (present : text.toList ≠ []) (allowed : Scalar.allowsLines text.toList = true)
    (begins : BeginsLine rest) : s.ReadsScalar .literal text rest := by
  have indent : s.indent = 0 := on.block.1
  have written : '|' :: (s.cursor.skip 1).rest = Scalar.lines text.toList ++ rest := by
    rw [Cursor.skip, on.rest]
    rfl
  obtain ⟨place, read, column⟩ := Block.scalar?_text allowed present begins written
  rw [← indent] at read
  have block : s.block? false = some (s.afterScalar none true ⟨rest, place⟩ .literal text) := by
    simp [block?, dropKey?, on.noKey, read]
    rfl
  exact ⟨_, _, none, true, ⟨rest, place⟩, on.rest,
    ((token?_inLine on.column (inFlow_eq_false on.block)).1 rfl).trans block, rfl,
    .inr ⟨rfl, column, rfl⟩⟩

theorem OnText.reads_plain (on : s.OnText tokens (text.toList ++ '\n' :: rest))
    (present : text.toList ≠ []) (allowed : Scalar.allowsPlain text.toList = true)
    (begins : BeginsLine rest) : s.ReadsScalar .plain text rest := by
  obtain ⟨key, saved, free⟩ := on.saveKey?_eq
  obtain ⟨q, read, shown, broken, start⟩ :=
    Plain.read?_text allowed present begins s.cursor.place
  have indent : s.indent = 0 := on.block.1
  have noFlow := inFlow_eq_false on.block
  have read : Plain.read? s.inFlow (s.indent + 1).toNat { place := s.cursor.place } s.cursor.rest =
      some (q, rest) := by
    rw [noFlow, indent, on.rest]
    exact read
  have plain : s.plain? = some (s.afterScalar key true ⟨rest, q.place⟩ .plain text) := by
    simp only [plain?, saved, Option.bind_eq_bind, Option.bind_some]
    rw [show ({ s with possibleKey := key } : Scanner).inFlow = s.inFlow from rfl, read]
    simp [shown, broken]
    rfl
  obtain ⟨c, cs, same⟩ := List.exists_cons_of_ne_nil present
  have token : s.token? c (cs ++ '\n' :: rest) = s.plain? :=
    token?_plain _ on.column noFlow (same ▸ allowed)
  exact ⟨c, cs ++ '\n' :: rest, key, true, ⟨rest, q.place⟩, by rw [on.rest, same, List.cons_append],
    token.trans plain, free, .inr ⟨rfl, start, rfl⟩⟩

theorem OnText.reads_quoted {quote : Char} {cs : List Char} {q : Quoted.Progress}
    {read? : Quoted.Progress → List Char → Option (Quoted.Progress × List Char)}
    (on : s.OnText tokens (quote :: cs)) (token : s.token? quote cs = s.quoted? read?)
    (read : read? { place := s.cursor.place.advance 1 } cs = some (q, '\n' :: rest))
    (shown : q.text = text.toList.reverse) : s.ReadsScalar .quoted text rest := by
  obtain ⟨key, saved, free⟩ := on.saveKey?_eq
  have start : (s.cursor.skip 1).place = s.cursor.place.advance 1 := rfl
  have isRest : (s.cursor.skip 1).rest = cs := by
    rw [Cursor.skip, on.rest]
    rfl
  have quoted : s.quoted? read? =
      some (s.afterScalar key false ⟨'\n' :: rest, q.place⟩ .quoted text) := by
    simp [quoted?, saved, start, isRest, read, shown]
    rfl
  exact
    ⟨quote, cs, key, false, ⟨'\n' :: rest, q.place⟩, on.rest, token.trans quoted, free, .inl rfl⟩

theorem OnText.reads {style : ScalarStyle} {w : List Char} (on : s.OnText tokens (w ++ rest))
    (shown : Shown text style w) (begins : BeginsLine rest) : s.ReadsScalar style text rest := by
  cases shown with
  | lines present allowed => exact on.reads_lines present allowed begins
  | plain present allowed =>
    rw [List.append_assoc] at on
    exact on.reads_plain present allowed begins
  | single oneLine allowed =>
    rw [List.append_assoc] at on
    obtain ⟨q, read, isText⟩ := Quoted.readSingle?_text (p := { place := s.cursor.place.advance 1 })
      (show ('\n' :: rest).head? ≠ some '\'' by simp)
      (Quoted.fits_of_allowsSingleQuotes oneLine allowed) ⟨rfl, nofun, fun _ => Nat.succ_pos _⟩
      nofun (fun _ some => absurd rfl some)
    exact on.reads_quoted ((token?_inLine on.column (inFlow_eq_false on.block)).2 rfl) read
      (isText.trans (List.append_nil _))
  | double =>
    rw [Scalar.doubleQuoted, List.append_assoc, List.cons_append, List.cons_append,
      List.append_assoc] at on
    obtain ⟨q, read, isText⟩ := Quoted.readDouble?_text text.toList ('\n' :: rest)
      (p := { place := s.cursor.place.advance 1 }) rfl (Nat.succ_pos _)
    exact on.reads_quoted (token?_quote s _) read (isText.trans (List.append_nil _))

theorem AtText.scalar {style : ScalarStyle} {w : List Char} (here : s.AtText tokens (w ++ rest))
    (shown : Shown text style w) (begins : BeginsLine rest) :
    ∃ s', s.Reaches s' ∧ s'.Arrives true (.scalar style text :: tokens) rest := by
  obtain ⟨t, settled, on⟩ := here.settles (shown.begins rest)
  obtain ⟨c, cs, key, keyAllowed, cursor, isRest, token, free, start⟩ := on.reads shown begins
  refine ⟨_, reaches_token settled isRest token ?_, ?_⟩
  · have present := shown.length_pos
    have short : cursor.rest.length ≤ rest.length + 1 := by
      rcases start with same | ⟨same, -⟩ <;> simp [same]
    rw [here.rest, List.length_cons, List.length_append]
    exact Nat.lt_of_le_of_lt short (by omega)
  · rw [← on.tokens]
    exact arrives on.block free begins start

end Texts

section Keys

variable {s : Scanner} {begun : Bool} {tokens : List Token} {rest : List Char}

theorem token?_key {c : Char} (cs : List Char) (word : (c.isAlphanum || c == '_') = true) :
    s.token? c cs = s.plain? := by
  obtain ⟨-, -, other⟩ := of_isKeyChar word
  have unlike : ∀ x ∈ signs, (c == x) = false := fun x isSign => beq_false_of_ne (other x isSign)
  have free : isReserved c = false := by
    by_contra reserved
    have isSign : ∀ x ∈ "-?:,[]\x7b\x7d#&*!|>'\"%@`\t".toList, x ∈ signs :=
      List.all_iff_forall_prop.mp (by decide)
    exact other c (isSign c (List.elem_iff.mp (Bool.of_not_eq_false reserved))) rfl
  have noMarker : atMarker (c :: cs) = false := by
    unfold atMarker
    split
    case h_1 same => exact absurd (List.cons.inj same).1 (other '-' (by decide))
    case h_2 same => exact absurd (List.cons.inj same).1 (other '.' (by decide))
    case h_3 => rfl
  simp (disch := decide) only [token?, unlike, noMarker, beginsPlain, free, Bool.and_false,
    Bool.false_and, Bool.not_false, Bool.true_or, Bool.false_eq_true, if_false, if_true]

theorem plain?_key {name : String} {cs : List Char} (here : s.AtLine begun tokens rest)
    (key : IsKey name) (gap : atGap cs = true) (isRest : rest = name.toList ++ ':' :: cs) :
    s.plain? = some (s.afterScalar (some s.hereKey) false
      ⟨':' :: cs, s.cursor.place.advance name.toList.length⟩ .plain name) := by
  have chars (c : Char) (inside : c ∈ name.toList) := of_isKeyChar (key.word c inside)
  have low : (s.indent + 1).toNat ≤ 1 := by
    rw [here.block.1]
    cases begun <;> decide
  obtain ⟨q, same, shown, inLine, afterGap, place⟩ := Plain.read?_line low (':' :: cs)
    (fun c inside => (chars c inside).2.1)
    (fun isLast => absurd rfl ((chars ':' (List.mem_of_getLast? isLast)).2.2 ':' (by decide)))
    (Scalar.anyAdjacent_eq_false fun c inside _ _ => by
      rw [beq_false_of_ne ((chars c inside).2.2 ':' (by decide)), Bool.false_and])
    (Scalar.anyAdjacent_eq_false fun c inside _ _ => by
      rw [(chars c inside).1, Bool.false_and])
    (Plain.isInLine_start s.cursor.place) nofun
  have within : q.afterGap = false := by
    obtain ⟨c, isLast⟩ :=
      Option.ne_none_iff_exists'.mp (mt List.getLast?_eq_none_iff.mp key.present)
    simp [afterGap, isLast, (chars c (List.mem_of_getLast? isLast)).1]
  have read : Plain.read? s.inFlow (s.indent + 1).toNat { place := s.cursor.place } s.cursor.rest =
      some (q, ':' :: cs) := by
    rw [inFlow_eq_false here.block, here.rest, isRest, same, Plain.read?]
    simp [isBlank, isBreak, within, Plain.isRefused, Plain.endsBefore, gap]
  have text : q.text = name.toList.reverse := by
    simpa [Plain.Progress.shown, inLine.within within, Gap.folded] using shown
  simp only [plain?, saveKey?_of_allowed here.keyAllowed here.free, Option.bind_eq_bind,
    Option.bind_some]
  rw [show ({ s with possibleKey := some s.hereKey } : Scanner).inFlow = s.inFlow from rfl, read]
  simp [text, inLine.within within, place]
  rfl

-- The tokens of a key, the latest first. The first key opens the mapping.
def keyTokens (begun : Bool) (name : String) (tokens : List Token) : List Token :=
  .value :: .scalar .plain name :: .key :: if begun then tokens else .blockMapping :: tokens

structure AfterColon (s : Scanner) (tokens : List Token) (rest : List Char) : Prop where
  block : s.IsBlock true
  tokens : s.tokens = tokens
  rest : s.cursor.rest = rest
  noKey : s.possibleKey = none
  keyAllowed : s.keyAllowed = false

-- The mark of the key is put before its scalar, and the beginning of the mapping before that.
theorem value?_key (here : s.AtLine begun tokens rest) (name : String) (cursor : Cursor) :
    ∃ s', (s.afterScalar (some s.hereKey) false cursor .plain name).value? = some s' ∧
      s'.AfterColon (keyTokens begun name tokens) (cursor.rest.drop 1) := by
  obtain ⟨⟨place, line, column⟩, tokens, count, indent, indents, possibleKey, outerKeys,
    keyAllowed⟩ := s
  obtain ⟨⟨rfl, rfl, rfl⟩, rfl, -, rfl, -, -⟩ := here
  refine ⟨_, rfl, ?_⟩
  have next : count + 1 - count = 1 := by omega
  have afterNext : count + 1 + 1 - count = 2 := by omega
  cases begun with
  | true =>
    constructor <;>
      simp [afterScalar, hereKey, emit, insertAt, roll, inFlow, indicator, keyTokens, next, IsBlock,
        Cursor.skip]
  | false =>
    constructor <;>
      simp [afterScalar, hereKey, emit, insertAt, roll, inFlow, indicator, keyTokens, next,
        afterNext, IsBlock, Cursor.skip]

-- A key that is not too long is still possible at the colon.
theorem settle?_key {name : String} {cs : List Char} (here : s.AtLine begun tokens rest)
    (key : IsKey name) :
    (s.afterScalar (some s.hereKey) false
      ⟨':' :: cs, s.cursor.place.advance name.toList.length⟩ .plain name).settle? =
      some (s.afterScalar (some s.hereKey) false
        ⟨':' :: cs, s.cursor.place.advance name.toList.length⟩ .plain name) := by
  have begins : BeginsLine (':' :: cs) := fun c isHead => by
    obtain rfl := Option.some.inj isHead
    decide
  have keeps : keep? (s.cursor.place.advance name.toList.length) (some s.hereKey) =
      some (some s.hereKey) := by
    have near := key.short
    have column := here.column
    simp [keep?, hereKey, Place.advance, near]
  refine settle?_eq (skipGapFrom_stop begins) keeps ?_ ?_
  · rw [show (s.afterScalar _ _ _ _ _).outerKeys = s.outerKeys from rfl, here.block.2.2]
    rfl
  · rw [show (s.afterScalar _ _ _ _ _).indent = s.indent from rfl, here.block.1]
    cases begun <;> simp

theorem token?_colon {cs : List Char} (gap : atGap cs = true) : s.token? ':' cs = s.value? := by
  simp [token?, atMarker, gap]

theorem Arrives.key {name : String} {cs : List Char}
    (arrived : s.Arrives begun tokens (name.toList ++ ':' :: cs)) (key : IsKey name)
    (gap : atGap cs = true) :
    ∃ s', s.Reaches s' ∧ s'.AfterColon (keyTokens begun name tokens) cs := by
  obtain ⟨length, t, settled, here⟩ := arrived
  obtain ⟨c, later, same⟩ := List.exists_cons_of_ne_nil key.present
  have word : (c.isAlphanum || c == '_') = true := key.word c (by simp [same])
  have token : t.token? c (later ++ ':' :: cs) = _ :=
    (token?_key _ word).trans (plain?_key here key gap rfl)
  have named := reaches_token settled (by rw [here.rest, same]; rfl) token (by
    refine Nat.lt_of_lt_of_le ?_ length
    simp only [afterScalar, emit, same, List.length_append, List.length_cons]
    omega)
  obtain ⟨s', valued, after⟩ := value?_key here name
    ⟨':' :: cs, t.cursor.place.advance name.toList.length⟩
  refine ⟨s', named.trans (reaches_token (settle?_key here key) rfl
    ((token?_colon gap).trans valued) ?_), after⟩
  rw [after.rest]
  exact Nat.lt_succ_self _

end Keys

section Values

variable {s : Scanner} {begun : Bool} {tokens : List Token} {rest : List Char}

theorem AfterColon.atText (after : s.AfterColon tokens (' ' :: rest)) : s.AtText tokens rest :=
  ⟨after.block, after.tokens, after.rest, after.noKey⟩

theorem AfterColon.arrives (after : s.AfterColon tokens ('\n' :: rest))
    (begins : BeginsLine rest) : s.Arrives true tokens rest := by
  rw [← after.tokens]
  exact Scanner.arrives after.block (by rw [after.noKey]; rfl) begins (.inl after.rest)

-- A dash begins an item, which is no more indented than the key of the list.
theorem Arrives.entry (arrived : s.Arrives true tokens ('-' :: ' ' :: rest)) :
    ∃ s', s.Reaches s' ∧ s'.AtText (.entry :: tokens) rest := by
  obtain ⟨length, t, settled, here⟩ := arrived
  have token : t.token? '-' (' ' :: rest) = t.entry? := by
    simp [token?, atMarker, atGap, isBlank]
  have notDeeper : (t.column : Int) ≤ t.indent := by
    rw [here.block.1, Scanner.column, here.column]
    rfl
  have entered : t.entry? =
      some ({ t with possibleKey := none, keyAllowed := true }.indicator .entry 1) := by
    simp [inFlow_eq_false here.block, entry?, here.keyAllowed, roll, notDeeper, dropKey?,
      here.free]
  have after : ({ t with possibleKey := none, keyAllowed := true }.indicator .entry 1).cursor.rest =
      ' ' :: rest := by
    simp [indicator, emit, Cursor.skip, here.rest]
  refine ⟨_, reaches_token settled here.rest (token.trans entered) ?_, ?_⟩
  · rw [after]
    exact Nat.lt_of_succ_le length
  · exact ⟨here.block, by rw [← here.tokens]; rfl, after, rfl⟩

structure InBrackets (s : Scanner) (tokens : List Token) (rest : List Char) : Prop where
  indent : s.indent = 0
  indents : s.indents = [-1]
  flow : s.outerKeys = [none]
  tokens : s.tokens = tokens
  rest : s.cursor.rest = rest
  noKey : s.possibleKey = none

theorem beginsLine_bracket {c : Char} (bracket : c = '[' ∨ c = ']') (cs : List Char) :
    BeginsLine (c :: cs) := by
  intro d isHead
  obtain rfl := Option.some.inj isHead
  rcases bracket with rfl | rfl <;> decide

theorem AfterColon.openList (after : s.AfterColon tokens (' ' :: '[' :: rest)) :
    ∃ s', s.Reaches s' ∧ s'.InBrackets (.openSequence :: tokens) rest := by
  have settled := after.atText.settle (beginsLine_bracket (.inl rfl) rest)
  generalize isNext : { s with cursor := ⟨'[' :: rest, s.cursor.place.advance 1⟩ } = t at settled
  have opened : t.token? '[' rest =
      some ({ t with outerKeys := none :: t.outerKeys, keyAllowed := true }.indicator
        .openSequence 1) := by
    have notAllowed : t.keyAllowed = false := isNext ▸ after.keyAllowed
    have noKey : t.possibleKey = none := isNext ▸ after.noKey
    simp [token?, atMarker, openFlow?, saveKey?, notAllowed, noKey]
  have here : t.cursor.rest = '[' :: rest := isNext ▸ rfl
  refine ⟨_, reaches_token settled here opened ?_, ?_⟩
  · simp only [indicator, emit, Cursor.skip, here, after.rest, List.drop_succ_cons, List.drop_zero,
      List.length_cons]
    omega
  · subst isNext
    exact {
      indent := after.block.1
      indents := after.block.2.1
      flow := congrArg (none :: ·) after.block.2.2
      tokens := congrArg (Token.openSequence :: ·) after.tokens
      rest := rfl
      noKey := after.noKey }

theorem InBrackets.closeList (inside : s.InBrackets tokens (']' :: '\n' :: rest))
    (begins : BeginsLine rest) :
    ∃ s', s.Reaches s' ∧ s'.Arrives true (.closeSequence :: tokens) rest := by
  obtain ⟨indent, indents, flow, rfl, isRest, noKey⟩ := inside
  have stops := beginsLine_bracket (.inr rfl) ('\n' :: rest)
  have settled : s.settle? = some s := by
    refine settle?_eq (skipGapFrom_stop (isRest ▸ stops)) (by rw [noKey]; rfl)
      (by rw [flow]; rfl) ?_
    rw [indent]
    exact Int.natCast_nonneg _
  have closed : s.token? ']' ('\n' :: rest) =
      some ({ s with possibleKey := none, outerKeys := [], keyAllowed := false }.indicator
        .closeSequence 1) := by
    simp [token?, atMarker, closeFlow?, dropKey?, noKey, flow]
  refine ⟨_, reaches_token settled isRest closed ?_, ?_⟩
  · simp [indicator, emit, Cursor.skip, isRest]
  · refine Scanner.arrives ⟨indent, indents, rfl⟩ rfl begins (.inl ?_)
    simp [indicator, emit, Cursor.skip, isRest]

def itemLines (texts : List String) (rest : List Char) : List Char :=
  texts.foldr (fun text rest => '-' :: ' ' :: ((Scalar.write text).toList ++ rest)) rest

theorem itemLines_eq (texts : List String) (rest : List Char) :
    (String.join (texts.map fun t => "- " ++ Scalar.write t)).toList ++ rest =
      itemLines texts rest := by
  rw [String.toList_join]
  induction texts with
  | nil => rfl
  | cons text texts ih =>
    have later : itemLines (text :: texts) rest =
        '-' :: ' ' :: ((Scalar.write text).toList ++ itemLines texts rest) := rfl
    simp [later, ← ih]

theorem beginsLine_itemLines (texts : List String) (begins : BeginsLine rest) :
    BeginsLine (itemLines texts rest) := by
  cases texts with
  | nil => exact begins
  | cons text texts =>
    intro c isHead
    obtain rfl := Option.some.inj isHead
    decide

def itemTokens (texts : List String) : List Token :=
  texts.flatMap fun text => [.entry, .scalar (styleOf text) text]

theorem Arrives.items (texts : List String) (begins : BeginsLine rest)
    (arrived : s.Arrives true tokens (itemLines texts rest)) :
    ∃ s', s.Reaches s' ∧ s'.Arrives true ((itemTokens texts).reverse ++ tokens) rest := by
  induction texts generalizing s tokens with
  | nil => exact ⟨s, .refl s, arrived⟩
  | cons text texts ih =>
    obtain ⟨s₁, toText, here⟩ := arrived.entry
    obtain ⟨s₂, toLine, arrived⟩ :=
      here.scalar (shown_write text) (beginsLine_itemLines texts begins)
    obtain ⟨s₃, toEnd, arrived⟩ := ih arrived
    refine ⟨s₃, (toText.trans toLine).trans toEnd, ?_⟩
    simpa [itemTokens] using arrived

end Values

section Lines

variable {s : Scanner} {begun : Bool} {tokens : List Token} {rest : List Char}

def valueTokens : Setting → List Token
  | .text text => [.scalar (styleOf text) text]
  | .flag value => [.scalar .plain (if value then "true" else "false")]
  | .texts [] => [.openSequence, .closeSequence]
  | .texts texts => itemTokens texts

theorem Arrives.scalar {name text : String} {style : ScalarStyle} {w : List Char}
    (arrived : s.Arrives begun tokens (name.toList ++ ':' :: ' ' :: (w ++ rest))) (key : IsKey name)
    (shown : Shown text style w) (begins : BeginsLine rest) :
    ∃ s', s.Reaches s' ∧
      s'.Arrives true (.scalar style text :: keyTokens begun name tokens) rest := by
  obtain ⟨s₁, toValue, after⟩ := arrived.key key rfl
  obtain ⟨s₂, toLine, arrived⟩ := after.atText.scalar shown begins
  exact ⟨s₂, toValue.trans toLine, arrived⟩

theorem Arrives.setting {name : String} {setting : Setting} (key : IsKey name)
    (begins : BeginsLine rest)
    (arrived : s.Arrives begun tokens ((writeSetting name setting).toList ++ rest)) :
    ∃ s', s.Reaches s' ∧
      s'.Arrives true ((valueTokens setting).reverse ++ keyTokens begun name tokens) rest := by
  match setting with
  | .text text =>
    have written : (writeSetting name (.text text)).toList ++ rest =
        name.toList ++ ':' :: ' ' :: ((Scalar.write text).toList ++ rest) := by
      simp [writeSetting]
    rw [written] at arrived
    exact arrived.scalar key (shown_write text) begins
  | .flag value =>
    have written : (writeSetting name (.flag value)).toList ++ rest =
        name.toList ++ ':' :: ' ' ::
          ((if value then "true" else "false").toList ++ ['\n'] ++ rest) := by
      cases value <;> simp [writeSetting]
    have shown : Shown (if value then "true" else "false") .plain
        ((if value then "true" else "false").toList ++ ['\n']) := by
      cases value <;> exact .plain (by decide) (by decide)
    rw [written] at arrived
    exact arrived.scalar key shown begins
  | .texts [] =>
    have written : (writeSetting name (.texts [])).toList ++ rest =
        name.toList ++ ':' :: ' ' :: '[' :: ']' :: '\n' :: rest := by
      simp [writeSetting]
    rw [written] at arrived
    obtain ⟨s₁, toValue, after⟩ := arrived.key key rfl
    obtain ⟨s₂, toList, inside⟩ := after.openList
    obtain ⟨s₃, toLine, arrived⟩ := inside.closeList begins
    exact ⟨s₃, (toValue.trans toList).trans toLine, arrived⟩
  | .texts (text :: texts) =>
    have written : (writeSetting name (.texts (text :: texts))).toList ++ rest =
        name.toList ++ ':' :: '\n' :: itemLines (text :: texts) rest := by
      simp [writeSetting, ← itemLines_eq]
    rw [written] at arrived
    obtain ⟨s₁, toValue, after⟩ := arrived.key key rfl
    have begins' := beginsLine_itemLines (text :: texts) begins
    obtain ⟨s₂, toLine, arrived⟩ := (after.arrives begins').items _ begins
    exact ⟨s₂, toValue.trans toLine, arrived⟩

def settingTokens (s : String × Setting) : List Token :=
  [.key, .scalar .plain s.1, .value] ++ valueTokens s.2

theorem Arrives.settings {settings : Settings} (keys : ∀ s ∈ settings, IsKey s.1)
    (arrived : s.Arrives true tokens (write settings).toList) :
    ∃ s', s.Reaches s' ∧
      s'.Arrives true ((settings.flatMap settingTokens).reverse ++ tokens) [] := by
  induction settings generalizing s tokens with
  | nil => exact ⟨s, .refl s, arrived⟩
  | cons setting settings ih =>
    obtain ⟨key, later⟩ := List.forall_mem_cons.mp keys
    rw [write_cons] at arrived
    obtain ⟨s₁, toLine, arrived⟩ := arrived.setting key (beginsLine_write later)
    obtain ⟨s₂, toEnd, arrived⟩ := ih later arrived
    refine ⟨s₂, toLine.trans toEnd, ?_⟩
    simpa [settingTokens, keyTokens] using arrived

theorem Arrives.finish (arrived : s.Arrives true tokens []) (steps : Nat) :
    tokensWithin? (steps + 1) s = some (tokens.reverse ++ [.blockEnd]) := by
  obtain ⟨-, t, settled, here⟩ := arrived
  obtain ⟨dropped, isDropped, unrolled⟩ := Option.bind_eq_some_iff.mp settled
  obtain rfl := Option.some.inj unrolled
  have ends : tokensWithin? (steps + 1) s = (dropped.unroll dropped.column).finish? := by
    simp [tokensWithin?, isDropped, here.rest]
  rw [ends]
  generalize dropped.unroll dropped.column = t at here
  obtain ⟨cursor, tokens, count, indent, indents, possibleKey, outerKeys, keyAllowed⟩ := t
  obtain ⟨⟨rfl, rfl, rfl⟩, rfl, -, -, -, free⟩ := here
  have free : possibleKey.any (·.required) = false := free
  simp [finish?, unroll, inFlow, unrollFrom, dropKey?, free]

end Lines

end Scanner

theorem unifyBreaks_eq {cs : List Char} (printable : cs.all Scalar.isPrintable = true) :
    unifyBreaks cs = cs := by
  induction cs with
  | nil => rfl
  | cons c cs ih =>
    rw [List.all_cons, Bool.and_eq_true] at printable
    have others := (Scalar.of_isPrintable printable.1).2
    simp only [List.mem_cons, List.not_mem_nil, or_false, not_or] at others
    obtain ⟨-, noReturn, noNextLine, -⟩ := others
    rw [unifyBreaks, ih printable.2]
    · simp [noReturn, noNextLine]
    · rintro later rfl
      exact absurd rfl noReturn

theorem tokens?_eq {cs : List Char} (printable : cs.all Scalar.isPrintable = true) :
    tokens? cs = Scanner.tokensWithin? (cs.length + 1) { cursor := { rest := cs } } := by
  have allowed : cs.all isAllowed = true := by
    rw [List.all_eq_true] at printable ⊢
    exact fun c inside => (Scalar.of_isPrintable (printable c inside)).1
  have noMark : (cs.head? == some byteOrderMark) = false := by
    refine beq_false_of_ne fun mark => ?_
    have := List.all_eq_true.mp printable _ (List.mem_of_mem_head? mark)
    contradiction
  simp only [tokens?, allowed, noMark, Bool.false_eq_true, if_false, if_true,
    unifyBreaks_eq printable]

theorem tokens?_write {first : String × Setting} {settings : Settings}
    (keys : ∀ s ∈ first :: settings, IsKey s.1) :
    tokens? (write (first :: settings)).toList =
      some (.blockMapping :: (first :: settings).flatMap Scanner.settingTokens ++
        [.blockEnd]) := by
  have start : Scanner.Arrives { cursor := ⟨(write (first :: settings)).toList, {}⟩ } false []
      ((writeSetting first.1 first.2).toList ++ (write settings).toList) := by
    rw [← write_cons]
    exact Scanner.arrives ⟨rfl, rfl, rfl⟩ rfl (beginsLine_write keys) (.inr ⟨rfl, rfl, rfl⟩)
  obtain ⟨key, later⟩ := List.forall_mem_cons.mp keys
  obtain ⟨s₁, toLine, arrived⟩ := start.setting key (beginsLine_write later)
  obtain ⟨s₂, toEnd, arrived⟩ := arrived.settings later
  obtain ⟨steps, bound, same⟩ := toLine.trans toEnd
  -- There are no more tokens than characters, so that the steps suffice.
  obtain ⟨more, length⟩ : ∃ more, (write (first :: settings)).toList.length = more + steps :=
    ⟨_, (Nat.sub_add_cancel (Nat.le_of_add_right_le bound)).symm⟩
  rw [tokens?_eq (all_write keys), length, Nat.add_right_comm, same, arrived.finish]
  simp [Scanner.settingTokens, Scanner.keyTokens]

end ApiContract.Yaml
