import ApiContract.Json.Parser
import Mathlib.Data.List.Induction

set_option autoImplicit false

namespace ApiContract.Json

theorem digitChar_of_isDigit {c : Char} (digit : c.isDigit = true) :
    c.toNat - '0'.toNat < 10 ∧ Nat.digitChar (c.toNat - '0'.toNat) = c := by
  have within : 48 ≤ c.toNat ∧ c.toNat ≤ 57 := Char.isDigit_iff_toNat.mp digit
  have small : c.toNat - '0'.toNat < 10 := by
    show c.toNat - 48 < 10
    omega
  refine ⟨small, Char.toNat_inj.mp ?_⟩
  have spelled : ∀ d < 10, (Nat.digitChar d).toNat = 48 + d := by decide
  rw [spelled _ small]
  show 48 + (c.toNat - 48) = c.toNat
  omega

theorem decimalValue_concat (digits : List Char) (c : Char) :
    decimalValue (digits ++ [c]) = 10 * decimalValue digits + (c.toNat - '0'.toNat) := by
  simp [decimalValue]

theorem toDigits_decimalValue {digits : List Char} (whole : isWhole digits = true) :
    Nat.toDigits 10 (decimalValue digits) = digits := by
  by_cases zero : digits = ['0']
  · subst zero
    rfl
  have leading : digits.head? ≠ some '0' ∧ digits ≠ [] ∧ digits.all Char.isDigit = true := by
    unfold isWhole at whole
    split at whole
    · contradiction
    · contradiction
    · simpa using whole
  obtain ⟨leading, present, decimal⟩ := leading
  clear whole zero
  -- The last digit is written last; what stands before it is no zero, so that it is written too.
  induction digits using List.reverseRecOn with
  | nil => contradiction
  | append_singleton init c ih =>
    have ⟨front, digit⟩ : init.all Char.isDigit = true ∧ c.isDigit = true := by
      simpa using decimal
    have ⟨small, spelled⟩ := digitChar_of_isDigit digit
    rw [decimalValue_concat]
    by_cases first : init = []
    · subst first
      rw [List.nil_append, show decimalValue [] = 0 from rfl, Nat.mul_zero, Nat.zero_add,
        Nat.toDigits_of_lt_base small, spelled]
    · have leading' : init.head? ≠ some '0' := by
        obtain ⟨d, ds, rfl⟩ := List.exists_cons_of_ne_nil first
        simpa using leading
      have written := ih leading' first front
      have positive : 0 < decimalValue init := by
        apply Nat.pos_of_ne_zero
        intro none
        rw [none, Nat.toDigits_zero] at written
        exact leading' (by rw [← written]; rfl)
      rw [← Nat.toDigits_append_toDigits (by decide) positive small, written,
        Nat.toDigits_of_lt_base small, spelled]

theorem toList_toString_decimalValue {digits : List Char} (whole : isWhole digits = true) :
    (toString (decimalValue digits)).toList = digits := by
  rw [Nat.toString_eq_ofList_toDigits, String.toList_ofList, toDigits_decimalValue whole]

theorem decimalValue_pos {digits : List Char} (whole : isWhole digits = true)
    (notZero : digits ≠ ['0']) : 0 < decimalValue digits := by
  apply Nat.pos_of_ne_zero
  intro zero
  rw [← toDigits_decimalValue whole, zero] at notZero
  exact notZero rfl

theorem toList_toString_neg {n : Nat} (positive : 0 < n) :
    (toString (-(n : Int))).toList = '-' :: (toString n).toList := by
  cases n with
  | zero => contradiction
  | succ n =>
    show ("-" ++ (n + 1).repr).toList = '-' :: (n + 1).repr.toList
    simp

theorem number?_cases {literal : List Char} {t : Token} (read : number? literal = some t) :
    t = .real (String.ofList literal) ∨ ∃ n : Int, t = .int n ∧ (toString n).toList = literal := by
  unfold number? at read
  extract_lets digits whole rest at read
  split at read
  · contradiction
  case isFalse formed =>
    split at read
    · exact .inl (Option.some.inj read).symm
    case isFalse plain =>
      -- Nothing follows the whole part, so the literal is a sign, if any, and its digits.
      right
      simp only [Bool.or_eq_true, Bool.not_eq_true', not_or, Bool.not_eq_false] at formed
      simp only [Bool.or_eq_true, Bool.not_eq_true', not_or, Bool.not_eq_false, List.isEmpty_iff,
        beq_iff_eq] at plain
      obtain ⟨ended, notZero⟩ := plain
      have all : whole = digits := by
        rw [← List.takeWhile_append_dropWhile (p := Char.isDigit) (l := digits)]
        exact (List.append_nil whole).symm.trans (congrArg (whole ++ ·) ended.symm)
      have isWhole : isWhole digits = true := all ▸ formed.1
      rw [all] at read
      split at read
      case isTrue minus =>
        obtain ⟨tail, rfl⟩ : ∃ tail, literal = '-' :: tail := by
          cases literal with
          | nil => contradiction
          | cons c tail => exact ⟨tail, by simpa using minus⟩
        have positive := decimalValue_pos isWhole (fun zero => notZero (congrArg ('-' :: ·) zero))
        exact ⟨_, (Option.some.inj read).symm, by
          rw [toList_toString_neg positive, toList_toString_decimalValue isWhole]
          rfl⟩
      case isFalse noMinus =>
        have same : digits = literal := by
          unfold digits
          split
          · simp at noMinus
          · rfl
        exact ⟨_, (Option.some.inj read).symm, same ▸ toList_toString_decimalValue isWhole⟩

-- How a word or a number is written. A number that is no integer keeps its own writing.
inductive Token.IsBare : Token → String → Prop
  | null : IsBare .null "null"
  | bool (value : Bool) : IsBare (.bool value) (toString value)
  | int (n : Int) : IsBare (.int n) (toString n)
  | real {literal : String} (number : number? literal.toList = some (.real literal)) :
      IsBare (.real literal) literal

theorem isBare_of_literal? {word : List Char} {t : Token} (read : literal? word = some t) :
    t.IsBare (String.ofList word) := by
  unfold literal? at read
  split at read
  case isTrue isNull =>
    obtain rfl := Option.some.inj read
    exact isNull ▸ .null
  case isFalse =>
    split at read
    case isTrue isTrue =>
      obtain rfl := Option.some.inj read
      exact isTrue ▸ .bool true
    case isFalse =>
      split at read
      case isTrue isFalse =>
        obtain rfl := Option.some.inj read
        exact isFalse ▸ .bool false
      case isFalse => contradiction

theorem isBare_of_number? {literal : List Char} {t : Token} (read : number? literal = some t) :
    t.IsBare (String.ofList literal) := by
  rcases number?_cases read with rfl | ⟨n, rfl, written⟩
  · exact .real (by rwa [String.toList_ofList])
  · have same : String.ofList literal = toString n := by rw [← written, String.ofList_toList]
    exact same ▸ .int n

namespace Reader

def after (r : Reader) (earlier : List Token) : Reader :=
  { r with tokens := r.tokens ++ earlier }

theorem start_after (r : Reader) (earlier : List Token) (c : Char) :
    (r.after earlier).start c = (r.start c).map (·.after earlier) := by
  unfold start
  split <;> try rfl
  split
  · rfl
  · split <;> rfl

theorem close_after (r : Reader) (earlier : List Token) :
    (r.after earlier).close = r.close.map (·.after earlier) := by
  obtain ⟨tokens, mode⟩ := r
  cases mode with
  | word read => cases found : literal? read.reverse <;> simp [close, after, emit, found]
  | number read => cases found : number? read.reverse <;> simp [close, after, emit, found]
  | _ => rfl

theorem step_after (r : Reader) (earlier : List Token) (c : Char) :
    (r.after earlier).step c = (r.step c).map (·.after earlier) := by
  have closed : (r.after earlier).close.bind (·.start c) =
      (r.close.bind (·.start c)).map (·.after earlier) := by
    rw [close_after]
    cases r.close with
    | none => rfl
    | some r => exact start_after r earlier c
  -- A word or a number may end before this character, which then begins the next token.
  obtain ⟨tokens, mode⟩ := r
  cases mode with
  | gap => exact start_after _ earlier c
  | word read =>
    simp only [step, after] at closed ⊢
    split
    · rfl
    · exact closed
  | number read =>
    simp only [step, after] at closed ⊢
    split
    · rfl
    · exact closed
  | text read =>
    simp only [step, after, emit]
    repeat' split
    all_goals rfl
  | escape read =>
    simp only [step, after]
    split
    · rfl
    · cases escaped? c <;> rfl
  | unit read missing value =>
    simp only [step, after]
    repeat' split
    all_goals rfl

/-- The tokens that end in the rest of a text, where the reader is in the middle of something. -/
def tokensFrom? (mode : Mode) (cs : List Char) : Option (List Token) :=
  ((cs.foldlM step { mode }).bind close).map (·.tokens.reverse)

theorem foldlM_after (cs : List Char) (r : Reader) (earlier : List Token) :
    cs.foldlM step (r.after earlier) = (cs.foldlM step r).map (·.after earlier) := by
  induction cs generalizing r with
  | nil => rfl
  | cons c cs ih =>
    rw [List.foldlM_cons, List.foldlM_cons, step_after]
    cases r.step c with
    | none => rfl
    | some r => exact ih r

theorem tokensFrom?_nil (mode : Mode) :
    tokensFrom? mode [] = (close { mode }).map (·.tokens.reverse) :=
  rfl

theorem tokensFrom?_cons (mode : Mode) (c : Char) (cs : List Char) :
    tokensFrom? mode (c :: cs) =
      (step { mode } c).bind fun r => (tokensFrom? r.mode cs).map (r.tokens.reverse ++ ·) := by
  rw [tokensFrom?, List.foldlM_cons]
  cases step { mode } c with
  | none => rfl
  | some r =>
    have later : cs.foldlM step r = (cs.foldlM step { mode := r.mode }).map (·.after r.tokens) :=
      foldlM_after cs { mode := r.mode } r.tokens
    simp only [Option.bind_eq_bind, Option.bind_some, later, tokensFrom?]
    cases cs.foldlM step { mode := r.mode } with
    | none => rfl
    | some last =>
      simp only [Option.map_some, Option.bind_some, close_after]
      cases last.close <;> simp [after]

section Bare

variable {p : Char → Bool} {mode : List Char → Mode} {read? : List Char → Option Token}
  (steps : ∀ read c, step { mode := mode read } c =
    if p c then some { mode := mode (c :: read) }
    else (close { mode := mode read }).bind (·.start c))
  (closes : ∀ read, close { mode := mode read } = (read? read.reverse).map (emit {}))

include steps closes

theorem tokensFrom?_bare_ended {c : Char} (ends : p c = false) (read cs : List Char) :
    tokensFrom? (mode read) (c :: cs) =
      (read? read.reverse).bind fun t => (tokensFrom? .gap (c :: cs)).map (t :: ·) := by
  -- This character ends what was read and is looked at again as the first of what follows.
  rw [tokensFrom?_cons, steps, if_neg (by simp [ends]), closes]
  cases read? read.reverse with
  | none => rfl
  | some t =>
    have emitted : (emit {} t).start c = (start {} c).map (·.after [t]) := start_after {} [t] c
    have later : tokensFrom? .gap (c :: cs) =
        (start {} c).bind fun r => (tokensFrom? r.mode cs).map (r.tokens.reverse ++ ·) :=
      tokensFrom?_cons .gap c cs
    rw [Option.map_some, Option.bind_some, Option.bind_some, emitted, later]
    cases start {} c with
    | none => rfl
    | some r => cases tokens : tokensFrom? r.mode cs <;> simp [after, tokens]

theorem tokensFrom?_bare {read cs : List Char} {ts : List Token}
    (tokens : tokensFrom? (mode read) cs = some ts) :
    ∃ more later t ts', cs = more ++ later ∧ more.all p = true ∧
      read? (read.reverse ++ more) = some t ∧ tokensFrom? .gap later = some ts' ∧
      ts = t :: ts' := by
  induction cs generalizing read with
  | nil =>
    rw [tokensFrom?_nil, closes, Option.map_map] at tokens
    simp only [Option.map_eq_some_iff] at tokens
    obtain ⟨t, found, rfl⟩ := tokens
    exact ⟨[], [], t, [], rfl, rfl, by simpa using found, rfl, rfl⟩
  | cons c cs ih =>
    by_cases goesOn : p c = true
    · rw [tokensFrom?_cons, steps, if_pos goesOn] at tokens
      obtain ⟨more, later, t, ts', rfl, inside, found, after, rfl⟩ :=
        @ih (c :: read) (by simpa using tokens)
      exact ⟨c :: more, later, t, ts', rfl, by simp [goesOn, inside], by simpa using found, after,
        rfl⟩
    · rw [tokensFrom?_bare_ended steps closes (Bool.not_eq_true _ ▸ goesOn)] at tokens
      obtain ⟨t, found, later⟩ := Option.bind_eq_some_iff.mp tokens
      obtain ⟨ts', after, rfl⟩ := Option.map_eq_some_iff.mp later
      exact ⟨[], c :: cs, t, ts', rfl, rfl, by simpa using found, after, rfl⟩

theorem tokensFrom?_bare_append {more rest : List Char} {t : Token} (read : List Char)
    (inside : more.all p = true) (found : read? (read.reverse ++ more) = some t)
    (ends : rest.head?.any p = false) :
    tokensFrom? (mode read) (more ++ rest) = (tokensFrom? .gap rest).map (t :: ·) := by
  induction more generalizing read with
  | nil =>
    rw [List.append_nil] at found
    cases rest with
    | nil =>
      rw [List.nil_append, tokensFrom?_nil, closes, found]
      rfl
    | cons c rest =>
      rw [List.nil_append, tokensFrom?_bare_ended steps closes (by simpa using ends), found,
        Option.bind_some]
  | cons c more ih =>
    have ⟨goesOn, further⟩ : p c = true ∧ more.all p = true := by simpa using inside
    rw [List.cons_append, tokensFrom?_cons, steps, if_pos goesOn]
    simpa using ih (c :: read) further (by simpa using found)

end Bare

def isBareChar (c : Char) : Bool :=
  c.isLower || isNumberChar c

theorem tokensFrom?_word {read cs : List Char} {ts : List Token}
    (tokens : tokensFrom? (.word read) cs = some ts) :
    ∃ more later t ts', cs = more ++ later ∧ more.all isBareChar = true ∧
      t.IsBare (String.ofList (read.reverse ++ more)) ∧
      tokensFrom? .gap later = some ts' ∧ ts = t :: ts' := by
  obtain ⟨more, later, t, ts', split, inside, found, after, rfl⟩ :=
    tokensFrom?_bare (fun _ _ => rfl) (fun _ => rfl) tokens
  refine ⟨more, later, t, ts', split, ?_, isBare_of_literal? found, after, rfl⟩
  exact List.all_eq_true.mpr fun c mem => by simp [isBareChar, List.all_eq_true.mp inside c mem]

theorem tokensFrom?_number {read cs : List Char} {ts : List Token}
    (tokens : tokensFrom? (.number read) cs = some ts) :
    ∃ more later t ts', cs = more ++ later ∧ more.all isBareChar = true ∧
      number? (read.reverse ++ more) = some t ∧
      tokensFrom? .gap later = some ts' ∧ ts = t :: ts' := by
  obtain ⟨more, later, t, ts', split, inside, found, after, rfl⟩ :=
    tokensFrom?_bare (fun _ _ => rfl) (fun _ => rfl) tokens
  refine ⟨more, later, t, ts', split, ?_, found, after, rfl⟩
  exact List.all_eq_true.mpr fun c mem => by simp [isBareChar, List.all_eq_true.mp inside c mem]

def sign? : Token → Option Char
  | .openObject => some '\x7b'
  | .closeObject => some '\x7d'
  | .openArray => some '['
  | .closeArray => some ']'
  | .colon => some ':'
  | .comma => some ','
  | _ => none

-- What may stand between two tokens, or begin the next one, and the tokens it ends in.
inductive Between : Char → List Char → List Token → Prop
  | blank {c : Char} {cs : List Char} {ts : List Token} (blank : c ∈ [' ', '\n', '\t', '\r'])
      (tokens : tokensFrom? .gap cs = some ts) : Between c cs ts
  | sign {c : Char} {cs : List Char} (t : Token) {ts : List Token} (written : sign? t = some c)
      (tokens : tokensFrom? .gap cs = some ts) : Between c cs (t :: ts)
  | text {cs : List Char} {ts : List Token} (tokens : tokensFrom? (.text {}) cs = some ts) :
      Between '"' cs ts
  | bare {c : Char} {more cs : List Char} {t : Token} {ts : List Token}
      (begins : c.isLower = true ∨ c.isDigit = true ∨ c = '-' ∧ more.head?.any Char.isDigit = true)
      (inside : more.all isBareChar = true) (written : t.IsBare (String.ofList (c :: more)))
      (tokens : tokensFrom? .gap cs = some ts) : Between c (more ++ cs) (t :: ts)

theorem isBareChar_of_begins {c : Char} {more : List Char}
    (begins : c.isLower = true ∨ c.isDigit = true ∨
      c = '-' ∧ more.head?.any Char.isDigit = true) : isBareChar c = true := by
  rcases begins with lower | digit | ⟨rfl, -⟩
  · simp [isBareChar, lower]
  · simp [isBareChar, isNumberChar, digit]
  · rfl

theorem head?_isDigit_of_number? {more : List Char} {t : Token}
    (read : number? ('-' :: more) = some t) : more.head?.any Char.isDigit = true := by
  cases more with
  | nil => simp [number?, isWhole] at read
  | cons c more =>
    by_cases digit : c.isDigit = true
    · simpa using digit
    · simp [number?, isWhole, digit] at read

theorem between_of_tokensFrom? {c : Char} {cs : List Char} {ts : List Token}
    (tokens : tokensFrom? .gap (c :: cs) = some ts) : Between c cs ts := by
  rw [tokensFrom?_cons] at tokens
  simp only [step, start] at tokens
  split at tokens
  all_goals try simp only [Option.bind_some, emit, List.reverse_singleton, List.reverse_nil,
    List.nil_append, List.singleton_append, Option.map_id', Option.map_eq_some_iff] at tokens
  · exact .blank (by decide) tokens
  · exact .blank (by decide) tokens
  · exact .blank (by decide) tokens
  · exact .blank (by decide) tokens
  iterate 6
    · obtain ⟨ts, later, rfl⟩ := tokens
      exact .sign _ rfl later
  · exact .text tokens
  · split at tokens
    case isTrue begins =>
      simp only [Option.bind_some, List.reverse_nil, List.nil_append, Option.map_id'] at tokens
      obtain ⟨more, later, t, ts, rfl, inside, read, after, rfl⟩ := tokensFrom?_number tokens
      refine .bare (.inr ?_) inside (isBare_of_number? read) after
      rcases Bool.or_eq_true_iff.mp begins with digit | minus
      · exact .inl digit
      · obtain rfl := eq_of_beq minus
        exact .inr ⟨rfl, head?_isDigit_of_number? read⟩
    case isFalse =>
      split at tokens
      case isTrue lower =>
        simp only [Option.bind_some, List.reverse_nil, List.nil_append, Option.map_id'] at tokens
        obtain ⟨more, later, t, ts, rfl, inside, written, after, rfl⟩ := tokensFrom?_word tokens
        exact .bare (.inl lower) inside written after
      case isFalse => contradiction

theorem tokensFrom?_text_cons (u : Unfinished) (c : Char) (cs : List Char) :
    tokensFrom? (.text u) (c :: cs) =
      if c = '"' then (tokensFrom? .gap cs).map (.text u.text? :: ·)
      else if c = '\\' then tokensFrom? (.escape u) cs
      else if c.toNat < 0x20 then none
      else tokensFrom? (.text (u.push c)) cs := by
  rw [tokensFrom?_cons]
  simp only [step, beq_iff_eq]
  split
  · rfl
  · split
    · simp
    · split <;> simp

theorem tokensFrom?_escape_cons (u : Unfinished) (c : Char) (cs : List Char) :
    tokensFrom? (.escape u) (c :: cs) =
      if c = 'u' then tokensFrom? (.unit u 4 0) cs
      else (escaped? c).bind fun e => tokensFrom? (.text (u.push e)) cs := by
  rw [tokensFrom?_cons]
  simp only [step, beq_iff_eq]
  split
  · simp
  · cases escaped? c <;> simp

theorem tokensFrom?_unit_cons (u : Unfinished) (missing value : Nat) (c : Char) (cs : List Char) :
    tokensFrom? (.unit u missing value) (c :: cs) =
      (Text.hexValue? c).bind fun digit =>
        if missing ≤ 1 then tokensFrom? (.text (u.pushUnit (16 * value + digit))) cs
        else tokensFrom? (.unit u (missing - 1) (16 * value + digit)) cs := by
  rw [tokensFrom?_cons]
  simp only [step]
  cases Text.hexValue? c with
  | none => rfl
  | some digit =>
    simp only [Option.bind_some]
    split <;> simp

theorem tokensFrom?_unit (u : Unfinished) {digits : List Char} {missing : Nat}
    (length : digits.length = missing + 1) (value : Nat) (cs : List Char) :
    tokensFrom? (.unit u (missing + 1) value) (digits ++ cs) =
      (digits.mapM Text.hexValue?).bind fun values =>
        tokensFrom? (.text (u.pushUnit (values.foldl (fun n d => 16 * n + d) value))) cs := by
  induction digits generalizing missing value with
  | nil => contradiction
  | cons c digits ih =>
    rw [List.cons_append, tokensFrom?_unit_cons, List.mapM_cons]
    cases Text.hexValue? c with
    | none => rfl
    | some digit =>
      cases missing with
      | zero =>
        obtain rfl : digits = [] := List.eq_nil_of_length_eq_zero (Nat.succ.inj length)
        rfl
      | succ missing =>
        simp only [Option.bind_some, Option.bind_eq_bind, Nat.add_sub_cancel]
        rw [if_neg (by omega), ih (Nat.succ.inj length)]
        cases digits.mapM Text.hexValue? <;> rfl

end Reader

def Mode.IsText : Mode → Prop
  | .text _ | .escape _ | .unit _ _ _ => True
  | _ => False

theorem Reader.text_of_tokensFrom? {mode : Mode} (reads : mode.IsText) {cs : List Char}
    {ts : List Token} (tokens : tokensFrom? mode cs = some ts) :
    ∃ name ts', ts = .text name :: ts' := by
  induction cs generalizing mode with
  | nil =>
    cases mode with
    | text | escape | unit => contradiction
    | gap | word | number => exact reads.elim
  | cons c cs ih =>
    cases mode with
    | text u =>
      rw [tokensFrom?_text_cons] at tokens
      split at tokens
      · obtain ⟨ts', -, rfl⟩ := Option.map_eq_some_iff.mp tokens
        exact ⟨_, ts', rfl⟩
      · split at tokens
        · exact @ih (.escape u) trivial tokens
        · split at tokens
          · contradiction
          · exact @ih (.text _) trivial tokens
    | escape u =>
      rw [tokensFrom?_escape_cons] at tokens
      split at tokens
      · exact @ih (.unit u 4 0) trivial tokens
      · obtain ⟨e, -, tokens⟩ := Option.bind_eq_some_iff.mp tokens
        exact @ih (.text _) trivial tokens
    | unit u missing value =>
      rw [tokensFrom?_unit_cons] at tokens
      obtain ⟨digit, -, tokens⟩ := Option.bind_eq_some_iff.mp tokens
      split at tokens
      · exact @ih (.text _) trivial tokens
      · exact @ih (.unit _ _ _) trivial tokens
    | gap | word | number => exact reads.elim

namespace Expects

def Accepts (e : Expects) (ts : List Token) (v : Json) : Prop :=
  (ts.foldlM step e).bind value? = some v

theorem accepts_cons {e : Expects} {t : Token} {ts : List Token} {v : Json} :
    e.Accepts (t :: ts) v ↔ ∃ e', e.step t = some e' ∧ e'.Accepts ts v := by
  rw [Accepts, List.foldlM_cons]
  cases e.step t <;> simp [Accepts]

theorem accepts_nil {e : Expects} {v : Json} : e.Accepts [] v ↔ e = .nothing v := by
  rw [Accepts, List.foldlM_nil]
  cases e <;> simp [value?]

def depth : Expects → Nat
  | .value stack => stack.length
  | .itemOrEnd stack | .keyOrEnd stack | .key _ stack | .colon _ _ stack | .more _ stack =>
    stack.length + 1
  | .nothing _ => 0

def wantsKey : Expects → Prop
  | .keyOrEnd _ | .key _ _ => True
  | _ => False

def wantsColon : Expects → Prop
  | .colon _ _ _ => True
  | _ => False

def isPlaced : Expects → Prop
  | .more _ _ | .nothing _ => True
  | _ => False

theorem isPlaced.not_wantsKey {e : Expects} (placed : e.isPlaced) : ¬ e.wantsKey := by
  cases e <;> simp_all [isPlaced, wantsKey]

theorem isPlaced.not_wantsColon {e : Expects} (placed : e.isPlaced) : ¬ e.wantsColon := by
  cases e <;> simp_all [isPlaced, wantsColon]

@[simp] theorem depth_place (v : Json) (stack : List Frame) :
    (place v stack).depth = stack.length := by
  cases stack with
  | nil => rfl
  | cons frame stack => cases frame <;> rfl

theorem isPlaced_place (v : Json) (stack : List Frame) : (place v stack).isPlaced := by
  cases stack with
  | nil => trivial
  | cons frame stack => cases frame <;> trivial

-- A value may begin, with these frames around it.
inductive Starts : Expects → List Frame → Prop
  | value (stack : List Frame) : Starts (.value stack) stack
  | first (stack : List Frame) : Starts (.itemOrEnd stack) (.arr [] :: stack)

theorem Starts.depth_eq {e : Expects} {stack : List Frame} (starts : e.Starts stack) :
    e.depth = stack.length := by
  cases starts <;> rfl

theorem Starts.unique {e : Expects} {stack stack' : List Frame} (starts : e.Starts stack)
    (starts' : e.Starts stack') : stack = stack' := by
  cases starts <;> cases starts' <;> rfl

def scalar? : Token → Option Json
  | .null => some .null
  | .bool b => some (.bool b)
  | .int n => some (.int n)
  | .real literal => some (.real literal)
  | .text (some s) => some (.str s)
  | .text none => some .unreadable
  | _ => none

inductive Step : Expects → Token → Expects → Prop
  | openObject {e : Expects} {stack : List Frame} (starts : e.Starts stack) :
      Step e .openObject (.keyOrEnd stack)
  | openArray {e : Expects} {stack : List Frame} (starts : e.Starts stack) :
      Step e .openArray (.itemOrEnd stack)
  | scalar {e : Expects} {stack : List Frame} {t : Token} {v : Json} (starts : e.Starts stack)
      (written : scalar? t = some v) : Step e t (place v stack)
  | emptyArray (stack : List Frame) : Step (.itemOrEnd stack) .closeArray (place (.arr []) stack)
  | closeArray (items : List Json) (stack : List Frame) :
      Step (.more (.arr items) stack) .closeArray (place (.arr items.reverse) stack)
  | emptyObject (stack : List Frame) : Step (.keyOrEnd stack) .closeObject (place (.obj []) stack)
  | closeObject (fields : List (Option String × Json)) (key : Option String) (stack : List Frame) :
      Step (.more (.obj fields key) stack) .closeObject (place (ofFields fields.reverse) stack)
  | firstKey (name : Option String) (stack : List Frame) :
      Step (.keyOrEnd stack) (.text name) (.colon [] name stack)
  | nextKey (fields : List (Option String × Json)) (name : Option String) (stack : List Frame) :
      Step (.key fields stack) (.text name) (.colon fields name stack)
  | colon (fields : List (Option String × Json)) (name : Option String) (stack : List Frame) :
      Step (.colon fields name stack) .colon (.value (.obj fields name :: stack))
  | nextItem (items : List Json) (stack : List Frame) :
      Step (.more (.arr items) stack) .comma (.value (.arr items :: stack))
  | nextField (fields : List (Option String × Json)) (key : Option String) (stack : List Frame) :
      Step (.more (.obj fields key) stack) .comma (.key fields stack)

theorem step_of_startValue {e e' : Expects} {stack : List Frame} {t : Token}
    (starts : e.Starts stack) (begun : startValue stack t = some e') : Step e t e' := by
  cases t with
  | openObject => exact Option.some.inj begun ▸ .openObject starts
  | openArray => exact Option.some.inj begun ▸ .openArray starts
  | text name =>
    cases name with
    | none => exact Option.some.inj begun ▸ .scalar starts rfl
    | some name => exact Option.some.inj begun ▸ .scalar starts rfl
  | null | bool | int | real => exact Option.some.inj begun ▸ .scalar starts rfl
  | closeObject | closeArray | colon | comma => contradiction

theorem step_cases {e e' : Expects} {t : Token} (taken : e.step t = some e') : Step e t e' := by
  cases e with
  | value stack => exact step_of_startValue (.value stack) taken
  | itemOrEnd stack =>
    -- An array that has just been opened goes on with a value unless it ends at once.
    by_cases ends : t = .closeArray
    · subst ends
      exact Option.some.inj taken ▸ .emptyArray stack
    · refine step_of_startValue (.first stack) ?_
      cases t with
      | closeArray => contradiction
      | _ => exact taken
  | keyOrEnd stack =>
    cases t with
    | closeObject => exact Option.some.inj taken ▸ .emptyObject stack
    | text name => exact Option.some.inj taken ▸ .firstKey name stack
    | _ => contradiction
  | key fields stack =>
    cases t with
    | text name => exact Option.some.inj taken ▸ .nextKey fields name stack
    | _ => contradiction
  | colon fields name stack =>
    cases t with
    | colon => exact Option.some.inj taken ▸ .colon fields name stack
    | _ => contradiction
  | more frame stack =>
    cases frame with
    | arr items =>
      cases t with
      | comma => exact Option.some.inj taken ▸ .nextItem items stack
      | closeArray => exact Option.some.inj taken ▸ .closeArray items stack
      | _ => contradiction
    | obj fields key =>
      cases t with
      | comma => exact Option.some.inj taken ▸ .nextField fields key stack
      | closeObject => exact Option.some.inj taken ▸ .closeObject fields key stack
      | _ => contradiction
  | nothing v => cases t <;> contradiction

theorem isPlaced.not_step_colon {e e' : Expects} (placed : e.isPlaced) : ¬ Step e .colon e' := by
  intro step
  cases step with
  | colon => exact placed
  | scalar _ written => contradiction

theorem bare_step {e e' : Expects} {t : Token} {literal : String} (bare : t.IsBare literal)
    (taken : e.step t = some e') :
    ∃ stack v, e.Starts stack ∧ scalar? t = some v ∧ e' = place v stack := by
  cases bare with
  | null | bool | int | real =>
    cases step_cases taken with
    | scalar starts written => exact ⟨_, _, starts, written, rfl⟩

end Expects

end ApiContract.Json
