import ApiContract.Json.Printer
import ApiContract.Proofs.YamlNumbers
import Mathlib.Data.List.TakeWhile

set_option autoImplicit false

namespace ApiContract.Json

theorem isDigit_toDigits (n : Nat) : ∀ c ∈ Nat.toDigits 10 n, c.isDigit = true :=
  fun _ => Nat.isDigit_of_mem_toDigits (by decide) (by decide)

theorem isWhole_toDigits (n : Nat) : isWhole (Nat.toDigits 10 n) = true := by
  by_cases zero : n = 0
  · rw [zero]
    rfl
  · have leading := Yaml.Scalar.head?_toDigits (Nat.pos_of_ne_zero zero)
    have digits := isDigit_toDigits n
    obtain ⟨c, cs, written⟩ :=
      List.exists_cons_of_ne_nil (Nat.toDigits_ne_nil (n := n) (b := 10))
    rw [written] at leading digits ⊢
    unfold isWhole
    split
    · contradiction
    · rfl
    · simp_all

section Number

variable {digits : List Char}

theorem number?_of_digits (whole : isWhole digits = true)
    (decimal : ∀ c ∈ digits, c.isDigit = true) :
    number? digits = some (.int (decimalValue digits)) := by
  have taken : digits.takeWhile Char.isDigit = digits := List.takeWhile_eq_self_iff.mpr decimal
  have dropped : digits.dropWhile Char.isDigit = [] := List.dropWhile_eq_nil_iff.mpr decimal
  have noMinus : ∀ rest, digits ≠ '-' :: rest := by
    rintro rest rfl
    exact absurd (decimal '-' List.mem_cons_self) (by decide)
  have head : digits.head? ≠ some '-' := by
    cases digits with
    | nil => simp
    | cons c cs => simpa using fun minus : c = '-' => noMinus cs (minus ▸ rfl)
  unfold number?
  split
  · exact absurd rfl (noMinus _)
  · simp [taken, dropped, whole, isFraction, isExponent, noMinus, head]

theorem number?_minus (whole : isWhole digits = true) (decimal : ∀ c ∈ digits, c.isDigit = true)
    (notZero : digits ≠ ['0']) :
    number? ('-' :: digits) = some (.int (-(decimalValue digits : Int))) := by
  have taken : digits.takeWhile Char.isDigit = digits := List.takeWhile_eq_self_iff.mpr decimal
  have dropped : digits.dropWhile Char.isDigit = [] := List.dropWhile_eq_nil_iff.mpr decimal
  simp [number?, taken, dropped, whole, isFraction, isExponent, notZero]

theorem number?_toString (n : Int) : number? (toString n).toList = some (.int n) := by
  cases n with
  | ofNat n =>
    have value : decimalValue (Nat.toDigits 10 n) = n := Nat.ofDigitChars_ten_toDigits
    show number? (toString n).toList = _
    rw [Yaml.toList_toString_nat, number?_of_digits (isWhole_toDigits n) (isDigit_toDigits n),
      value]
    rfl
  | negSucc n =>
    have value : decimalValue (Nat.toDigits 10 (n + 1)) = n + 1 := Nat.ofDigitChars_ten_toDigits
    have notZero : Nat.toDigits 10 (n + 1) ≠ ['0'] := by
      intro zero
      rw [zero] at value
      exact absurd value (Nat.succ_ne_zero n).symm
    rw [Yaml.toList_toString_negSucc,
      number?_minus (isWhole_toDigits _) (isDigit_toDigits _) notZero, value]
    rfl

end Number

namespace Reader

theorem isNumberChar_of_isExponent {cs : List Char} (exponent : isExponent cs = true) :
    ∀ c ∈ cs, isNumberChar c = true := by
  have ofDigits {ds : List Char} (decimal : ds.all Char.isDigit = true) :
      ∀ d ∈ ds, isNumberChar d = true := by
    intro d inside
    simp [isNumberChar, List.all_eq_true.mp decimal d inside]
  unfold isExponent at exponent
  split at exponent
  case h_1 => simp
  case h_2 c sign rest =>
    obtain ⟨marks, exponent⟩ := Bool.and_eq_true_iff.mp exponent
    have mark : isNumberChar c = true := by
      rcases Bool.or_eq_true_iff.mp marks with small | capital
      · simp [isNumberChar, eq_of_beq small]
      · simp [isNumberChar, eq_of_beq capital]
    refine List.forall_mem_cons.mpr ⟨mark, ?_⟩
    split at exponent
    case isTrue signed =>
      refine List.forall_mem_cons.mpr ⟨?_, ofDigits (Bool.and_eq_true_iff.mp exponent).2⟩
      rcases Bool.or_eq_true_iff.mp signed with plus | minus
      · simp [isNumberChar, eq_of_beq plus]
      · simp [isNumberChar, eq_of_beq minus]
    case isFalse => exact ofDigits exponent
  case h_3 => contradiction

theorem isNumberChar_of_number? {literal : List Char} {t : Token}
    (read : number? literal = some t) : ∀ c ∈ literal, isNumberChar c = true := by
  have digits : ∀ c, c.isDigit = true → isNumberChar c = true := by simp +contextual [isNumberChar]
  have unsigned {ds : List Char} (fraction : isFraction (ds.dropWhile Char.isDigit) = true) :
      ∀ c ∈ ds, isNumberChar c = true := by
    rw [← List.takeWhile_append_dropWhile (p := Char.isDigit) (l := ds)]
    refine List.forall_mem_append.mpr ⟨fun c inside => digits c (List.mem_takeWhile_imp inside), ?_⟩
    unfold isFraction at fraction
    split at fraction
    case h_1 rest split =>
      rw [split]
      refine List.forall_mem_cons.mpr ⟨rfl, ?_⟩
      rw [← List.takeWhile_append_dropWhile (p := Char.isDigit) (l := rest)]
      exact List.forall_mem_append.mpr ⟨fun c inside => digits c (List.mem_takeWhile_imp inside),
        isNumberChar_of_isExponent (Bool.and_eq_true_iff.mp fraction).2⟩
    case h_2 => exact isNumberChar_of_isExponent fraction
  unfold number? at read
  extract_lets ds whole rest at read
  split at read
  case isTrue => cases read
  case isFalse formed =>
    simp only [Bool.or_eq_true, Bool.not_eq_true', not_or, Bool.not_eq_false] at formed
    have inside := unsigned formed.2
    unfold ds at inside
    split at inside
    · exact List.forall_mem_cons.mpr ⟨rfl, inside⟩
    · exact inside

section Tokens

variable {c : Char} {t : Token} {rest : List Char}

theorem tokensFrom?_of_start {mode : Mode} (begins : start {} c = some { mode }) (cs : List Char) :
    tokensFrom? .gap (c :: cs) = tokensFrom? mode cs := by
  rw [tokensFrom?_cons, show step {} c = start {} c from rfl, begins]
  cases tokens : tokensFrom? mode cs <;> simp [tokens]

theorem tokensFrom?_blank (blank : c ∈ [' ', '\n', '\t', '\r']) (cs : List Char) :
    tokensFrom? .gap (c :: cs) = tokensFrom? .gap cs := by
  refine tokensFrom?_of_start ?_ cs
  simp only [List.mem_cons, List.not_mem_nil, or_false] at blank
  rcases blank with rfl | rfl | rfl | rfl <;> rfl

theorem tokensFrom?_sign (written : sign? t = some c) (cs : List Char) :
    tokensFrom? .gap (c :: cs) = (tokensFrom? .gap cs).map (t :: ·) := by
  have emitted : step {} c = some (emit {} t) := by
    cases t <;> cases written <;> rfl
  rw [tokensFrom?_cons, emitted]
  rfl

theorem start_digit (digit : c.isDigit = true) : start {} c = some { mode := .number [c] } := by
  unfold start
  split
  case h_12 => simp [digit]
  all_goals contradiction

theorem tokensFrom?_word_append {more : List Char}
    (begins : start {} c = some { mode := .word [c] }) (inside : more.all Char.isLower = true)
    (found : literal? (c :: more) = some t) (ends : rest.head?.any isBareChar = false) :
    tokensFrom? .gap (c :: more ++ rest) = (tokensFrom? .gap rest).map (t :: ·) := by
  have notLower : rest.head?.any Char.isLower = false := by
    cases head : rest.head? <;> simp_all [isBareChar]
  rw [List.cons_append, tokensFrom?_of_start begins]
  exact tokensFrom?_bare_append (fun _ _ => rfl) (fun _ => rfl) [c] inside found notLower

theorem tokensFrom?_number_append {literal : String} (like : Yaml.LikeNumber literal)
    (found : number? literal.toList = some t) (ends : rest.head?.any isBareChar = false) :
    tokensFrom? .gap (literal.toList ++ rest) = (tokensFrom? .gap rest).map (t :: ·) := by
  have notNumber : rest.head?.any isNumberChar = false := by
    cases head : rest.head? <;> simp_all [isBareChar]
  obtain ⟨c, more, isCons, begins⟩ := like
  rw [isCons] at found ⊢
  have inside := List.forall_mem_cons.mp (isNumberChar_of_number? found)
  have begun : start {} c = some { mode := .number [c] } := by
    rcases begins with digit | rfl
    · exact start_digit digit
    · rfl
  rw [List.cons_append, tokensFrom?_of_start begun]
  exact tokensFrom?_bare_append (fun _ _ => rfl) (fun _ => rfl) [c]
    (List.all_eq_true.mpr inside.2) found notNumber

theorem tokensFrom?_isBare {literal : String} (written : t.IsBare literal)
    (ends : rest.head?.any isBareChar = false) :
    tokensFrom? .gap (literal.toList ++ rest) = (tokensFrom? .gap rest).map (t :: ·) := by
  cases written with
  | null => exact tokensFrom?_word_append (c := 'n') rfl rfl rfl ends
  | bool value =>
    cases value with
    | false => exact tokensFrom?_word_append (c := 'f') rfl rfl rfl ends
    | true => exact tokensFrom?_word_append (c := 't') rfl rfl rfl ends
  | int n => exact tokensFrom?_number_append (Yaml.likeNumber_toString n) (number?_toString n) ends
  | real found => exact tokensFrom?_number_append (Yaml.likeNumber_of_number? found) found ends

end Tokens

section Text

variable {u : Unfinished} {c : Char}

theorem pushUnit_toNat (whole : u.half = none) (small : c.toNat < 0x20) :
    u.pushUnit c.toNat = u.push c := by
  have noHigh : ¬ 0xD800 ≤ c.toNat := by omega
  have noLow : ¬ 0xDC00 ≤ c.toNat := by omega
  simp [Unfinished.pushUnit, Unfinished.push, whole, noHigh, noLow, Char.ofNat_toNat]

theorem tokensFrom?_unit_toNat (whole : u.half = none) (small : c.toNat < 0x20) (cs : List Char) :
    tokensFrom? (.unit u 4 0) (['0', '0'] ++ hexByte c.toNat ++ cs) =
      tokensFrom? (.text (u.push c)) cs := by
  have value : ∀ d < 16, Text.hexValue? d.digitChar = some d := by decide
  have digits : (['0', '0'] ++ hexByte c.toNat).mapM Text.hexValue? =
      some [0, 0, c.toNat / 16, c.toNat % 16] := by
    simp [hexByte, value (c.toNat / 16) (by omega), value (c.toNat % 16) (by omega)]
    rfl
  have same : 16 * (c.toNat / 16) + c.toNat % 16 = c.toNat := Nat.div_add_mod _ _
  rw [@tokensFrom?_unit u _ 3 rfl, digits]
  simp [same, pushUnit_toNat whole small]

theorem tokensFrom?_escapeChar (whole : u.half = none) (c : Char) (cs : List Char) :
    tokensFrom? (.text u) (escapeChar c ++ cs) = tokensFrom? (.text (u.push c)) cs := by
  unfold escapeChar
  split
  iterate 7
    · simp [tokensFrom?_text_cons, tokensFrom?_escape_cons, escaped?]
  case h_8 notQuote notBackslash _ _ _ _ _ =>
    split
    case isTrue small =>
      rw [← tokensFrom?_unit_toNat whole small]
      simp [tokensFrom?_text_cons, tokensFrom?_escape_cons]
    case isFalse large =>
      rw [List.singleton_append, tokensFrom?_text_cons, if_neg notQuote, if_neg notBackslash,
        if_neg large]

theorem tokensFrom?_escaped (read text cs : List Char) :
    tokensFrom? (.text { chars := read }) (text.flatMap escapeChar ++ '"' :: cs) =
      (tokensFrom? .gap cs).map (.text (some (String.ofList (read.reverse ++ text))) :: ·) := by
  induction text generalizing read with
  | nil =>
    rw [List.flatMap_nil, List.nil_append, tokensFrom?_text_cons, if_pos rfl]
    simp [Unfinished.text?]
  | cons c text ih =>
    rw [List.flatMap_cons, List.append_assoc, tokensFrom?_escapeChar rfl]
    simpa [Unfinished.push] using ih (c :: read)

theorem tokensFrom?_quote (text : String) (cs : List Char) :
    tokensFrom? .gap ((quote text).toList ++ cs) =
      (tokensFrom? .gap cs).map (.text (some text) :: ·) := by
  have opened (cs : List Char) : tokensFrom? .gap ('"' :: cs) = tokensFrom? (.text {}) cs :=
    tokensFrom?_of_start rfl cs
  simpa [quote, opened] using tokensFrom?_escaped [] text.toList cs

theorem tokensFrom?_lineBreak (depth : Nat) (cs : List Char) :
    tokensFrom? .gap ((lineBreak depth).toList ++ cs) = tokensFrom? .gap cs := by
  have spaces (n : Nat) :
      tokensFrom? .gap (List.replicate n ' ' ++ cs) = tokensFrom? .gap cs := by
    induction n with
    | zero => rfl
    | succ n ih => rw [List.replicate_succ, List.cons_append, tokensFrom?_blank (by decide), ih]
  have broken := tokensFrom?_blank (c := '\n') (by decide) (List.replicate (2 * depth) ' ' ++ cs)
  simpa [lineBreak, spaces] using broken

end Text

end Reader

mutual

def tokens : Json → List Token
  | .null => [.null]
  | .bool value => [.bool value]
  | .int n => [.int n]
  | .real literal => [.real literal]
  | .str text => [.text (some text)]
  | .arr [] => [.openArray, .closeArray]
  | .arr (v :: vs) => .openArray :: (tokens v ++ tokensOfItems vs ++ [.closeArray])
  | .obj [] => [.openObject, .closeObject]
  | .obj ((key, v) :: fs) =>
    .openObject :: .text (some key) :: .colon ::
      (tokens v ++ tokensOfFields fs ++ [.closeObject])
  | .unreadable => [.null]

def tokensOfItems : List Json → List Token
  | [] => []
  | v :: vs => .comma :: (tokens v ++ tokensOfItems vs)

def tokensOfFields : List (String × Json) → List Token
  | [] => []
  | (key, v) :: fs => .comma :: .text (some key) :: .colon :: (tokens v ++ tokensOfFields fs)

end

-- A value that has a text.
inductive Readable : Json → Prop
  | null : Readable .null
  | bool (value : Bool) : Readable (.bool value)
  | int (n : Int) : Readable (.int n)
  | real {literal : String} (number : number? literal.toList = some (.real literal)) :
      Readable (.real literal)
  | str (text : String) : Readable (.str text)
  | arr {items : List Json} (each : ∀ v ∈ items, Readable v) : Readable (.arr items)
  | obj {fields : List (String × Json)} (each : ∀ f ∈ fields, Readable f.2) :
      Readable (.obj fields)

section Printing

open Reader

-- What follows does not go on with a word or a number.
def Ended (rest : List Char) : Prop :=
  rest.head?.any isBareChar = false

-- The written form of the value is read as its tokens, wherever it stands.
def Lexes (v : Json) : Prop :=
  ∀ (depth : Nat) {rest : List Char}, Ended rest →
    tokensFrom? .gap ((prettyAt depth v).toList ++ rest) =
      (tokensFrom? .gap rest).map (tokens v ++ ·)

variable {rest : List Char} {depth : Nat}

theorem ended_lineBreak : Ended ((lineBreak depth).toList ++ rest) := by
  simp only [Ended, lineBreak, String.toList_append]
  rfl

theorem ended_prettyItems (ended : Ended rest) (vs : List Json) :
    Ended ((prettyItems depth vs).toList ++ rest) := by
  cases vs with
  | nil => simpa [prettyItems] using ended
  | cons v vs =>
    simp only [prettyItems, String.toList_append]
    rfl

theorem ended_prettyFields (ended : Ended rest) (fs : List (String × Json)) :
    Ended ((prettyFields depth fs).toList ++ rest) := by
  cases fs with
  | nil => simpa [prettyFields] using ended
  | cons f fs =>
    simp only [prettyFields, String.toList_append]
    rfl

theorem tokensFrom?_prettyItems {vs : List Json} (each : ∀ v ∈ vs, Lexes v)
    (ended : Ended rest) :
    tokensFrom? .gap ((prettyItems depth vs).toList ++ rest) =
      (tokensFrom? .gap rest).map (tokensOfItems vs ++ ·) := by
  have comma := tokensFrom?_sign (t := .comma) rfl
  induction vs with
  | nil => simp [prettyItems, tokensOfItems]
  | cons v vs ih =>
    obtain ⟨first, others⟩ := List.forall_mem_cons.mp each
    have text : (prettyItems depth (v :: vs)).toList ++ rest =
        ',' :: ((lineBreak depth).toList ++ ((prettyAt depth v).toList ++
          ((prettyItems depth vs).toList ++ rest))) := by
      simp [prettyItems]
    rw [text, comma, tokensFrom?_lineBreak, first depth (ended_prettyItems ended vs), ih others]
    simp [tokensOfItems, Function.comp_def]

theorem tokensFrom?_field {key : String} {v : Json} (lexes : Lexes v) (ended : Ended rest) :
    tokensFrom? .gap ((quote key).toList ++ ':' :: ' ' :: ((prettyAt depth v).toList ++ rest)) =
      (tokensFrom? .gap rest).map (.text (some key) :: .colon :: tokens v ++ ·) := by
  have colon := tokensFrom?_sign (t := .colon) rfl
  rw [tokensFrom?_quote, colon, tokensFrom?_blank (by decide), lexes depth ended]
  simp [Function.comp_def]

theorem tokensFrom?_prettyFields {fs : List (String × Json)} (each : ∀ f ∈ fs, Lexes f.2)
    (ended : Ended rest) :
    tokensFrom? .gap ((prettyFields depth fs).toList ++ rest) =
      (tokensFrom? .gap rest).map (tokensOfFields fs ++ ·) := by
  have comma := tokensFrom?_sign (t := .comma) rfl
  induction fs with
  | nil => simp [prettyFields, tokensOfFields]
  | cons f fs ih =>
    obtain ⟨key, v⟩ := f
    obtain ⟨first, others⟩ := List.forall_mem_cons.mp each
    have text : (prettyFields depth ((key, v) :: fs)).toList ++ rest =
        ',' :: ((lineBreak depth).toList ++ ((quote key).toList ++ ':' :: ' ' ::
          ((prettyAt depth v).toList ++ ((prettyFields depth fs).toList ++ rest)))) := by
      simp [prettyFields]
    rw [text, comma, tokensFrom?_lineBreak, tokensFrom?_field first (ended_prettyFields ended fs),
      ih others]
    simp [tokensOfFields, Function.comp_def]

theorem lexes_arr {items : List Json} (each : ∀ v ∈ items, Lexes v) : Lexes (.arr items) := by
  intro depth rest ended
  have opened := tokensFrom?_sign (t := .openArray) rfl
  have closed := tokensFrom?_sign (t := .closeArray) rfl
  cases items with
  | nil =>
    have text : (prettyAt depth (.arr [])).toList = ['[', ']'] := by simp [prettyAt]
    rw [text, List.cons_append, opened, List.cons_append, List.nil_append, closed]
    simp [tokens, Function.comp_def]
  | cons v vs =>
    obtain ⟨first, others⟩ := List.forall_mem_cons.mp each
    have text : (prettyAt depth (.arr (v :: vs))).toList ++ rest =
        '[' :: ((lineBreak (depth + 1)).toList ++ ((prettyAt (depth + 1) v).toList ++
          ((prettyItems (depth + 1) vs).toList ++ ((lineBreak depth).toList ++ ']' :: rest)))) := by
      simp [prettyAt]
    rw [text, opened, tokensFrom?_lineBreak, first _ (ended_prettyItems ended_lineBreak vs),
      tokensFrom?_prettyItems others ended_lineBreak, tokensFrom?_lineBreak, closed]
    simp [tokens, Function.comp_def]

theorem lexes_obj {fields : List (String × Json)} (each : ∀ f ∈ fields, Lexes f.2) :
    Lexes (.obj fields) := by
  intro depth rest ended
  have opened := tokensFrom?_sign (t := .openObject) rfl
  have closed := tokensFrom?_sign (t := .closeObject) rfl
  cases fields with
  | nil =>
    have text : (prettyAt depth (.obj [])).toList = ['\x7b', '\x7d'] := by simp [prettyAt]
    rw [text, List.cons_append, opened, List.cons_append, List.nil_append, closed]
    simp [tokens, Function.comp_def]
  | cons f fs =>
    obtain ⟨key, v⟩ := f
    obtain ⟨first, others⟩ := List.forall_mem_cons.mp each
    have text : (prettyAt depth (.obj ((key, v) :: fs))).toList ++ rest =
        '\x7b' :: ((lineBreak (depth + 1)).toList ++ ((quote key).toList ++ ':' :: ' ' ::
          ((prettyAt (depth + 1) v).toList ++ ((prettyFields (depth + 1) fs).toList ++
            ((lineBreak depth).toList ++ '\x7d' :: rest))))) := by
      simp [prettyAt]
    rw [text, opened, tokensFrom?_lineBreak,
      tokensFrom?_field first (ended_prettyFields ended_lineBreak fs),
      tokensFrom?_prettyFields others ended_lineBreak, tokensFrom?_lineBreak, closed]
    simp [tokens, Function.comp_def]

theorem lexes_of_readable {v : Json} (readable : Readable v) : Lexes v := by
  induction readable with
  | null => exact fun _ _ ended => tokensFrom?_isBare .null ended
  | bool value =>
    intro depth rest ended
    cases value <;> exact tokensFrom?_isBare (.bool _) ended
  | int n => exact fun _ _ ended => tokensFrom?_isBare (.int n) ended
  | real number => exact fun _ _ ended => tokensFrom?_isBare (.real number) ended
  | str text => exact fun _ rest _ => tokensFrom?_quote text rest
  | arr _ each => exact lexes_arr each
  | obj _ each => exact lexes_obj each

theorem tokens?_pretty {v : Json} (readable : Readable v) :
    tokens? v.pretty.toList = some (tokens v) := by
  have read : tokensFrom? .gap ((prettyAt 0 v).toList ++ []) = some (tokens v ++ []) :=
    lexes_of_readable readable 0 rfl
  rw [List.append_nil, List.append_nil] at read
  exact read

end Printing

namespace Expects

/-- Wherever a value may begin, its tokens put it in its place. -/
def Completes (v : Json) : Prop :=
  ∀ {e : Expects} {stack : List Frame}, e.Starts stack →
    (tokens v).foldlM step e = some (place v stack)

section Run

variable {e next : Expects} {stack : List Frame} {t : Token} {v : Json}

theorem step_of_starts (starts : e.Starts stack) (begins : t ≠ .closeArray) :
    e.step t = startValue stack t := by
  cases starts with
  | value => rfl
  | first =>
    cases t with
    | closeArray => contradiction
    | _ => rfl

theorem foldlM_step_cons (taken : e.step t = some next) (ts : List Token) :
    (t :: ts).foldlM step e = ts.foldlM step next := by
  rw [List.foldlM_cons, taken]
  rfl

theorem Completes.foldlM_append (completes : Completes v) (starts : e.Starts stack)
    (ts : List Token) : (tokens v ++ ts).foldlM step e = ts.foldlM step (place v stack) := by
  rw [List.foldlM_append, completes starts]
  rfl

theorem completes_of_scalar (alone : tokens v = [t]) (scalar : scalar? t = some v) :
    Completes v := by
  intro e stack starts
  have begins : t ≠ .closeArray := by
    rintro rfl
    contradiction
  have started : startValue stack t = some (place v stack) := by
    cases t with
    | text name => cases name <;> cases scalar <;> rfl
    | _ => cases scalar <;> rfl
  rw [alone, foldlM_step_cons ((step_of_starts starts begins).trans started)]
  rfl

end Run

theorem foldlM_tokensOfItems {vs : List Json} (each : ∀ v ∈ vs, Completes v) (items : List Json)
    (stack : List Frame) (ts : List Token) :
    (tokensOfItems vs ++ ts).foldlM step (.more (.arr items) stack) =
      ts.foldlM step (.more (.arr (vs.reverse ++ items)) stack) := by
  induction vs generalizing items with
  | nil => rfl
  | cons v vs ih =>
    obtain ⟨first, others⟩ := List.forall_mem_cons.mp each
    have next : step (.more (.arr items) stack) .comma = some (.value (.arr items :: stack)) := rfl
    rw [tokensOfItems, List.cons_append, foldlM_step_cons next, List.append_assoc,
      first.foldlM_append (.value _), place, ih others, List.reverse_cons, List.append_assoc,
      List.singleton_append]

theorem foldlM_field {key : String} {v : Json} (completes : Completes v)
    (fields : List (Option String × Json)) (stack : List Frame) (ts : List Token) :
    (.colon :: (tokens v ++ ts)).foldlM step (.colon fields (some key) stack) =
      ts.foldlM step (.more (.obj ((some key, v) :: fields) none) stack) := by
  have colon : step (.colon fields (some key) stack) .colon =
      some (.value (.obj fields (some key) :: stack)) := rfl
  rw [foldlM_step_cons colon, completes.foldlM_append (.value _), place]

theorem foldlM_tokensOfFields {fs : List (String × Json)} (each : ∀ f ∈ fs, Completes f.2)
    (fields : List (Option String × Json)) (stack : List Frame) (ts : List Token) :
    (tokensOfFields fs ++ ts).foldlM step (.more (.obj fields none) stack) =
      ts.foldlM step
        (.more (.obj ((fs.map fun f => (some f.1, f.2)).reverse ++ fields) none) stack) := by
  induction fs generalizing fields with
  | nil => rfl
  | cons f fs ih =>
    obtain ⟨key, v⟩ := f
    obtain ⟨first, others⟩ := List.forall_mem_cons.mp each
    have next : step (.more (.obj fields none) stack) .comma = some (.key fields stack) := rfl
    have named : step (.key fields stack) (.text (some key)) =
        some (.colon fields (some key) stack) := rfl
    rw [tokensOfFields, List.cons_append, foldlM_step_cons next, List.cons_append,
      foldlM_step_cons named, List.cons_append, List.append_assoc, foldlM_field first, ih others,
      List.map_cons, List.reverse_cons, List.append_assoc, List.singleton_append]

theorem ofFields_some (fs : List (String × Json)) :
    ofFields (fs.map fun f => (some f.1, f.2)) = .obj fs := by
  have all : (fs.map fun f => (some f.1, f.2)).mapM
      (fun f : Option String × Json => f.1.map (·, f.2)) = some fs := by
    rw [List.mapM_map]
    exact List.mapM_pure.trans (congrArg some fs.map_id)
  rw [ofFields, all]

theorem completes_arr {items : List Json} (each : ∀ v ∈ items, Completes v) :
    Completes (.arr items) := by
  intro e stack starts
  have opened : e.step .openArray = some (.itemOrEnd stack) := step_of_starts starts (by simp)
  cases items with
  | nil =>
    rw [tokens, foldlM_step_cons opened]
    rfl
  | cons v vs =>
    obtain ⟨first, others⟩ := List.forall_mem_cons.mp each
    have closed : step (.more (.arr (vs.reverse ++ [v])) stack) .closeArray =
        some (place (.arr (vs.reverse ++ [v]).reverse) stack) := rfl
    rw [tokens, foldlM_step_cons opened, List.append_assoc, first.foldlM_append (.first stack),
      place, foldlM_tokensOfItems others, foldlM_step_cons closed]
    simp

theorem completes_obj {fields : List (String × Json)} (each : ∀ f ∈ fields, Completes f.2) :
    Completes (.obj fields) := by
  intro e stack starts
  have opened : e.step .openObject = some (.keyOrEnd stack) := step_of_starts starts (by simp)
  cases fields with
  | nil =>
    rw [tokens, foldlM_step_cons opened]
    rfl
  | cons f fs =>
    obtain ⟨key, v⟩ := f
    obtain ⟨first, others⟩ := List.forall_mem_cons.mp each
    have named : step (.keyOrEnd stack) (.text (some key)) = some (.colon [] (some key) stack) :=
      rfl
    have closed (fields : List (Option String × Json)) :
        step (.more (.obj fields none) stack) .closeObject =
          some (place (ofFields fields.reverse) stack) := rfl
    rw [tokens, foldlM_step_cons opened, foldlM_step_cons named, List.append_assoc,
      foldlM_field first, foldlM_tokensOfFields others, foldlM_step_cons (closed _)]
    simpa using congrArg (place · stack) (ofFields_some ((key, v) :: fs))

theorem completes_of_readable {v : Json} (readable : Readable v) : Completes v := by
  induction readable with
  | null => exact completes_of_scalar rfl rfl
  | bool value => exact completes_of_scalar rfl rfl
  | int n => exact completes_of_scalar rfl rfl
  | real _ => exact completes_of_scalar rfl rfl
  | str text => exact completes_of_scalar rfl rfl
  | arr _ each => exact completes_arr each
  | obj _ each => exact completes_obj each

end Expects

theorem parse?_pretty {v : Json} (readable : Readable v) : parse? v.pretty = some v := by
  have complete := Expects.completes_of_readable readable (.value [])
  simp only [parse?, tokens?_pretty readable, complete, Option.bind_eq_bind, Option.bind_some]
  rfl

end ApiContract.Json
