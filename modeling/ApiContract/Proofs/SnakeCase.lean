import ApiContract.Context.Rust
import ApiContract.Proofs.CamelCase
import Mathlib.Data.List.Infix

set_option autoImplicit false

namespace ApiContract.Name

open Text

def IsSmall (c : Char) : Prop :=
  c.isLower = true ∨ c.isDigit = true

structure IsSnakeCase (cs : List Char) : Prop where
  small : ∀ c ∈ cs, IsSmall c ∨ c = '_'
  head : cs.head? ≠ some '_'
  last : cs.getLast? ≠ some '_'
  single : ¬['_', '_'] <:+: cs

def smallLetters (cs : List Char) : List Char :=
  (cs.filter Char.isAlphanum).map Char.toLower

section Characters

variable {c : Char}

theorem ascii_kinds (ascii : c.toNat < 0x80) :
    isUppercase c = c.isUpper ∧ isAlphanumeric c = c.isAlphanum ∧
      (c.isUpper = true → toLower c = [c.toLower] ∧ c.isAlphanum = true) ∧
      (c.isAlphanum = true → c.isUpper = false → c.toLower = c) ∧
      (c.isAlphanum = true → c.toLower.isLower = true ∨ c.toLower.isDigit = true) := by
  revert c
  apply forall_ascii
  decide

theorem IsSmall.ascii (small : IsSmall c) : c.toNat < 0x80 :=
  small.elim ascii_of_isLower ascii_of_isDigit

theorem IsSmall.kinds (small : IsSmall c) :
    isUppercase c = false ∧ isAlphanumeric c = true ∧ c ≠ '_' := by
  have ascii := small.ascii
  revert small
  unfold IsSmall
  revert c
  apply forall_ascii
  decide

end Characters

section Words

variable {word cs : List Char} {flag : Bool} {name : String}

theorem smallLetters_cons (c : Char) (cs : List Char) :
    smallLetters (c :: cs) =
      if c.isAlphanum then c.toLower :: smallLetters cs else smallLetters cs := by
  by_cases letter : c.isAlphanum = true <;> simp [smallLetters, letter]

theorem flatten_wordsFrom (ascii : ∀ c ∈ cs, c.toNat < 0x80) :
    (wordsFrom word flag cs).flatten = word ++ smallLetters cs := by
  fun_induction wordsFrom word flag cs with
  | case1 word => simp [smallLetters]
  | case2 word c cs upper ih | case3 word _ c cs upper _ ih =>
    obtain ⟨here, later⟩ := List.forall_mem_cons.mp ascii
    obtain ⟨isUpper, -, capital, -⟩ := ascii_kinds here
    obtain ⟨lower, letter⟩ := capital (isUpper ▸ upper)
    rw [lower] at ih ⊢
    simp [ih later, letter, smallLetters_cons]
  | case4 word _ c cs notUpper alphanumeric ih =>
    obtain ⟨here, later⟩ := List.forall_mem_cons.mp ascii
    obtain ⟨isUpper, isLetter, -, same, -⟩ := ascii_kinds here
    have letter : c.isAlphanum = true := isLetter ▸ alphanumeric
    have small : c.toLower = c := same letter (isUpper ▸ Bool.eq_false_iff.mpr notUpper)
    simp [ih later, letter, small, smallLetters_cons]
  | case5 word _ c cs _ notLetter _ ih | case6 word _ c cs _ notLetter _ ih =>
    obtain ⟨here, later⟩ := List.forall_mem_cons.mp ascii
    obtain ⟨-, isLetter, -⟩ := ascii_kinds here
    have other : c.isAlphanum = false := isLetter ▸ Bool.eq_false_iff.mpr notLetter
    simp [ih later, other, smallLetters_cons]

theorem flatten_filter_nonempty (words : List (List Char)) :
    (words.filter (!·.isEmpty)).flatten = words.flatten := by
  induction words with
  | nil => rfl
  | cons word words ih => cases word <;> simp [ih]

theorem flatten_words (ascii : ∀ c ∈ name.toList, c.toNat < 0x80) :
    (words name).flatten = smallLetters name.toList := by
  rw [words, flatten_filter_nonempty, flatten_wordsFrom ascii, List.nil_append]

def IsSmallWord (word : List Char) : Prop :=
  word ≠ [] ∧ ∀ c ∈ word, IsSmall c

theorem isSmallWord_of_mem_words (ascii : ∀ c ∈ name.toList, c.toNat < 0x80)
    (listed : word ∈ words name) : IsSmallWord word := by
  refine ⟨by simpa using (List.mem_filter.mp listed).2, fun c inside => ?_⟩
  have small : c ∈ smallLetters name.toList := by
    rw [← flatten_words ascii]
    exact List.mem_flatten_of_mem listed inside
  obtain ⟨d, kept, rfl⟩ := List.mem_map.mp small
  obtain ⟨origin, letter⟩ := List.mem_filter.mp kept
  exact (ascii_kinds (ascii d origin)).2.2.2.2 letter

end Words

section Joined

variable {word front cs : List Char} {words : List (List Char)} {flag : Bool}

theorem wordsFrom_small (small : ∀ c ∈ front, IsSmall c) :
    ∃ later, wordsFrom word flag (front ++ cs) = wordsFrom (word ++ front) later cs := by
  induction front generalizing word flag with
  | nil => exact ⟨flag, by simp⟩
  | cons c front ih =>
    obtain ⟨here, rest⟩ := List.forall_mem_cons.mp small
    obtain ⟨notUpper, alphanumeric, -⟩ := here.kinds
    obtain ⟨later, read⟩ := @ih (word ++ [c]) (isLowercase c || c.isDigit) rest
    refine ⟨later, ?_⟩
    rw [List.cons_append, wordsFrom, notUpper, alphanumeric]
    simpa using read

theorem wordsFrom_joined (some : words ≠ []) (small : ∀ word ∈ words, IsSmallWord word) :
    wordsFrom [] flag (['_'].intercalate words) = words := by
  induction words generalizing flag with
  | nil => contradiction
  | cons first words ih =>
    obtain ⟨⟨-, here⟩, later⟩ := List.forall_mem_cons.mp small
    cases words with
    | nil =>
      obtain ⟨after, read⟩ := @wordsFrom_small [] first [] flag here
      simpa [wordsFrom] using read
    | cons next words =>
      rw [List.intercalate_cons_cons, List.append_assoc]
      obtain ⟨after, read⟩ := @wordsFrom_small [] first _ flag here
      rw [read, List.nil_append, List.singleton_append, wordsFrom_underscore,
        ih (List.cons_ne_nil _ _) later]

theorem words_joined (small : ∀ word ∈ words, IsSmallWord word) :
    Name.words (String.ofList (['_'].intercalate words)) = words := by
  rw [Name.words, String.toList_ofList]
  cases words with
  | nil => rfl
  | cons first words =>
    rw [wordsFrom_joined (List.cons_ne_nil _ _) small]
    exact List.filter_eq_self.mpr fun word listed => by simpa using (small word listed).1

end Joined

section Normal

variable {cs word : List Char} {words : List (List Char)} {name : String}

theorem IsSmallWord.no_underscore (small : IsSmallWord word) : '_' ∉ word := fun inside =>
  (small.2 '_' inside).kinds.2.2 rfl

theorem single_joined (apart : '_' ∉ word) (head : cs.head? ≠ some '_')
    (single : ¬['_', '_'] <:+: cs) : ¬['_', '_'] <:+: word ++ '_' :: cs := by
  induction word with
  | nil =>
    rw [List.nil_append, List.infix_cons_iff, not_or]
    refine ⟨fun here => head ?_, single⟩
    obtain ⟨rest, rfl⟩ := (List.cons_prefix_cons.mp here).2
    rfl
  | cons c word ih =>
    obtain ⟨here, later⟩ := not_or.mp (mt List.mem_cons.mpr apart)
    rw [List.cons_append, List.infix_cons_iff, not_or]
    exact ⟨fun first => here (List.cons_prefix_cons.mp first).1, ih later⟩

theorem IsSnakeCase.of_word (small : IsSmallWord word) : IsSnakeCase word where
  small c inside := .inl (small.2 c inside)
  head first := small.no_underscore (List.mem_of_mem_head? first)
  last final := small.no_underscore (List.mem_of_getLast? final)
  single inside := small.no_underscore (inside.subset List.mem_cons_self)

theorem IsSnakeCase.cons_word (small : IsSmallWord word) (snake : IsSnakeCase cs)
    (some : cs ≠ []) : IsSnakeCase (word ++ '_' :: cs) where
  small c inside := by
    rcases List.mem_append.mp inside with front | back
    · exact .inl (small.2 c front)
    · rcases List.mem_cons.mp back with rfl | back
      · exact .inr rfl
      · exact snake.small c back
  head := by
    rw [List.head?_append_of_ne_nil _ small.1]
    exact (IsSnakeCase.of_word small).head
  last := by
    rw [List.getLast?_append_of_ne_nil _ (List.cons_ne_nil _ _), List.getLast?_cons_of_ne_nil some]
    exact snake.last
  single := single_joined small.no_underscore snake.head snake.single

theorem joined_ne_nil (some : words ≠ []) (small : ∀ word ∈ words, IsSmallWord word) :
    ['_'].intercalate words ≠ [] := by
  cases words with
  | nil => contradiction
  | cons first words =>
    have nonempty : first ≠ [] := (small first List.mem_cons_self).1
    cases words with
    | nil => simpa [List.intercalate_singleton] using nonempty
    | cons next words => simp [List.intercalate_cons_cons]

theorem isSnakeCase_joined (small : ∀ word ∈ words, IsSmallWord word) :
    IsSnakeCase (['_'].intercalate words) := by
  induction words with
  | nil => exact ⟨by simp, by simp, by simp, by simp⟩
  | cons first words ih =>
    obtain ⟨here, later⟩ := List.forall_mem_cons.mp small
    cases words with
    | nil =>
      rw [List.intercalate_singleton]
      exact .of_word here
    | cons next words =>
      rw [List.intercalate_cons_cons, List.append_assoc]
      exact .cons_word here (ih later) (joined_ne_nil (List.cons_ne_nil _ _) later)

theorem filter_joined (small : ∀ word ∈ words, IsSmallWord word) :
    (['_'].intercalate words).filter (· ≠ '_') = words.flatten := by
  induction words with
  | nil => rfl
  | cons first words ih =>
    obtain ⟨here, later⟩ := List.forall_mem_cons.mp small
    have kept : first.filter (· ≠ '_') = first :=
      List.filter_eq_self.mpr fun c inside => by
        simpa using fun same : c = '_' => here.no_underscore (same ▸ inside)
    cases words with
    | nil => simpa [List.intercalate_singleton] using kept
    | cons next words =>
      rw [List.intercalate_cons_cons, List.append_assoc, List.filter_append, List.filter_append,
        kept, ih later]
      simp

theorem isSnakeCase_snakeCase (ascii : ∀ c ∈ name.toList, c.toNat < 0x80) :
    IsSnakeCase (snakeCase name).toList := by
  rw [snakeCase, String.toList_ofList]
  exact isSnakeCase_joined fun _ => isSmallWord_of_mem_words ascii

theorem letters_snakeCase (ascii : ∀ c ∈ name.toList, c.toNat < 0x80) :
    (snakeCase name).toList.filter (· ≠ '_') = smallLetters name.toList := by
  rw [snakeCase, String.toList_ofList, filter_joined fun _ => isSmallWord_of_mem_words ascii,
    flatten_words ascii]

theorem words_snakeCase (ascii : ∀ c ∈ name.toList, c.toNat < 0x80) :
    Name.words (snakeCase name) = Name.words name :=
  words_joined fun _ => isSmallWord_of_mem_words ascii

theorem snakeCase_snakeCase (ascii : ∀ c ∈ name.toList, c.toNat < 0x80) :
    snakeCase (snakeCase name) = snakeCase name := by
  rw [snakeCase, words_snakeCase ascii, snakeCase]

theorem upperCamelCase_snakeCase (ascii : ∀ c ∈ name.toList, c.toNat < 0x80) :
    upperCamelCase (snakeCase name) = upperCamelCase name := by
  rw [upperCamelCase, words_snakeCase ascii, upperCamelCase]

theorem wordsFrom_concat_underscore (word : List Char) (flag : Bool) (cs : List Char) :
    wordsFrom word flag (cs ++ ['_']) = wordsFrom word flag cs ++ [[]] := by
  fun_induction wordsFrom word flag cs with
  | case1 word => rfl
  | case2 word c cs upper ih => simp [wordsFrom, upper, ih]
  | case3 word _ c cs upper still ih => simp [wordsFrom, upper, still, ih]
  | case4 word _ c cs notUpper letter ih => simp [wordsFrom, notUpper, letter, ih]
  | case5 word _ c cs notUpper other separator ih =>
    simp [wordsFrom, notUpper, other, separator, ih]
  | case6 word _ c cs notUpper other noSeparator ih =>
    simp [wordsFrom, notUpper, other, noSeparator, ih]

theorem snakeCase_concat_underscore (name : String) : snakeCase (name ++ "_") = snakeCase name := by
  have same : Name.words (name ++ "_") = Name.words name := by
    rw [Name.words, String.toList_append]
    exact (congrArg _ (wordsFrom_concat_underscore [] false name.toList)).trans
      (by simp [Name.words])
  rw [snakeCase, same, snakeCase]

end Normal

end ApiContract.Name

namespace ApiContract.Rust

theorem fieldName_eq (name : String) :
    fieldName name =
      if Name.snakeCase name ∈ reservedWords then Name.snakeCase name ++ "_"
      else Name.snakeCase name := by
  simp only [fieldName, List.contains_iff_mem]

theorem fieldName_fieldName {name : String} (ascii : ∀ c ∈ name.toList, c.toNat < 0x80) :
    fieldName (fieldName name) = fieldName name := by
  have again : Name.snakeCase (fieldName name) = Name.snakeCase name := by
    rw [fieldName_eq name]
    split
    · rw [Name.snakeCase_concat_underscore, Name.snakeCase_snakeCase ascii]
    · exact Name.snakeCase_snakeCase ascii
  rw [fieldName_eq (fieldName name), again, ← fieldName_eq]

end ApiContract.Rust

namespace ApiContract.Name

theorem snakeCase_normal {name : String} (ascii : ∀ c ∈ name.toList, c.toNat < 0x80) :
    IsSnakeCase (snakeCase name).toList ∧
      (snakeCase name).toList.filter (· ≠ '_') = smallLetters name.toList ∧
      snakeCase (snakeCase name) = snakeCase name ∧
      upperCamelCase (snakeCase name) = upperCamelCase name ∧
      Rust.fieldName (Rust.fieldName name) = Rust.fieldName name :=
  ⟨isSnakeCase_snakeCase ascii, letters_snakeCase ascii, snakeCase_snakeCase ascii,
    upperCamelCase_snakeCase ascii, Rust.fieldName_fieldName ascii⟩

theorem snakeCase_normal_jobEntryType :
    (∀ c ∈ "Job#Entry2B.$_type".toList, c.toNat < 0x80) ∧
      snakeCase "Job#Entry2B.$_type" = "job_entry2_b_type" ∧
      IsSnakeCase "job_entry2_b_type".toList ∧
      "job_entry2_b_type".toList.filter (· ≠ '_') = smallLetters "Job#Entry2B.$_type".toList ∧
      snakeCase "job_entry2_b_type" = "job_entry2_b_type" ∧
      upperCamelCase "job_entry2_b_type" = upperCamelCase "Job#Entry2B.$_type" := by
  have ascii : ∀ c ∈ "Job#Entry2B.$_type".toList, c.toNat < 0x80 := by simp
  have written : snakeCase "Job#Entry2B.$_type" = "job_entry2_b_type" := by decide
  obtain ⟨normal, letters, again, camel, -⟩ := snakeCase_normal ascii
  rw [written] at normal letters again camel
  exact ⟨ascii, written, normal, letters, again, camel⟩

end ApiContract.Name
