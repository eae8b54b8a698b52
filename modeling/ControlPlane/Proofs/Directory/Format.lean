import ControlPlane.Directory.Constraint
import ControlPlane.Proofs.Pattern.Language

/-!
The formats of the directory service: names of directories, their short names and the addresses of
their servers. The expression that is enforced has the language of the documented source, and that
language is told here without expressions.

Names are runs of letters and digits with single separators between them. Both the separators and
the runs can be read at more than one place while a source is matched, so the languages are brought
to one form first, by what holds of products, sums and repetitions, and only then read off.
-/

open scoped Computability

namespace ControlPlane.DirectoryConstraint

open Pattern Expression Regex

variable {w : List Char}

def IsRun (w : List Char) : Prop :=
  w ≠ [] ∧ ∀ c ∈ w, ('A' ≤ c ∧ c ≤ 'Z') ∨ ('a' ≤ c ∧ c ≤ 'z') ∨ ('0' ≤ c ∧ c ≤ '9')

def joined (first : List Char) (others : List (Char × List Char)) : List Char :=
  first ++ others.flatMap fun part => part.1 :: part.2

/-- At least two runs, joined by single points or hyphens. -/
def IsName (w : List Char) : Prop :=
  ∃ first others, w = joined first others ∧ others ≠ [] ∧ IsRun first ∧
    ∀ part ∈ others, (part.1 = '.' ∨ part.1 = '-') ∧ IsRun part.2

def run : Language Char := letters Char.isAlphanum * (letters Char.isAlphanum)∗

def separator : Language Char := letters fun c => c == '.' || c == '-'

def letterOrDigitSet : Expression := .set false [.range 'a' 'z', .range 'A' 'Z', .range '0' '9']

def separatorSet : Expression := .set false [.single '.', .single '-']

def nameExpression : Expression :=
  .seq (.repeated (.group (.seq (.repeated letterOrDigitSet 1 none) separatorSet)) 1 none)
    (.seq (.repeated (.group letterOrDigitSet) 1 none) .finish)

theorem read_namePattern :
    Expression.read namePattern.source = some (.seq .start nameExpression) := by
  decide +kernel

theorem language_nameRegex :
    nameRegex.language = run * separator * (run * separator)∗ * run := by
  simp only [nameRegex, language_seq, language_plus, language_chars, alphanumeric]
  rfl

theorem closes_nameExpression : nameExpression.Closes nameRegex.language := by
  have letterOrDigit : letterOrDigitSet.Denotes (letters Char.isAlphanum) :=
    denotes_set fun c => by
      simp [inSet, Text.isAlphanum_eq, Bool.or_comm, Bool.or_left_comm]
  have separators : separatorSet.Denotes separator := denotes_set fun c => by simp [inSet]
  rw [language_nameRegex]
  exact (letterOrDigit.plus.seq separators).group.plus.seq_closes
    letterOrDigit.group.plus.seq_finish

theorem mem_run_iff : w ∈ run ↔ IsRun w := by
  simp only [run, mem_plus_letters_iff, IsRun, Text.isAlphanum_iff]

theorem mem_separator_iff : w ∈ separator ↔ ∃ c, w = [c] ∧ (c = '.' ∨ c = '-') := by
  simp [separator, mem_letters_iff]

theorem joined_cons {first other : List Char} {c : Char} {others : List (Char × List Char)} :
    joined first ((c, other) :: others) = first ++ [c] ++ joined other others := by
  simp [joined]

theorem mem_kstar_mul_run_iff :
    w ∈ (run * separator)∗ * run ↔ ∃ first others, w = joined first others ∧ IsRun first ∧
      ∀ part ∈ others, (part.1 = '.' ∨ part.1 = '-') ∧ IsRun part.2 := by
  constructor
  · rintro ⟨_, ⟨parts, rfl, each⟩, last, ending, rfl⟩
    induction parts with
    | nil => exact ⟨last, [], by simp [joined], mem_run_iff.mp ending, nofun⟩
    | cons part parts ih =>
      obtain ⟨⟨r, first, _, sep, rfl⟩, rest⟩ := List.forall_mem_cons.mp each
      obtain ⟨c, rfl, point⟩ := mem_separator_iff.mp sep
      obtain ⟨other, others, whole, head, tail⟩ := ih rest
      have joins : ((r ++ [c]) :: parts).flatten ++ last = joined r ((c, other) :: others) := by
        rw [joined_cons, ← whole]
        simp
      exact ⟨r, (c, other) :: others, joins, mem_run_iff.mp first,
        List.forall_mem_cons.mpr ⟨⟨point, head⟩, tail⟩⟩
  · rintro ⟨first, others, rfl, head, tail⟩
    induction others generalizing first with
    | nil =>
      rw [joined, List.flatMap_nil, List.append_nil]
      exact Language.append_mem_mul (Language.nil_mem_kstar _) (mem_run_iff.mpr head)
    | cons part others ih =>
      obtain ⟨⟨point, other⟩, rest⟩ := List.forall_mem_cons.mp tail
      have step : first ++ [part.1] ∈ run * separator :=
        Language.append_mem_mul (mem_run_iff.mpr head) (mem_separator_iff.mpr ⟨_, rfl, point⟩)
      have more : run * separator * ((run * separator)∗ * run) ≤ (run * separator)∗ * run := by
        rw [← mul_assoc]
        gcongr
        exact mul_kstar_le_kstar
      exact joined_cons ▸ more (Language.append_mem_mul step (ih _ other rest))

theorem mem_language_nameRegex_iff : w ∈ nameRegex.language ↔ IsName w := by
  rw [language_nameRegex, mul_assoc]
  constructor
  · rintro ⟨_, ⟨r, head, _, sep, rfl⟩, v, rest, rfl⟩
    obtain ⟨c, rfl, point⟩ := mem_separator_iff.mp sep
    obtain ⟨other, others, rfl, first, tail⟩ := mem_kstar_mul_run_iff.mp rest
    exact ⟨r, (c, other) :: others, joined_cons.symm, List.cons_ne_nil _ _, mem_run_iff.mp head,
      List.forall_mem_cons.mpr ⟨⟨point, first⟩, tail⟩⟩
  · rintro ⟨first, others, rfl, some, head, tail⟩
    obtain ⟨⟨c, other⟩, others, rfl⟩ := List.exists_cons_of_ne_nil some
    obtain ⟨⟨point, run⟩, rest⟩ := List.forall_mem_cons.mp tail
    have step := Language.append_mem_mul (mem_run_iff.mpr head)
      (mem_separator_iff.mpr ⟨c, rfl, point⟩)
    have more := mem_kstar_mul_run_iff.mpr ⟨other, others, rfl, run, rest⟩
    exact joined_cons ▸ Language.append_mem_mul step more

def reserved : List Char := ['/', ':', '*', '?', '"', '<', '>', '|']

/-- Not empty, without reserved characters, and with no point at the beginning. -/
def IsShortName (w : List Char) : Prop :=
  w ≠ [] ∧ (∀ c ∈ w, c ∉ reserved) ∧ w.head? ≠ some '.'

def noneOfSet (excluded : String) : Expression := .set true (excluded.toList.map .single)

def shortNameExpression : Expression :=
  .seq (.repeated (noneOfSet "/:*?\"<>|.") 1 none)
    (.seq (.repeated (noneOfSet "/:*?\"<>|") 0 none) .finish)

theorem read_shortNamePattern :
    Expression.read shortNamePattern.source = some (.seq .start shortNameExpression) := by
  decide +kernel

theorem inSet_noneOf (excluded : String) (c : Char) :
    inSet true (excluded.toList.map .single) c = !excluded.toList.contains c := by
  simp only [inSet, List.any_map, Function.comp_def, ClassItem.has_single, Bool.bne_true,
    List.contains_eq_any_beq]

theorem toList_reserved : "/:*?\"<>|".toList = reserved := rfl

theorem toList_reserved_point : "/:*?\"<>|.".toList = reserved ++ ['.'] := rfl

theorem language_shortNameRegex :
    shortNameRegex.language = letters (fun c => !(reserved ++ ['.']).contains c) *
      (letters fun c => !reserved.contains c)∗ := by
  simp only [shortNameRegex, noneOf, language_seq, language_star, language_chars,
    toList_reserved, toList_reserved_point]

/-- After one character of the first kind, more of the first kind are also of the second. -/
theorem closes_shortNameExpression : shortNameExpression.Closes shortNameRegex.language := by
  have first := denotes_set (inSet_noneOf "/:*?\"<>|.")
  have others := denotes_set (inSet_noneOf "/:*?\"<>|")
  rw [toList_reserved_point] at first
  rw [toList_reserved] at others
  have fewer : letters (fun c => !(reserved ++ ['.']).contains c) ≤
      letters fun c => !reserved.contains c :=
    letters_mono fun c h => by simp_all
  have whole := first.plus.seq_closes others.star.seq_finish
  rw [mul_assoc, kstar_mul_kstar_of_le fewer] at whole
  rw [language_shortNameRegex]
  exact whole

theorem mem_language_shortNameRegex_iff : w ∈ shortNameRegex.language ↔ IsShortName w := by
  rw [language_shortNameRegex, mem_letters_mul_iff]
  simp only [mem_kstar_letters_iff, IsShortName]
  cases w with
  | nil => simp
  | cons c w =>
    simp only [List.cons.injEq, List.head?_cons, List.forall_mem_cons, Bool.not_eq_true',
      List.contains_eq_mem, decide_eq_false_iff_not, List.mem_append, List.mem_singleton]
    constructor
    · rintro ⟨_, _, ⟨rfl, rfl⟩, first, others⟩
      exact ⟨List.cons_ne_nil _ _, ⟨fun h => first (.inl h), others⟩, by simp_all⟩
    · rintro ⟨-, ⟨first, others⟩, point⟩
      exact ⟨c, w, ⟨rfl, rfl⟩, by simp_all, others⟩

/-- One to three decimal digits whose value is at most 255. -/
def IsOctet (w : List Char) : Prop :=
  1 ≤ w.length ∧ w.length ≤ 3 ∧ (∀ c ∈ w, '0' ≤ c ∧ c ≤ '9') ∧ Nat.ofDigitChars 10 w 0 ≤ 255

def IsAddress (w : List Char) : Prop :=
  ∃ parts : List (List Char), w = ['.'].intercalate parts ∧ parts.length = 4 ∧
    ∀ part ∈ parts, IsOctet part

def digitSet (least greatest : Char) : Expression := .set false [.range least greatest]

def octetExpression : Expression :=
  .group (.alt
    (.seq (.set false [.single '2']) (.seq (.set false [.single '5']) (digitSet '0' '5')))
    (.alt (.seq (.set false [.single '2']) (.seq (digitSet '0' '4') (digitSet '0' '9')))
      (.seq (.repeated (.set false [.single '0', .single '1']) 0 (some 1))
        (.seq (digitSet '0' '9') (.repeated (digitSet '0' '9') 0 (some 1))))))

def addressExpression : Expression :=
  .seq (.repeated (.group (.seq octetExpression (.set false [.single '.']))) 3 (some 3))
    (.seq octetExpression .finish)

theorem read_addressPattern :
    Expression.read addressPattern.source = some (.seq .start addressExpression) := by
  decide +kernel

def digits (least greatest : Char) : Language Char :=
  letters fun c => least ≤ c && c ≤ greatest

theorem mem_digits_iff {least greatest : Char} :
    w ∈ digits least greatest ↔ ∃ c, w = [c] ∧ least ≤ c ∧ c ≤ greatest := by
  simp [digits, mem_letters_iff]

theorem le_iff_toNat_le {c d : Char} : c ≤ d ↔ c.toNat ≤ d.toNat := Iff.rfl

theorem mem_digits_mul_iff {least greatest : Char} {l : Language Char} :
    w ∈ digits least greatest * l ↔
      ∃ c v, w = c :: v ∧ (least ≤ c ∧ c ≤ greatest) ∧ v ∈ l := by
  simp [digits, mem_letters_mul_iff]

theorem language_octetRegex :
    octetRegex.language =
      letters (· == '2') * (letters (· == '5') * digits '0' '5') +
        (letters (· == '2') * (digits '0' '4' * digits '0' '9') +
          (1 + digits '0' '1') * (digits '0' '9' * (1 + digits '0' '9'))) := by
  have literal : (Regex.literal "25").language = letters (· == '2') * letters (· == '5') := by
    simp [Regex.literal, language_seq, language_char, language_empty]
  simp only [octetRegex, between, digit, digits, language_alt, language_seq, language_optional,
    language_char, language_chars, literal, mul_assoc]
  rfl

theorem denotes_octetExpression : octetExpression.Denotes octetRegex.language := by
  have range : ∀ least greatest, (digitSet least greatest).Denotes (digits least greatest) :=
    fun _ _ => denotes_set fun c => by simp [inSet, ClassItem.has]
  have least : Denotes (.set false [.single '0', .single '1']) (digits '0' '1') :=
    denotes_set fun c => by
      rw [Bool.eq_iff_iff]
      simp [inSet, le_iff_toNat_le, ← Char.toNat_inj]
      omega
  rw [language_octetRegex]
  exact (((denotes_char '2').seq ((denotes_char '5').seq (range '0' '5'))).alt
    (((denotes_char '2').seq ((range '0' '4').seq (range '0' '9'))).alt
      (least.optional.seq ((range '0' '9').seq (range '0' '9').optional)))).group

theorem mem_language_octetRegex_iff : w ∈ octetRegex.language ↔ IsOctet w := by
  rw [language_octetRegex]
  simp only [add_mul, mul_add, one_mul, mul_one, Language.mem_add, mem_letters_mul_iff,
    mem_digits_mul_iff, mem_digits_iff, beq_iff_eq, ← Char.toNat_inj, le_iff_toNat_le, IsOctet]
  match w with
  | [] => simp
  | [a] => simp [Nat.ofDigitChars_cons]; omega
  | [a, b] => simp [Nat.ofDigitChars_cons]; omega
  | [a, b, c] => simp [Nat.ofDigitChars_cons]; omega
  | _ :: _ :: _ :: _ :: _ => simp

theorem language_addressRegex :
    addressRegex.language =
      (octetRegex.language * letters (· == '.')) ^ 3 * octetRegex.language := by
  simp only [addressRegex, language_seq, language_times, language_char]

theorem closes_addressExpression : addressExpression.Closes addressRegex.language := by
  rw [language_addressRegex]
  exact ((denotes_octetExpression.seq (denotes_char '.')).group.times 3).seq_closes
    denotes_octetExpression.seq_finish

theorem mem_pow_mul_octet_iff {n : Nat} :
    w ∈ (octetRegex.language * letters (· == '.')) ^ n * octetRegex.language ↔
      ∃ parts : List (List Char), w = ['.'].intercalate parts ∧ parts.length = n + 1 ∧
        ∀ part ∈ parts, IsOctet part := by
  induction n generalizing w with
  | zero =>
    rw [pow_zero, one_mul, mem_language_octetRegex_iff]
    constructor
    · intro h
      exact ⟨[w], by simp, rfl, List.forall_mem_singleton.mpr h⟩
    · rintro ⟨parts, rfl, one, each⟩
      obtain ⟨part, rfl⟩ := List.length_eq_one_iff.mp one
      simpa using each
  | succ n ih =>
    rw [pow_succ', mul_assoc, mul_assoc, Language.mem_mul]
    simp only [mem_letters_mul_iff, mem_language_octetRegex_iff, ih, beq_iff_eq]
    constructor
    · rintro ⟨first, octet, _, ⟨_, _, rfl, rfl, parts, rfl, size, each⟩, rfl⟩
      obtain ⟨second, more, rfl⟩ := List.exists_cons_of_length_eq_add_one size
      exact ⟨first :: second :: more, by simp [List.intercalate_cons_cons], by simp_all,
        List.forall_mem_cons.mpr ⟨octet, each⟩⟩
    · rintro ⟨parts, rfl, size, each⟩
      obtain ⟨first, rest, rfl⟩ := List.exists_cons_of_length_eq_add_one size
      have size : rest.length = n + 1 := by simpa using size
      obtain ⟨second, more, rfl⟩ := List.exists_cons_of_length_eq_add_one size
      obtain ⟨octet, others⟩ := List.forall_mem_cons.mp each
      exact ⟨first, octet, _, ⟨'.', _, rfl, rfl, _, rfl, size, others⟩,
        by simp [List.intercalate_cons_cons]⟩

theorem mem_language_addressRegex_iff : w ∈ addressRegex.language ↔ IsAddress w := by
  rw [language_addressRegex, mem_pow_mul_octet_iff, IsAddress]

theorem formats_of_patterns :
    (namePattern.Enforced ∧ ∀ s, namePattern.accepts s = true ↔ IsName s.toList) ∧
    (shortNamePattern.Enforced ∧ ∀ s, shortNamePattern.accepts s = true ↔ IsShortName s.toList) ∧
    (addressPattern.Enforced ∧ ∀ s, addressPattern.accepts s = true ↔ IsAddress s.toList) := by
  refine ⟨⟨enforced_of_closes read_namePattern closes_nameExpression, fun s => ?_⟩,
    ⟨enforced_of_closes read_shortNamePattern closes_shortNameExpression, fun s => ?_⟩,
    ⟨enforced_of_closes read_addressPattern closes_addressExpression, fun s => ?_⟩⟩
  · rw [namePattern, accepts_ofRegex_iff, mem_language_nameRegex_iff]
  · rw [shortNamePattern, accepts_ofRegex_iff, mem_language_shortNameRegex_iff]
  · rw [addressPattern, accepts_ofRegex_iff, mem_language_addressRegex_iff]

end ControlPlane.DirectoryConstraint
