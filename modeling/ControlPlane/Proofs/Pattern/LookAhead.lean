import ControlPlane.Directory.Constraint
import ControlPlane.Proofs.Pattern.Language
import ControlPlane.Resolver.Constraint

/-!
The patterns with look-ahead are enforced. Passwords, aliases and the names of the resolver are
checked by properties of their characters, and each property is that of the texts that the source
kept beside it matches as a whole.

A password is looked ahead at from its beginning: once for its length, which also keeps line feeds
out of it, so that the other looks see all of it. An alias is a text that begins and ends with a
letter or digit, because hyphens and one letter or digit after them can be repeated. A name is
refused by a look-ahead exactly if digits are all it has.
-/

open scoped Computability

namespace ControlPlane

namespace Pattern.Expression

variable {text : List Char} {p : Char → Bool}

def somewhere (isNegated : Bool) (items : List ClassItem) : Expression :=
  .ahead (.seq (.repeated .wild 0 none) (.set isNegated items))

def InLine (p : Char → Bool) (text : List Char) : Prop :=
  ∃ u c v, text = u ++ c :: v ∧ '\n' ∉ u ∧ p c = true

theorem inLine_iff (line : '\n' ∉ text) : InLine p text ↔ text.any p = true := by
  rw [List.any_eq_true]
  constructor
  · rintro ⟨u, c, v, rfl, -, hc⟩
    exact ⟨c, List.mem_append_right u List.mem_cons_self, hc⟩
  · rintro ⟨c, mem, hc⟩
    obtain ⟨u, v, rfl⟩ := List.append_of_mem mem
    exact ⟨u, c, v, rfl, fun h => line (List.mem_append_left _ h), hc⟩

theorem mem_kstar_wild_iff : text ∈ (letters (· != '\n'))∗ ↔ '\n' ∉ text := by
  simp only [mem_kstar_letters_iff, bne_iff_ne]
  exact ⟨fun h mem => h _ mem rfl, fun h c mem same => h (same ▸ mem)⟩

theorem tests_somewhere {isNegated : Bool} {items : List ClassItem} {p : Char → Bool}
    (h : ∀ c, inSet isNegated items c = p c) :
    (somewhere isNegated items).Tests fun _ after => InLine p after := by
  intro before w after
  have found := denotes_wild.star.seq (denotes_set h)
  rw [somewhere, tests_ahead, found.begins_iff]
  simp only [Language.mem_mul, mem_kstar_wild_iff, mem_letters_iff]
  refine and_congr_right fun _ => ⟨?_, ?_⟩
  · rintro ⟨_, v, rfl, u, line, _, ⟨c, rfl, hc⟩, rfl⟩
    exact ⟨u, c, v, by simp, line, hc⟩
  · rintro ⟨u, c, v, rfl, line, hc⟩
    exact ⟨u ++ [c], v, by simp, u, line, [c], ⟨c, rfl, hc⟩, rfl⟩

end Pattern.Expression

namespace DirectoryConstraint

open Pattern Expression

variable {s : String} {w : List Char}

def digitAhead : Expression := somewhere false [.digit]

def upperAhead : Expression := somewhere false [.range 'A' 'Z']

def lowerAhead : Expression := somewhere false [.range 'a' 'z']

def symbolAhead : Expression :=
  somewhere true [.range 'A' 'Z', .range 'a' 'z', .range '0' '9', .blank]

def passwordExpression : Expression :=
  .seq (.ahead (.seq .start (.seq (.repeated .wild 8 (some 64)) .finish)))
    (.seq
      (.group (.alt (.seq digitAhead (.seq upperAhead lowerAhead))
        (.alt (.seq digitAhead (.seq symbolAhead lowerAhead))
          (.alt (.seq symbolAhead (.seq upperAhead lowerAhead))
            (.seq digitAhead (.seq upperAhead symbolAhead))))))
      (.seq .start (.repeated .wild 0 none)))

theorem read_passwordPattern :
    Expression.read passwordPattern.source = some passwordExpression := by
  decide +kernel

theorem inSet_symbols (c : Char) :
    inSet true [.range 'A' 'Z', .range 'a' 'z', .range '0' '9', .blank] c = isSymbol c := by
  simp [inSet, isSymbol, Text.isAlphanum_eq, Bool.and_assoc]

theorem three_le_kinds_iff :
    3 ≤ kinds w ↔
      (w.any Char.isDigit = true ∧ w.any Char.isUpper = true ∧ w.any Char.isLower = true) ∨
      (w.any Char.isDigit = true ∧ w.any isSymbol = true ∧ w.any Char.isLower = true) ∨
      (w.any isSymbol = true ∧ w.any Char.isUpper = true ∧ w.any Char.isLower = true) ∨
      (w.any Char.isDigit = true ∧ w.any Char.isUpper = true ∧ w.any isSymbol = true) := by
  rw [kinds]
  generalize w.any Char.isDigit = digit
  generalize w.any Char.isUpper = upper
  generalize w.any Char.isLower = lower
  generalize w.any isSymbol = symbol
  revert digit upper lower symbol
  decide

theorem passwordExpression_matches_iff :
    passwordExpression.MatchesWhole s ↔ isAllowedPassword s = true := by
  have digit : digitAhead.Tests fun _ after => InLine Char.isDigit after :=
    tests_somewhere (by simp [inSet])
  have upper : upperAhead.Tests fun _ after => InLine Char.isUpper after :=
    tests_somewhere (by simp [inSet])
  have lower : lowerAhead.Tests fun _ after => InLine Char.isLower after :=
    tests_somewhere (by simp [inSet])
  have symbol : symbolAhead.Tests fun _ after => InLine isSymbol after :=
    tests_somewhere inSet_symbols
  have looks := (digit.seq (upper.seq lower)).alt ((digit.seq (symbol.seq lower)).alt
    ((symbol.seq (upper.seq lower)).alt (digit.seq (upper.seq symbol))))
  have size := denotes_wild.lettersBetween 8 (some 64)
  rw [MatchesWhole, passwordExpression, (tests_ahead _).matches_seq_iff,
    tests_start.begins_seq_iff, size.begins_finish_iff, looks.group.matches_seq_iff,
    tests_start.matches_seq_iff, denotes_wild.star, mem_kstar_wild_iff, List.append_nil,
    mem_lettersBetween_iff]
  have allowed : isAllowedPassword s = true ↔
      8 ≤ s.toList.length ∧ s.toList.length ≤ 64 ∧ '\n' ∉ s.toList ∧ 3 ≤ kinds s.toList := by
    simp [isAllowedPassword, and_assoc]
  rw [allowed, three_le_kinds_iff]
  rw [← mem_kstar_letters_iff, mem_kstar_wild_iff]
  by_cases line : '\n' ∈ s.toList
  · simp [line]
  · simp only [inLine_iff line, line, Option.mem_some_iff, forall_eq', true_and, and_true,
      not_false_eq_true, and_assoc]

def letterOrDigit : Expression := .set false [.digit, .range 'a' 'z', .range 'A' 'Z']

def hyphen : Expression := .set false [.single '-']

def withHyphen (c : Char) : Expression := .seq (.set false [.single c]) hyphen

def aliasExpression : Expression :=
  .seq .start (.seq (.notAhead (.alt (withHyphen 'D') (withHyphen 'd')))
    (.seq (.group (.repeated letterOrDigit 1 none))
      (.seq (.repeated (.group (.seq (.repeated hyphen 0 none) letterOrDigit)) 0 none) .finish)))

theorem read_aliasPattern :
    Expression.read aliasPattern.source = some aliasExpression := by
  decide +kernel

def hyphenated : Language Char := (letters (· == '-'))∗ * letters Char.isAlphanum

theorem inSet_alphanum (c : Char) :
    inSet false [.digit, .range 'a' 'z', .range 'A' 'Z'] c = c.isAlphanum := by
  simp [inSet, Text.isAlphanum_eq, Bool.or_comm]

theorem denotes_letterOrDigit : letterOrDigit.Denotes (letters Char.isAlphanum) :=
  denotes_set inSet_alphanum

theorem withHyphen_begins_iff {c : Char} {before : List Char} :
    (withHyphen c).Begins before w ↔ [c, '-'] <+: w := by
  rw [withHyphen, hyphen, ((denotes_char c).seq (denotes_char '-')).begins_iff]
  simp only [mem_letters_mul_iff, mem_letters_iff, beq_iff_eq]
  constructor
  · rintro ⟨_, v, rfl, _, _, rfl, rfl, _, rfl, rfl⟩
    exact List.prefix_append _ v
  · rintro ⟨v, rfl⟩
    exact ⟨[c, '-'], v, rfl, c, ['-'], rfl, rfl, '-', rfl, rfl⟩

/-- Hyphens that have been read go with what follows, up to a letter or digit. -/
theorem append_mem_kstar_hyphenated {hyphens : List Char} (read : ∀ c ∈ hyphens, c = '-')
    (each : ∀ c ∈ w, isAliasChar c = true)
    (last : ∀ c ∈ (hyphens ++ w).getLast?, c.isAlphanum = true) :
    hyphens ++ w ∈ hyphenated∗ := by
  induction w generalizing hyphens with
  | nil =>
    rcases List.eq_nil_or_concat hyphens with rfl | ⟨some, c, rfl⟩
    · exact Language.nil_mem_kstar _
    · have ending : c.isAlphanum = true := last c (by simp)
      rw [read c (by simp)] at ending
      cases ending
  | cons c w ih =>
    obtain ⟨first, others⟩ := List.forall_mem_cons.mp each
    simp only [isAliasChar, Bool.or_eq_true, beq_iff_eq] at first
    rcases first with letter | rfl
    · have part : hyphens ++ [c] ∈ hyphenated :=
        Language.append_mem_mul (mem_kstar_letters_iff.mpr (by simpa using read)) ⟨c, rfl, letter⟩
      have rest : [] ++ w ∈ hyphenated∗ :=
        ih nofun others fun d hd => last d (by simp_all [List.getLast?_cons, Option.mem_def])
      have inside : hyphenated * hyphenated∗ ≤ hyphenated∗ := mul_kstar_le_kstar
      have whole := inside (Language.append_mem_mul part rest)
      rwa [List.nil_append, List.append_assoc, List.singleton_append] at whole
    · have hyphen : ∀ c ∈ hyphens ++ ['-'], c = '-' :=
        List.forall_mem_append.mpr ⟨read, List.forall_mem_singleton.mpr rfl⟩
      have whole := ih hyphen others (by simpa using last)
      rwa [List.append_assoc, List.singleton_append] at whole

theorem mem_kstar_hyphenated_iff :
    w ∈ hyphenated∗ ↔
      (∀ c ∈ w, isAliasChar c = true) ∧ ∀ c ∈ w.getLast?, c.isAlphanum = true := by
  constructor
  · rintro ⟨parts, rfl, each⟩
    induction parts with
    | nil => simp
    | cons part parts ih =>
      obtain ⟨⟨hyphens, read, _, ⟨c, rfl, letter⟩, rfl⟩, others⟩ := List.forall_mem_cons.mp each
      obtain ⟨chars, last⟩ := ih others
      have hyphen : ∀ d ∈ hyphens, isAliasChar d = true := fun d hd => by
        have same := beq_iff_eq.mp (mem_kstar_letters_iff.mp read d hd)
        rw [same]
        rfl
      have whole : ((hyphens ++ [c]) :: parts).flatten = hyphens ++ c :: parts.flatten := by simp
      rw [whole]
      constructor
      · exact List.forall_mem_append.mpr
          ⟨hyphen, List.forall_mem_cons.mpr ⟨by simp [isAliasChar, letter], chars⟩⟩
      · intro d hd
        cases h : parts.flatten.getLast? with
        | none => simp_all [List.getLast?_append, List.getLast?_cons]
        | some e => simp_all [List.getLast?_append, List.getLast?_cons]
  · rintro ⟨each, last⟩
    have whole : [] ++ w ∈ hyphenated∗ := append_mem_kstar_hyphenated nofun each last
    exact whole

theorem mem_plus_mul_hyphenated_iff :
    w ∈ letters Char.isAlphanum * (letters Char.isAlphanum)∗ * hyphenated∗ ↔
      w.head?.any Char.isAlphanum = true ∧ w.getLast?.any Char.isAlphanum = true ∧
        ∀ c ∈ w, isAliasChar c = true := by
  have less : letters Char.isAlphanum ≤ hyphenated := le_mul_of_one_le_left' one_le_kstar
  rw [mul_assoc, kstar_mul_kstar_of_le less, mem_letters_mul_iff]
  cases w with
  | nil => simp
  | cons c w =>
    have letter : c.isAlphanum = true → isAliasChar c = true := fun h => by simp [isAliasChar, h]
    have last : (c :: w).getLast?.any Char.isAlphanum = true ∧ c.isAlphanum = true ↔
        (∀ d ∈ w.getLast?, d.isAlphanum = true) ∧ c.isAlphanum = true := by
      cases h : w.getLast? <;> simp [List.getLast?_cons, h]
    have parts : (∃ d v, c :: w = d :: v ∧ d.isAlphanum = true ∧ v ∈ hyphenated∗) ↔
        c.isAlphanum = true ∧ w ∈ hyphenated∗ := by simp
    rw [parts, mem_kstar_hyphenated_iff, List.forall_mem_cons, List.head?_cons, Option.any_some]
    tauto

theorem aliasExpression_matches_iff :
    aliasExpression.MatchesWhole s ↔ isAllowedAlias s = true := by
  have rest := denotes_letterOrDigit.plus.group.seq_closes
    ((denotes_char '-').star.seq denotes_letterOrDigit).group.star.seq_finish
  rw [MatchesWhole, aliasExpression, tests_start.matches_seq_iff,
    (tests_notAhead _).matches_seq_iff, begins_alt_iff, withHyphen_begins_iff,
    withHyphen_begins_iff, List.append_nil, hyphen, rest, ← hyphenated, mem_plus_mul_hyphenated_iff]
  have starts : ∀ t, Text.startsWith t s = false ↔ ¬ t.toList <+: s.toList := by
    simp [← Text.startsWith_iff]
  have allowed : isAllowedAlias s = true ↔
      ¬ ['d', '-'] <+: s.toList ∧ ¬ ['D', '-'] <+: s.toList ∧
        s.toList.head?.any Char.isAlphanum = true ∧ s.toList.getLast?.any Char.isAlphanum = true ∧
          ∀ c ∈ s.toList, isAliasChar c = true := by
    simp [isAllowedAlias, starts, and_assoc]
  rw [allowed]
  tauto

end DirectoryConstraint

namespace ResolverConstraint

open Pattern Expression

def nameExpression : Expression :=
  .seq .start (.seq
    (.notAhead (.seq .start (.seq (.repeated (.set false [.range '0' '9']) 1 none) .finish)))
    (.seq (.group (.repeated (.set false [.range 'a' 'z', .range 'A' 'Z', .range '0' '9',
      .single '-', .single '_', .single '\'', .single ' ', .single '\'']) 1 none)) .finish))

theorem read_namePattern :
    Expression.read namePattern.source = some nameExpression := by
  decide +kernel

theorem inSet_nameChars (c : Char) :
    inSet false [.range 'a' 'z', .range 'A' 'Z', .range '0' '9', .single '-', .single '_',
      .single '\'', .single ' ', .single '\''] c = isNameChar c := by
  rw [Bool.eq_iff_iff]
  simp [inSet, isNameChar, Text.isAlphanum_eq]
  tauto

theorem nameExpression_matches_iff {s : String} :
    nameExpression.MatchesWhole s ↔ isAllowedName s = true := by
  have digits : Expression.Denotes (.set false [.range '0' '9']) (letters Char.isDigit) :=
    denotes_set (by simp [inSet])
  have chars := denotes_set inSet_nameChars
  rw [MatchesWhole, nameExpression, tests_start.matches_seq_iff,
    (tests_notAhead _).matches_seq_iff, tests_start.begins_seq_iff,
    digits.plus.begins_finish_iff, chars.plus.group.seq_finish, List.append_nil]
  have allowed : isAllowedName s = true ↔
      s.toList ≠ [] ∧ ¬ (∀ c ∈ s.toList, c.isDigit = true) ∧
        ∀ c ∈ s.toList, isNameChar c = true := by
    simp [isAllowedName, and_assoc]
  rw [allowed, mem_plus_letters_iff, mem_plus_letters_iff]
  tauto

end ResolverConstraint

open DirectoryConstraint Pattern

theorem lookAhead_enforced :
    passwordPattern.Enforced ∧ aliasPattern.Enforced ∧ ResolverConstraint.namePattern.Enforced :=
  ⟨enforced_of_matches read_passwordPattern fun _ => passwordExpression_matches_iff,
    enforced_of_matches read_aliasPattern fun _ => aliasExpression_matches_iff,
    enforced_of_matches ResolverConstraint.read_namePattern fun _ =>
      ResolverConstraint.nameExpression_matches_iff⟩

end ControlPlane
