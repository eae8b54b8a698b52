import ControlPlane.Proofs.Pattern
import ControlPlane.Proofs.Pattern.Expression
import Mathlib.Computability.Language
import Mathlib.Order.CompletePartialOrder

/-!
The languages of patterns. A regular expression has a language, and so has a part of a documented
expression that does not look around itself; the two are compared as languages, in the algebra of
product, sum and star. A part that consumes nothing is a test of what surrounds it, and where
nothing can follow, an expression that ends with the end of the text has the language of what
stands before.
-/

open scoped Computability

namespace ControlPlane

def letters (p : Char → Bool) : Language Char := {w | ∃ c, w = [c] ∧ p c = true}

theorem mem_letters_iff {p : Char → Bool} {w : List Char} :
    w ∈ letters p ↔ ∃ c, w = [c] ∧ p c = true := Iff.rfl

theorem letters_mono {p q : Char → Bool} (h : ∀ c, p c = true → q c = true) :
    letters p ≤ letters q := by
  rintro w ⟨c, rfl, hc⟩
  exact ⟨c, rfl, h c hc⟩

theorem mem_pow_letters_iff {p : Char → Bool} {n : Nat} {w : List Char} :
    w ∈ letters p ^ n ↔ w.length = n ∧ ∀ c ∈ w, p c = true := by
  induction n generalizing w with
  | zero => simp +contextual
  | succ n ih =>
    rw [pow_succ', Language.mem_mul]
    constructor
    · rintro ⟨_, ⟨c, rfl, hc⟩, v, hv, rfl⟩
      obtain ⟨size, all⟩ := ih.mp hv
      exact ⟨by simp [size], List.forall_mem_cons.mpr ⟨hc, all⟩⟩
    · rintro ⟨size, all⟩
      cases w with
      | nil => simp at size
      | cons c w =>
        obtain ⟨hc, rest⟩ := List.forall_mem_cons.mp all
        exact ⟨[c], ⟨c, rfl, hc⟩, w, ih.mpr ⟨by simpa using size, rest⟩, rfl⟩

theorem mem_kstar_iff_exists_pow {l : Language Char} {w : List Char} :
    w ∈ l∗ ↔ ∃ n, w ∈ l ^ n := by
  simp only [Language.mem_kstar, Language.mem_pow]
  constructor
  · rintro ⟨parts, whole, each⟩
    exact ⟨parts.length, parts, whole, rfl, each⟩
  · rintro ⟨_, parts, whole, _, each⟩
    exact ⟨parts, whole, each⟩

theorem mem_kstar_letters_iff {p : Char → Bool} {w : List Char} :
    w ∈ (letters p)∗ ↔ ∀ c ∈ w, p c = true := by
  simp [mem_kstar_iff_exists_pow, mem_pow_letters_iff]

def lettersBetween (p : Char → Bool) (least : Nat) (greatest : Option Nat) : Language Char :=
  {w | least ≤ w.length ∧ (∀ most ∈ greatest, w.length ≤ most) ∧ ∀ c ∈ w, p c = true}

theorem mem_lettersBetween_iff {p : Char → Bool} {least : Nat} {greatest : Option Nat}
    {w : List Char} : w ∈ lettersBetween p least greatest ↔
      least ≤ w.length ∧ (∀ most ∈ greatest, w.length ≤ most) ∧ ∀ c ∈ w, p c = true := Iff.rfl

theorem mem_letters_mul_iff {p : Char → Bool} {l : Language Char} {w : List Char} :
    w ∈ letters p * l ↔ ∃ c v, w = c :: v ∧ p c = true ∧ v ∈ l := by
  rw [Language.mem_mul]
  constructor
  · rintro ⟨_, ⟨c, rfl, hc⟩, v, hv, rfl⟩
    exact ⟨c, v, rfl, hc, hv⟩
  · rintro ⟨c, v, rfl, hc, hv⟩
    exact ⟨[c], ⟨c, rfl, hc⟩, v, hv, rfl⟩

theorem mem_plus_letters_iff {p : Char → Bool} {w : List Char} :
    w ∈ letters p * (letters p)∗ ↔ w ≠ [] ∧ ∀ c ∈ w, p c = true := by
  rw [mem_letters_mul_iff]
  constructor
  · rintro ⟨c, v, rfl, hc, hv⟩
    exact ⟨List.cons_ne_nil c v, List.forall_mem_cons.mpr ⟨hc, mem_kstar_letters_iff.mp hv⟩⟩
  · rintro ⟨some, all⟩
    obtain ⟨c, v, rfl⟩ := List.exists_cons_of_ne_nil some
    obtain ⟨hc, hv⟩ := List.forall_mem_cons.mp all
    exact ⟨c, v, rfl, hc, mem_kstar_letters_iff.mpr hv⟩

theorem kstar_mul_kstar_of_le {l m : Language Char} (h : l ≤ m) : l∗ * m∗ = m∗ := by
  apply le_antisymm
  · calc l∗ * m∗ ≤ m∗ * m∗ := by gcongr
      _ = m∗ := kstar_mul_kstar m
  · calc m∗ = 1 * m∗ := (one_mul _).symm
      _ ≤ l∗ * m∗ := by gcongr; exact one_le_kstar

namespace Regex

def language (r : Regex) : Language Char := {w | Matches r w}

theorem mem_language_iff {r : Regex} {w : List Char} : w ∈ r.language ↔ Matches r w := Iff.rfl

theorem language_chars (p : Char → Bool) : (chars p).language = letters p := by
  ext w
  rw [mem_language_iff, mem_letters_iff]
  constructor
  · intro h
    cases h with
    | chars hp => exact ⟨_, rfl, hp⟩
  · rintro ⟨c, rfl, hp⟩
    exact .chars hp

theorem language_empty : empty.language = 1 := by
  ext w
  rw [mem_language_iff, matches_empty_iff, Language.mem_one]

theorem language_seq (r s : Regex) : (seq r s).language = r.language * s.language := by
  ext w
  rw [mem_language_iff, matches_seq_iff, Language.mem_mul]
  constructor
  · rintro ⟨u, v, rfl, hu, hv⟩
    exact ⟨u, hu, v, hv, rfl⟩
  · rintro ⟨u, hu, v, hv, rfl⟩
    exact ⟨u, v, rfl, hu, hv⟩

theorem language_alt (r s : Regex) : (alt r s).language = r.language + s.language := by
  ext w
  rw [mem_language_iff, matches_alt_iff, Language.mem_add, mem_language_iff, mem_language_iff]

theorem Matches.mem_kstar {r : Regex} {w : List Char} (h : Matches (.star r) w) :
    w ∈ r.language∗ := by
  generalize hs : star r = s at h
  induction h with
  | starNil => exact Language.nil_mem_kstar _
  | @starCons r' v w first _ _ rest =>
    cases hs
    have step : v ++ w ∈ r.language * r.language∗ :=
      Language.append_mem_mul (mem_language_iff.mpr first) (rest rfl)
    have inside : r.language * r.language∗ ≤ r.language∗ := mul_kstar_le_kstar
    exact inside step
  | _ => simp at hs

theorem language_star (r : Regex) : (star r).language = r.language∗ := by
  ext w
  refine ⟨Matches.mem_kstar, ?_⟩
  rintro ⟨parts, rfl, each⟩
  rw [mem_language_iff]
  induction parts with
  | nil => exact .starNil
  | cons part parts ih =>
    obtain ⟨first, rest⟩ := List.forall_mem_cons.mp each
    exact .starCons first (ih rest)

theorem language_plus (r : Regex) : (plus r).language = r.language * r.language∗ := by
  rw [plus, language_seq, language_star]

theorem language_optional (r : Regex) : (optional r).language = 1 + r.language := by
  rw [optional, language_alt, language_empty]

theorem language_times (r : Regex) (n : Nat) : (r.times n).language = r.language ^ n := by
  induction n with
  | zero => rw [times, language_empty, pow_zero]
  | succ n ih => rw [times, language_seq, ih, pow_succ']

theorem language_char (c : Char) : (char c).language = letters (· == c) := language_chars _

end Regex

namespace Pattern.Expression

variable {e f : Expression} {l m : Language Char} {p q : List Char → List Char → Prop}
variable {before w after : List Char}

/-- The expression matches the texts of the language, whatever stands around them. -/
def Denotes (e : Expression) (l : Language Char) : Prop :=
  ∀ before w after, e.Matches before w after ↔ w ∈ l

/-- The expression consumes nothing and tests what is before and what is after. -/
def Tests (e : Expression) (p : List Char → List Char → Prop) : Prop :=
  ∀ before w after, e.Matches before w after ↔ w = [] ∧ p before after

/-- Where nothing follows, the expression matches the texts of the language. -/
def Closes (e : Expression) (l : Language Char) : Prop :=
  ∀ before w, e.Matches before w [] ↔ w ∈ l

def Begins (e : Expression) (before text : List Char) : Prop :=
  ∃ u v, text = u ++ v ∧ e.Matches before u v

theorem Denotes.begins_iff (he : e.Denotes l) :
    e.Begins before after ↔ ∃ u v, after = u ++ v ∧ u ∈ l := by
  simp only [Begins, he _ _ _]

theorem begins_alt_iff :
    (alt e f).Begins before after ↔ e.Begins before after ∨ f.Begins before after := by
  simp only [Begins, Matches, and_or_left, exists_or]

theorem denotes_wild : wild.Denotes (letters (· != '\n')) := by
  intro before w after
  simp only [Matches, mem_letters_iff, bne_iff_ne]

theorem denotes_set {isNegated : Bool} {items : List ClassItem} {p : Char → Bool}
    (h : ∀ c, inSet isNegated items c = p c) : (set isNegated items).Denotes (letters p) := by
  intro before w after
  simp only [Matches, mem_letters_iff, h]

theorem denotes_char (c : Char) : (set false [.single c]).Denotes (letters (· == c)) :=
  denotes_set (by simp [inSet])

theorem Denotes.seq (he : e.Denotes l) (hf : f.Denotes m) :
    (Expression.seq e f).Denotes (l * m) := by
  intro before w after
  simp only [Matches, he _ _ _, hf _ _ _, Language.mem_mul]
  constructor
  · rintro ⟨u, v, rfl, hu, hv⟩
    exact ⟨u, hu, v, hv, rfl⟩
  · rintro ⟨u, hu, v, hv, rfl⟩
    exact ⟨u, v, rfl, hu, hv⟩

theorem Denotes.alt (he : e.Denotes l) (hf : f.Denotes m) :
    (Expression.alt e f).Denotes (l + m) := by
  intro before w after
  rw [Matches, he, hf, Language.mem_add]

theorem Denotes.group (he : e.Denotes l) : (Expression.group e).Denotes l := he

theorem Denotes.iterated (he : e.Denotes l) (n : Nat) :
    Iterated e.Matches n before w after ↔ w ∈ l ^ n := by
  induction n generalizing before w with
  | zero => rw [Iterated, pow_zero, Language.mem_one]
  | succ n ih =>
    simp only [Iterated, he _ _ _, ih, pow_succ', Language.mem_mul]
    constructor
    · rintro ⟨u, v, rfl, hu, hv⟩
      exact ⟨u, hu, v, hv, rfl⟩
    · rintro ⟨u, hu, v, hv, rfl⟩
      exact ⟨u, v, rfl, hu, hv⟩

theorem Denotes.repeated_iff (he : e.Denotes l) {least : Nat} {greatest : Option Nat} :
    (Expression.repeated e least greatest).Matches before w after ↔
      ∃ n, least ≤ n ∧ (∀ most ∈ greatest, n ≤ most) ∧ w ∈ l ^ n := by
  simp only [Matches, he.iterated]

theorem Denotes.lettersBetween {p : Char → Bool} (he : e.Denotes (letters p)) (least : Nat)
    (greatest : Option Nat) :
    (Expression.repeated e least greatest).Denotes (lettersBetween p least greatest) := by
  intro before w after
  simp only [he.repeated_iff, mem_pow_letters_iff, mem_lettersBetween_iff]
  constructor
  · rintro ⟨_, some, most, rfl, all⟩
    exact ⟨some, most, all⟩
  · rintro ⟨some, most, all⟩
    exact ⟨w.length, some, most, rfl, all⟩

theorem Denotes.star (he : e.Denotes l) : (Expression.repeated e 0 none).Denotes l∗ := by
  intro before w after
  rw [he.repeated_iff, mem_kstar_iff_exists_pow]
  simp

theorem Denotes.plus (he : e.Denotes l) :
    (Expression.repeated e 1 none).Denotes (l * l∗) := by
  intro before w after
  rw [he.repeated_iff, Language.mem_mul]
  constructor
  · rintro ⟨n, some, -, h⟩
    obtain ⟨k, rfl⟩ := Nat.exists_eq_add_of_le' some
    rw [pow_succ', Language.mem_mul] at h
    obtain ⟨u, hu, v, hv, rfl⟩ := h
    exact ⟨u, hu, v, mem_kstar_iff_exists_pow.mpr ⟨k, hv⟩, rfl⟩
  · rintro ⟨u, hu, v, hv, rfl⟩
    obtain ⟨k, hk⟩ := mem_kstar_iff_exists_pow.mp hv
    have h : u ++ v ∈ l ^ (k + 1) := pow_succ' l k ▸ Language.append_mem_mul hu hk
    exact ⟨k + 1, Nat.le_add_left 1 k, nofun, h⟩

theorem Denotes.optional (he : e.Denotes l) :
    (Expression.repeated e 0 (some 1)).Denotes (1 + l) := by
  intro before w after
  rw [he.repeated_iff, Language.mem_add]
  constructor
  · rintro ⟨n, -, most, h⟩
    have few : n = 0 ∨ n = 1 := by
      have := most 1 rfl
      omega
    rcases few with rfl | rfl
    · exact .inl h
    · exact .inr (by simpa using h)
  · rintro (h | h)
    · exact ⟨0, le_rfl, by simp, h⟩
    · exact ⟨1, Nat.zero_le 1, by simp, by simpa using h⟩

theorem Denotes.times (he : e.Denotes l) (n : Nat) :
    (Expression.repeated e n (some n)).Denotes (l ^ n) := by
  intro before w after
  rw [he.repeated_iff]
  constructor
  · rintro ⟨k, least, most, h⟩
    have same : k = n := le_antisymm (most n rfl) least
    exact same ▸ h
  · intro h
    exact ⟨n, le_rfl, by simp, h⟩

theorem tests_start : start.Tests fun before _ => before = [] := fun _ _ _ => Iff.rfl

theorem tests_ahead (e : Expression) : (ahead e).Tests e.Begins := fun _ _ _ => Iff.rfl

theorem tests_notAhead (e : Expression) :
    (notAhead e).Tests fun before after => ¬ e.Begins before after := fun _ _ _ => Iff.rfl

theorem Tests.matches_seq_iff (he : e.Tests p) :
    (Expression.seq e f).Matches before w after ↔
      p before (w ++ after) ∧ f.Matches before w after := by
  simp only [Matches, he _ _ _]
  constructor
  · rintro ⟨_, v, rfl, ⟨rfl, hp⟩, hf⟩
    exact ⟨hp, by simpa using hf⟩
  · rintro ⟨hp, hf⟩
    exact ⟨[], w, rfl, ⟨rfl, hp⟩, by simpa using hf⟩

theorem Tests.begins_seq_iff (he : e.Tests p) :
    (Expression.seq e f).Begins before after ↔ p before after ∧ f.Begins before after := by
  simp only [Begins, he.matches_seq_iff]
  constructor
  · rintro ⟨u, v, rfl, hp, hf⟩
    exact ⟨hp, u, v, rfl, hf⟩
  · rintro ⟨hp, u, v, rfl, hf⟩
    exact ⟨u, v, rfl, hp, hf⟩

theorem Tests.seq (he : e.Tests p) (hf : f.Tests q) :
    (Expression.seq e f).Tests fun before after => p before after ∧ q before after := by
  intro before w after
  rw [he.matches_seq_iff, hf]
  constructor
  · rintro ⟨hp, rfl, hq⟩
    exact ⟨rfl, hp, hq⟩
  · rintro ⟨rfl, hp, hq⟩
    exact ⟨hp, rfl, hq⟩

theorem Tests.alt (he : e.Tests p) (hf : f.Tests q) :
    (Expression.alt e f).Tests fun before after => p before after ∨ q before after := by
  intro before w after
  rw [Matches, he, hf, and_or_left]

theorem Tests.group (he : e.Tests p) : (Expression.group e).Tests p := he

theorem closes_finish : finish.Closes 1 := by
  intro before w
  simp [Matches]

theorem Denotes.seq_closes (he : e.Denotes l) (hf : f.Closes m) :
    (Expression.seq e f).Closes (l * m) := by
  intro before w
  simp only [Matches, he _ _ _, hf _ _, Language.mem_mul]
  constructor
  · rintro ⟨u, v, rfl, hu, hv⟩
    exact ⟨u, hu, v, hv, rfl⟩
  · rintro ⟨u, hu, v, hv, rfl⟩
    exact ⟨u, v, rfl, hu, hv⟩

theorem Denotes.seq_finish (he : e.Denotes l) : (Expression.seq e finish).Closes l := by
  have h := he.seq_closes closes_finish
  rwa [mul_one] at h

theorem Denotes.begins_finish_iff (he : e.Denotes l) :
    (Expression.seq e finish).Begins before w ↔ w ∈ l := by
  constructor
  · rintro ⟨u, v, rfl, u', v', rfl, matched, rfl, rfl⟩
    simpa using (he _ _ _).mp matched
  · intro h
    exact ⟨w, [], (List.append_nil w).symm, (he.seq_finish before w).mpr h⟩

end Pattern.Expression

namespace Pattern

open Expression

theorem enforced_of_matches {p : Pattern} {e : Expression}
    (read : Expression.read p.source = some e)
    (same : ∀ s, e.MatchesWhole s ↔ p.accepts s = true) : p.Enforced :=
  ⟨e, read, fun s => (same s).symm⟩

theorem accepts_ofRegex_iff {source s : String} {r : Regex} :
    (ofRegex source r).accepts s = true ↔ s.toList ∈ r.language :=
  Regex.accepts_iff

/-- A pattern that has been translated is enforced if the source, after the beginning of the text,
has the language of the translation. -/
theorem enforced_of_closes {source : String} {r : Regex} {e : Expression}
    (read : Expression.read source = some (.seq .start e)) (same : e.Closes r.language) :
    (ofRegex source r).Enforced := by
  refine enforced_of_matches read fun s => ?_
  rw [MatchesWhole, tests_start.matches_seq_iff, same, accepts_ofRegex_iff]
  exact and_iff_right rfl

end Pattern

end ControlPlane
