import ControlPlane.Text.Numeral
import Mathlib.Tactic.Common

/-!
Decimal numerals read back. Zeros on the left change nothing, and a number that has no more digits
than the width it is padded to takes up exactly that width. What is read as a number is its numeral,
with zeros before it and with a plus sign before those at most.
-/

namespace ControlPlane.Text

variable {width n : Nat}

theorem isDigit_of_mem_padLeft {c : Char} (h : c ∈ padLeft width '0' (Nat.toDigits 10 n)) :
    c.isDigit = true := by
  rcases List.mem_append.mp h with zero | digit
  · rw [List.eq_of_mem_replicate zero]
    rfl
  · exact Nat.isDigit_of_mem_toDigits (by decide) (by decide) digit

theorem padLeft_ne_nil (width n : Nat) : padLeft width '0' (Nat.toDigits 10 n) ≠ [] :=
  List.append_ne_nil_of_right_ne_nil _ Nat.toDigits_ne_nil

theorem readDigits_padLeft : readDigits (padLeft width '0' (Nat.toDigits 10 n)) = some n := by
  refine readDigits_eq_some_iff.mpr ⟨padLeft_ne_nil width n, fun c h => isDigit_of_mem_padLeft h, ?_⟩
  rw [padLeft, Nat.ofDigitChars_append, Nat.ofDigitChars_replicate_zero, Nat.mul_zero]
  exact Nat.ofDigitChars_toDigits (by decide) (by decide)

theorem length_padLeft_toDigits (positive : 0 < width) (small : n < 10 ^ width) :
    (padLeft width '0' (Nat.toDigits 10 n)).length = width := by
  rw [length_padLeft]
  exact Nat.max_eq_left ((Nat.length_toDigits_le_iff (by decide) positive).mpr small)

theorem toList_decimalPadded :
    (decimalPadded width n).toList = padLeft width '0' (Nat.toDigits 10 n) :=
  String.toList_ofList

theorem readDigits_toDigits (n : Nat) : readDigits (Nat.toDigits 10 n) = some n := by
  rw [readDigits_eq_some_iff]
  refine ⟨Nat.toDigits_ne_nil, ?_, Nat.ofDigitChars_toDigits (by decide) (by decide)⟩
  exact fun c hc => Nat.isDigit_of_mem_toDigits (by decide) (by decide) hc

theorem readBounded_toString {greatest n : Nat} (h : n ≤ greatest) :
    readBounded greatest (toString n) = some n := by
  have digits : (toString n).toList = Nat.toDigits 10 n := by
    rw [Nat.toString_eq_repr, Nat.toList_repr]
  simp only [readBounded, digits]
  -- A numeral does not start with a plus sign, so all of it is read as digits.
  split
  · rename_i rest same
    have plus : '+' ∈ Nat.toDigits 10 n := same ▸ List.mem_cons_self
    exact absurd (Nat.isDigit_of_mem_toDigits (by decide) (by decide) plus) (by decide)
  · rw [readDigits_toDigits, Option.filter_some, if_pos (decide_eq_true h)]

theorem digitChar_of_isDigit {c : Char} (h : c.isDigit = true) :
    Nat.digitChar (c.toNat - '0'.toNat) = c ∧ c.toNat - '0'.toNat < 10 := by
  have range : 48 ≤ c.toNat ∧ c.toNat ≤ 57 := by
    simp only [Char.isDigit, Bool.and_eq_true, decide_eq_true_eq] at h
    exact h
  have zero : '0'.toNat = 48 := rfl
  rw [zero]
  refine ⟨?_, by omega⟩
  apply Char.toNat_inj.mp
  rw [Nat.toNat_digitChar_of_lt_ten (by omega)]
  omega

theorem toDigits_append_of_isDigit {cs : List Char} (h : ∀ c ∈ cs, c.isDigit = true) {n : Nat}
    (hn : 0 < n) : Nat.toDigits 10 n ++ cs = Nat.toDigits 10 (Nat.ofDigitChars 10 cs n) := by
  induction cs generalizing n with
  | nil => simp
  | cons c cs ih =>
    obtain ⟨hc, hlt⟩ := digitChar_of_isDigit (h c List.mem_cons_self)
    have step := Nat.toDigits_append_toDigits (b := 10) (by decide) hn hlt
    rw [Nat.toDigits_of_lt_base hlt, hc] at step
    rw [Nat.ofDigitChars_cons, ← ih (fun d hd => h d (List.mem_cons_of_mem c hd)) (by omega), ← step,
      List.append_assoc, List.singleton_append]

theorem toDigits_ofDigitChars {cs : List Char} (h : ∀ c ∈ cs, c.isDigit = true) (hne : cs ≠ [])
    (hz : cs.length > 1 → cs.head? ≠ some '0') :
    Nat.toDigits 10 (Nat.ofDigitChars 10 cs 0) = cs := by
  cases cs with
  | nil => exact absurd rfl hne
  | cons c cs =>
    obtain ⟨hc, hlt⟩ := digitChar_of_isDigit (h c List.mem_cons_self)
    rw [Nat.ofDigitChars_cons]
    simp only [Nat.mul_zero, Nat.zero_add]
    cases cs with
    | nil => rw [Nat.ofDigitChars_nil, Nat.toDigits_of_lt_base hlt, hc]
    | cons d ds =>
      have positive : 0 < c.toNat - '0'.toNat := by
        rcases Nat.eq_zero_or_pos (c.toNat - '0'.toNat) with h0 | h0
        · rw [h0] at hc
          exact absurd (congrArg some hc.symm) (hz (by simp))
        · exact h0
      rw [← toDigits_append_of_isDigit (fun e he => h e (List.mem_cons_of_mem c he)) positive,
        Nat.toDigits_of_lt_base hlt, hc]
      rfl

theorem readDigits_eq_some_iff_zeros {cs : List Char} :
    readDigits cs = some n ↔ ∃ zeros, cs = List.replicate zeros '0' ++ Nat.toDigits 10 n := by
  constructor
  · intro read
    obtain ⟨some, digits, value⟩ := readDigits_eq_some_iff.mp read
    clear read
    induction cs with
    | nil => exact absurd rfl some
    | cons c rest ih =>
      by_cases leading : c = '0' ∧ rest ≠ []
      · obtain ⟨rfl, more⟩ := leading
        rw [Nat.ofDigitChars_cons] at value
        obtain ⟨zeros, same⟩ := ih more (fun d hd => digits d (List.mem_cons_of_mem _ hd)) value
        exact ⟨zeros + 1, by rw [same, List.replicate_succ, List.cons_append]⟩
      · refine ⟨0, ?_⟩
        have first : (c :: rest).length > 1 → (c :: rest).head? ≠ Option.some '0' := by
          intro long zero
          refine leading ⟨Option.some.inj zero, ?_⟩
          rintro rfl
          exact Nat.lt_irrefl 1 long
        rw [← value, toDigits_ofDigitChars digits some first]
        rfl
  · rintro ⟨zeros, rfl⟩
    have padded : List.replicate zeros '0' ++ Nat.toDigits 10 n =
        padLeft (zeros + (Nat.toDigits 10 n).length) '0' (Nat.toDigits 10 n) := by
      rw [padLeft, Nat.add_sub_cancel]
    rw [padded, readDigits_padLeft]

/-- A decimal as a caller may write it: one plus sign or none, zeros, and then the numeral. -/
def IsDecimal (s : String) (n : Nat) : Prop :=
  ∃ sign zeros, (sign = [] ∨ sign = ['+']) ∧
    s.toList = sign ++ (List.replicate zeros '0' ++ Nat.toDigits 10 n)

theorem plus_not_mem_numeral (zeros n : Nat) :
    '+' ∉ List.replicate zeros '0' ++ Nat.toDigits 10 n := by
  intro plus
  rcases List.mem_append.mp plus with zero | digit
  · exact absurd (List.eq_of_mem_replicate zero) (by decide)
  · exact absurd (Nat.isDigit_of_mem_toDigits (by decide) (by decide) digit) (by decide)

theorem readBounded_eq_some_iff {greatest : Nat} {s : String} :
    readBounded greatest s = some n ↔ IsDecimal s n ∧ n ≤ greatest := by
  simp only [readBounded, Option.filter_eq_some_iff, decide_eq_true_eq, readDigits_eq_some_iff_zeros]
  refine and_congr_left fun _ => ⟨?_, ?_⟩
  · rintro ⟨zeros, read⟩
    split at read
    · rename_i rest plus
      exact ⟨['+'], zeros, Or.inr rfl, plus.trans (congrArg ('+' :: ·) read)⟩
    · exact ⟨[], zeros, Or.inl rfl, read⟩
  · rintro ⟨sign, zeros, rfl | rfl, written⟩
    · refine ⟨zeros, ?_⟩
      split
      · rename_i rest plus
        have first : '+' ∈ s.toList := plus ▸ List.mem_cons_self
        exact absurd (written ▸ first) (plus_not_mem_numeral zeros n)
      · exact written
    · exact ⟨zeros, by rw [written]; rfl⟩

end ControlPlane.Text
