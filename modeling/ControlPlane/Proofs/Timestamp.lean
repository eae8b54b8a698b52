import ControlPlane.Proofs.Numeral
import ControlPlane.Timestamp.Reader
import Mathlib.Data.List.TakeWhile

/-!
A moment of time is read back from its text: each reader takes up exactly what was written for its
part and leaves the rest. White space is never written, so none is skipped.
-/

namespace ControlPlane

namespace Text

theorem isWhiteSpace_eq_false_of_isDigit {c : Char} (h : c.isDigit = true) :
    isWhiteSpace c = false := by
  have range : 48 ≤ c.toNat ∧ c.toNat ≤ 57 := by
    simp only [Char.isDigit, Bool.and_eq_true, decide_eq_true_eq] at h
    exact h
  rw [Bool.eq_false_iff]
  intro space
  obtain ⟨r, listed, inside⟩ := inRanges_iff.mp space
  simp only [whiteSpaceRanges, List.mem_cons, List.not_mem_nil, or_false] at listed
  rcases listed with rfl | rfl | rfl | rfl | rfl | rfl | rfl | rfl | rfl | rfl <;> omega

end Text

namespace Timestamp

variable {width n : Nat} {rest : List Char}

theorem skipSpace_cons {c : Char} (h : Text.isWhiteSpace c = false) :
    skipSpace (c :: rest) = c :: rest :=
  List.dropWhile_cons_of_neg (by rw [h]; decide)

theorem skipSpace_numeral :
    skipSpace (Text.padLeft width '0' (Nat.toDigits 10 n) ++ rest) =
      Text.padLeft width '0' (Nat.toDigits 10 n) ++ rest := by
  obtain ⟨c, cs, same⟩ := List.exists_cons_of_ne_nil (Text.padLeft_ne_nil width n)
  have digit : c.isDigit = true := Text.isDigit_of_mem_padLeft (same ▸ List.mem_cons_self)
  rw [same, List.cons_append]
  exact skipSpace_cons (Text.isWhiteSpace_eq_false_of_isDigit digit)

theorem expect_cons {sign : Char} (h : Text.isWhiteSpace sign = false) :
    expect sign (sign :: rest) = some rest := by
  rw [expect, skipSpace_cons h]
  exact if_pos rfl

theorem takeWhile_numeral :
    (Text.padLeft width '0' (Nat.toDigits 10 n)).takeWhile Char.isDigit =
      Text.padLeft width '0' (Nat.toDigits 10 n) :=
  List.takeWhile_eq_self_iff.mpr fun _ h => Text.isDigit_of_mem_padLeft h

theorem readShort_numeral (positive : 0 < width) (small : n < 10 ^ width) :
    readShort width (Text.padLeft width '0' (Nat.toDigits 10 n) ++ rest) = some (n, rest) := by
  have long := Text.length_padLeft_toDigits positive small
  rw [readShort, List.take_left' long, takeWhile_numeral, Text.readDigits_padLeft, Option.map_some,
    List.drop_left]

theorem readTwo_numeral (small : n < 100) :
    readTwo (Text.padLeft 2 '0' (Nat.toDigits 10 n) ++ rest) = some (n, rest) := by
  rw [readTwo, skipSpace_numeral]
  exact readShort_numeral (by decide) small

theorem readLong_numeral {c : Char} (ends : c.isDigit = false) :
    readLong (Text.padLeft width '0' (Nat.toDigits 10 n) ++ c :: rest) = some (n, c :: rest) := by
  have digits : ∀ d ∈ Text.padLeft width '0' (Nat.toDigits 10 n), d.isDigit = true :=
    fun _ h => Text.isDigit_of_mem_padLeft h
  have stop : ¬ c.isDigit = true := by rw [ends]; decide
  rw [readLong, List.takeWhile_append_of_pos digits, List.dropWhile_append_of_pos digits,
    List.takeWhile_cons_of_neg stop, List.dropWhile_cons_of_neg stop, List.append_nil,
    Text.readDigits_padLeft]
  rfl

theorem readYear_digit {c : Char} (digit : c.isDigit = true) :
    readYear (c :: rest) = (readShort 4 (c :: rest)).map fun (n, rest) => ((n : Int), rest) := by
  have unsigned : c ≠ '-' ∧ c ≠ '+' := by
    constructor <;> (rintro rfl; exact absurd digit (by decide))
  rw [readYear, skipSpace_cons (Text.isWhiteSpace_eq_false_of_isDigit digit)]
  split
  · rename_i same
    exact absurd (List.head_eq_of_cons_eq same) unsigned.1
  · rename_i same
    exact absurd (List.head_eq_of_cons_eq same) unsigned.2
  · rfl

theorem readYear_numeral (small : n < 10 ^ 4) :
    readYear (Text.padLeft 4 '0' (Nat.toDigits 10 n) ++ rest) = some ((n : Int), rest) := by
  have read : readShort 4 (Text.padLeft 4 '0' (Nat.toDigits 10 n) ++ rest) = some (n, rest) :=
    readShort_numeral (by decide) small
  obtain ⟨c, cs, same⟩ := List.exists_cons_of_ne_nil (Text.padLeft_ne_nil 4 n)
  have digit : c.isDigit = true := Text.isDigit_of_mem_padLeft (same ▸ List.mem_cons_self)
  rw [same, List.cons_append] at read ⊢
  rw [readYear_digit digit, read]
  rfl

theorem readYear_minus {cs : List Char} (h : readLong cs = some (n, rest)) :
    readYear ('-' :: cs) = some (-(n : Int), rest) := by
  change (readLong cs).map _ = _
  rw [h]
  rfl

theorem readYear_plus {cs : List Char} (h : readLong cs = some (n, rest)) :
    readYear ('+' :: cs) = some ((n : Int), rest) := by
  change (readLong cs).map _ = _
  rw [h]
  rfl

theorem readYear_text (year : Int) :
    readYear ((Date.yearText year).toList ++ '-' :: rest) = some (year, '-' :: rest) := by
  have long : readLong (Text.padLeft 4 '0' (Nat.toDigits 10 year.natAbs) ++ '-' :: rest) =
      some (year.natAbs, '-' :: rest) := readLong_numeral (by decide)
  by_cases four : 0 ≤ year ∧ year ≤ 9999
  · have same : (year.natAbs : Int) = year := by omega
    rw [Date.yearText, if_pos four, Text.toList_decimalPadded, readYear_numeral (by omega), same]
  · rw [Date.yearText, if_neg four, String.toList_append, Text.toList_decimalPadded,
      List.append_assoc]
    by_cases negative : year < 0
    · have same : -(year.natAbs : Int) = year := by omega
      have sign : "-".toList = ['-'] := rfl
      rw [if_pos negative, sign, List.singleton_append, readYear_minus long, same]
    · have same : (year.natAbs : Int) = year := by omega
      have sign : "+".toList = ['+'] := rfl
      rw [if_neg negative, sign, List.singleton_append, readYear_plus long, same]

theorem daysIn_le (year : Int) (month : Nat) : daysIn year month ≤ 31 := by
  rw [daysIn]
  split
  · split <;> decide
  · split <;> decide

theorem readDate_text {d : Date} (valid : d.IsValid) :
    readDate (d.text.toList ++ rest) = some (d, rest) := by
  obtain ⟨-, ⟨-, month⟩, -, day⟩ := valid
  have last := daysIn_le d.year d.month
  have month : d.month < 100 := by omega
  have day : d.day < 100 := by omega
  have sign : Text.isWhiteSpace '-' = false := by decide
  have written : d.text.toList ++ rest =
      (Date.yearText d.year).toList ++ '-' :: (Text.padLeft 2 '0' (Nat.toDigits 10 d.month) ++
        '-' :: (Text.padLeft 2 '0' (Nat.toDigits 10 d.day) ++ rest)) := by
    simp [Date.text, Text.toList_decimalPadded]
  rw [written]
  simp only [readDate, readYear_text, expect_cons sign, readTwo_numeral month, readTwo_numeral day,
    Option.bind_eq_bind, Option.bind_some]
  rfl

theorem takeWhile_take_numeral (positive : 0 < width) (small : n < 10 ^ width) (nine : width ≤ 9)
    {c : Char} (ends : c.isDigit = false) :
    ((Text.padLeft width '0' (Nat.toDigits 10 n) ++ c :: rest).take 9).takeWhile Char.isDigit =
      Text.padLeft width '0' (Nat.toDigits 10 n) := by
  have long := Text.length_padLeft_toDigits positive small
  have stop : ∀ k, ((c :: rest).take k).takeWhile Char.isDigit = [] := by
    intro k
    cases k with
    | zero => rfl
    | succ k => exact List.takeWhile_cons_of_neg (by rw [ends]; decide)
  rw [List.take_append, List.take_of_length_le (by omega),
    List.takeWhile_append_of_pos fun _ h => Text.isDigit_of_mem_padLeft h, stop, List.append_nil]

theorem readFraction_numeral (positive : 0 < width) (small : n < 10 ^ width) (nine : width ≤ 9)
    {c : Char} (ends : c.isDigit = false) :
    readFraction ('.' :: (Text.padLeft width '0' (Nat.toDigits 10 n) ++ c :: rest)) =
      some (n * 10 ^ (9 - width), c :: rest) := by
  have stop : ¬ c.isDigit = true := by rw [ends]; decide
  rw [readFraction]
  simp only [takeWhile_take_numeral positive small nine ends, Text.readDigits_padLeft,
    Option.map_some, Text.length_padLeft_toDigits positive small]
  rw [List.dropWhile_append_of_pos fun _ h => Text.isDigit_of_mem_padLeft h,
    List.dropWhile_cons_of_neg stop]

theorem readFraction_text (small : n < 10 ^ 9) :
    readFraction ((TimeOfDay.fractionText n).toList ++ 'Z' :: rest) = some (n, 'Z' :: rest) := by
  have ends : 'Z'.isDigit = false := by decide
  rw [TimeOfDay.fractionText]
  by_cases none : n = 0
  · rw [if_pos none, none]
    rfl
  · rw [if_neg none]
    by_cases milli : n % 10 ^ 6 = 0
    · rw [if_pos milli, String.toList_append, Text.toList_decimalPadded]
      refine (readFraction_numeral (by decide) (by omega) (by decide) ends).trans ?_
      have same : n / 10 ^ 6 * 10 ^ (9 - 3) = n := by omega
      rw [same]
    · rw [if_neg milli]
      by_cases micro : n % 10 ^ 3 = 0
      · rw [if_pos micro, String.toList_append, Text.toList_decimalPadded]
        refine (readFraction_numeral (by decide) (by omega) (by decide) ends).trans ?_
        have same : n / 10 ^ 3 * 10 ^ (9 - 6) = n := by omega
        rw [same]
      · rw [if_neg micro, String.toList_append, Text.toList_decimalPadded]
        refine (readFraction_numeral (by decide) small (by decide) ends).trans ?_
        rw [Nat.sub_self, Nat.pow_zero, Nat.mul_one]

theorem readTimeOfDay_text {t : TimeOfDay} (valid : t.IsValid) :
    readTimeOfDay (t.text.toList ++ 'Z' :: rest) = some (t, 'Z' :: rest) := by
  obtain ⟨hour, minute, second, nanosecond⟩ := valid
  have hour : t.hour < 100 := by omega
  have minute : t.minute < 100 := by omega
  have second : t.second < 100 := by omega
  have sign : Text.isWhiteSpace ':' = false := by decide
  have written : t.text.toList ++ 'Z' :: rest =
      Text.padLeft 2 '0' (Nat.toDigits 10 t.hour) ++ ':' ::
        (Text.padLeft 2 '0' (Nat.toDigits 10 t.minute) ++ ':' ::
          (Text.padLeft 2 '0' (Nat.toDigits 10 t.second) ++
            ((TimeOfDay.fractionText t.nanosecond).toList ++ 'Z' :: rest))) := by
    simp [TimeOfDay.text, Text.toList_decimalPadded]
  rw [written]
  simp only [readTimeOfDay, expect_cons sign, readTwo_numeral hour, readTwo_numeral minute,
    readTwo_numeral second, readFraction_text nanosecond, Option.bind_eq_bind, Option.bind_some]
  rfl

theorem parse?_text (t : Timestamp) : parse? t.text = some t := by
  have written : t.text.toList = t.date.text.toList ++ 'T' :: (t.time.text.toList ++ 'Z' :: []) := by
    simp [text]
  rw [parse?, written]
  simp only [readChars, readDate_text t.date_valid, readTimeOfDay_text t.time_valid, true_or, if_true,
    Option.bind_eq_bind, Option.bind_some]
  exact ofLocal?_zero t

end Timestamp

end ControlPlane
