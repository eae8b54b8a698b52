import ControlPlane.Ipv4.Cidr
import ControlPlane.Proofs.Numeral
import Mathlib.Logic.Function.Basic

/-!
The written form of an IPv4 address. An octet is read from its decimal numeral and from nothing
else, so an address is read from its own text and from nothing else: each text denotes at most one
address, and each address has one text. A block is read back from its text too, though it may be
written in other ways.
-/

namespace ControlPlane

namespace Text

theorem splitAt_of_not_mem {separator : Char} {cs : List Char} (h : separator ∉ cs) :
    splitAt separator cs = [cs] := by
  induction cs with
  | nil => rfl
  | cons c rest ih =>
    have hc : c ≠ separator := fun hc => h (hc ▸ List.mem_cons_self)
    simp [splitAt, ih (fun hr => h (List.mem_cons_of_mem c hr)), hc]

theorem splitAt_append_cons {separator : Char} {cs : List Char} (rest : List Char)
    (h : separator ∉ cs) :
    splitAt separator (cs ++ separator :: rest) = cs :: splitAt separator rest := by
  induction cs with
  | nil =>
    cases hs : splitAt separator rest with
    | nil => exact absurd hs (splitAt_ne_nil separator rest)
    | cons part parts => simp [splitAt, hs]
  | cons c cs ih =>
    have hc : c ≠ separator := fun hc => h (hc ▸ List.mem_cons_self)
    simp [splitAt, ih (fun hr => h (List.mem_cons_of_mem c hr)), hc]

end Text

namespace Ipv4

theorem readOctet_toDigits {n : Nat} (h : n < 256) : readOctet (Nat.toDigits 10 n) = some n := by
  revert n
  decide +kernel

theorem readOctet_eq_some_iff {cs : List Char} {n : Nat} :
    readOctet cs = some n ↔ n < 256 ∧ cs = Nat.toDigits 10 n := by
  refine ⟨?_, ?_⟩
  · intro h
    simp only [readOctet] at h
    split at h
    · cases h
    · rename_i hform
      simp only [Option.filter_eq_some_iff, decide_eq_true_eq, Text.readDigits_eq_some_iff] at h
      obtain ⟨⟨hne, hdigits, hvalue⟩, hle⟩ := h
      refine ⟨by omega, ?_⟩
      rw [← hvalue, Text.toDigits_ofDigitChars hdigits hne fun hl hz => hform (Or.inr ⟨hl, hz⟩)]
  · intro ⟨hn, same⟩
    rw [same]
    exact readOctet_toDigits hn

theorem not_mem_toDigits {n : Nat} : '.' ∉ Nat.toDigits 10 n := by
  intro h
  have digit := Nat.isDigit_of_mem_toDigits (by decide) (by decide) h
  exact absurd digit (by decide)

def dotted (a b c d : Nat) : List Char :=
  Nat.toDigits 10 a ++ '.' :: (Nat.toDigits 10 b ++ '.' :: (Nat.toDigits 10 c ++ '.' ::
    Nat.toDigits 10 d))

theorem toList_text (a : Ipv4) :
    a.text.toList = dotted (a.octet 0) (a.octet 1) (a.octet 2) (a.octet 3) := by
  simp [text, dotted]

theorem splitAt_dotted (a b c d : Nat) :
    Text.splitAt '.' (dotted a b c d) =
      [Nat.toDigits 10 a, Nat.toDigits 10 b, Nat.toDigits 10 c, Nat.toDigits 10 d] := by
  rw [dotted, Text.splitAt_append_cons _ not_mem_toDigits,
    Text.splitAt_append_cons _ not_mem_toDigits, Text.splitAt_append_cons _ not_mem_toDigits,
    Text.splitAt_of_not_mem not_mem_toDigits]

theorem octet_ofOctets {a b c d : Nat} (ha : a < 256) (hb : b < 256) (hc : c < 256)
    (hd : d < 256) :
    (ofOctets a b c d).octet 0 = a ∧ (ofOctets a b c d).octet 1 = b ∧
      (ofOctets a b c d).octet 2 = c ∧ (ofOctets a b c d).octet 3 = d := by
  simp only [octet, ofOctets, ofNat]
  omega

theorem parse?_text (a : Ipv4) : parse? a.text = some a := by
  rw [parse?, parseChars, toList_text, splitAt_dotted]
  simp only [readOctet_toDigits (octet_lt a _), ofOctets_octet]

theorem parse?_eq_some_iff {s : String} {a : Ipv4} : parse? s = some a ↔ s = a.text := by
  refine ⟨?_, ?_⟩
  · intro h
    simp only [parse?, parseChars] at h
    split at h
    · rename_i p q r t hs
      split at h
      · rename_i w x y z hp hq hr ht
        obtain ⟨hw, rfl⟩ := readOctet_eq_some_iff.mp hp
        obtain ⟨hx, rfl⟩ := readOctet_eq_some_iff.mp hq
        obtain ⟨hy, rfl⟩ := readOctet_eq_some_iff.mp hr
        obtain ⟨hz, rfl⟩ := readOctet_eq_some_iff.mp ht
        obtain ⟨h0, h1, h2, h3⟩ := octet_ofOctets hw hx hy hz
        have whole := Text.intercalate_splitAt '.' s.toList
        rw [hs] at whole
        cases h
        apply String.toList_injective
        rw [toList_text, h0, h1, h2, h3, ← whole]
        simp [dotted, List.intercalate]
      · cases h
    · cases h
  · intro same
    rw [same]
    exact parse?_text a

theorem text_injective : Function.Injective text := by
  intro a b h
  have reads := parse?_text a
  rw [h, parse?_text] at reads
  exact (Option.some.inj reads).symm

/-- Two texts of one address are one text. -/
theorem eq_of_parse?_eq {s t : String} {a : Ipv4} (hs : parse? s = some a)
    (ht : parse? t = some a) : s = t :=
  (parse?_eq_some_iff.mp hs).trans (parse?_eq_some_iff.mp ht).symm

theorem not_mem_text {c : Char} (digit : c.isDigit = false) (point : c ≠ '.') (a : Ipv4) :
    c ∉ a.text.toList := by
  have numeral : ∀ n, c ∉ Nat.toDigits 10 n := by
    intro n h
    rw [Nat.isDigit_of_mem_toDigits (by decide) (by decide) h] at digit
    cases digit
  simp [toList_text, dotted, numeral, point]

end Ipv4

namespace Cidr

theorem readPrefix_toDigits {length : Nat} (h : length ≤ 32) :
    readPrefix (Nat.toDigits 10 length) = some length := by
  have number : Ipv4.parseChars (Nat.toDigits 10 length) = none := by
    rw [Ipv4.parseChars, Text.splitAt_of_not_mem Ipv4.not_mem_toDigits]
  have written : String.ofList (Nat.toDigits 10 length) = toString length := rfl
  have fits : length ≤ Text.greatestWord8 := Nat.le_trans h (by decide)
  simp only [readPrefix, number, written, Text.readBounded_toString fits]

theorem parse?_text (c : Cidr) : parse? c.text = some c := by
  have slash : '/' ∉ c.address.text.toList := Ipv4.not_mem_text (by decide) (by decide) c.address
  have digits : '/' ∉ Nat.toDigits 10 c.prefixLength := fun h =>
    absurd (Nat.isDigit_of_mem_toDigits (by decide) (by decide) h) (by decide)
  have written : c.text.toList =
      c.address.text.toList ++ '/' :: Nat.toDigits 10 c.prefixLength := by
    simp [text]
  have address : Ipv4.parseChars c.address.text.toList = some c.address :=
    Ipv4.parse?_text c.address
  rw [parse?, written, Text.splitAt_append_cons _ slash, Text.splitAt_of_not_mem digits]
  simp only [address, readPrefix_toDigits c.le, ofParts, dif_pos c.le]

end Cidr

end ControlPlane
