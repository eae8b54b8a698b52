/-!
Regular expressions over characters. `Matches r w` says that the whole text `w` is in the language
of `r`; `accepts` decides it one character at a time, taking derivatives. Products and sums of
trivial factors are not built, so that the derivatives of the expressions used here stay small.
-/

namespace ControlPlane

inductive Regex where
  | never
  | empty
  | chars (p : Char → Bool)
  | seq (r s : Regex)
  | alt (r s : Regex)
  | star (r : Regex)

namespace Regex

inductive Matches : Regex → List Char → Prop where
  | empty : Matches .empty []
  | chars {p : Char → Bool} {c : Char} : p c = true → Matches (.chars p) [c]
  | seq {r s : Regex} {v w : List Char} : Matches r v → Matches s w → Matches (.seq r s) (v ++ w)
  | altLeft {r s : Regex} {w : List Char} : Matches r w → Matches (.alt r s) w
  | altRight {r s : Regex} {w : List Char} : Matches s w → Matches (.alt r s) w
  | starNil {r : Regex} : Matches (.star r) []
  | starCons {r : Regex} {v w : List Char} :
      Matches r v → Matches (.star r) w → Matches (.star r) (v ++ w)

def char (c : Char) : Regex := .chars (· == c)

def literal (s : String) : Regex :=
  s.toList.foldr (fun c r => .seq (char c) r) .empty

def plus (r : Regex) : Regex := .seq r (.star r)

def optional (r : Regex) : Regex := .alt .empty r

def times (r : Regex) : Nat → Regex
  | 0 => .empty
  | n + 1 => .seq r (r.times n)

def atLeast (r : Regex) (n : Nat) : Regex := .seq (r.times n) (.star r)

def nullable : Regex → Bool
  | .never => false
  | .empty => true
  | .chars _ => false
  | .seq r s => r.nullable && s.nullable
  | .alt r s => r.nullable || s.nullable
  | .star _ => true

def product : Regex → Regex → Regex
  | .never, _ => .never
  | _, .never => .never
  | .empty, s => s
  | r, s => .seq r s

def sum : Regex → Regex → Regex
  | .never, s => s
  | r, .never => r
  | r, s => .alt r s

def derivative (c : Char) : Regex → Regex
  | .never => .never
  | .empty => .never
  | .chars p => if p c then .empty else .never
  | .seq r s =>
    if r.nullable then sum (product (derivative c r) s) (derivative c s)
    else product (derivative c r) s
  | .alt r s => sum (derivative c r) (derivative c s)
  | .star r => product (derivative c r) (.star r)

def acceptsChars : Regex → List Char → Bool
  | r, [] => r.nullable
  | r, c :: w => acceptsChars (derivative c r) w

def accepts (r : Regex) (s : String) : Bool := r.acceptsChars s.toList

theorem matches_empty_iff {w : List Char} : Matches .empty w ↔ w = [] :=
  ⟨fun h => by cases h; rfl, fun h => h ▸ .empty⟩

theorem not_matches_never {w : List Char} : ¬ Matches .never w := fun h => by cases h

theorem matches_seq_iff {r s : Regex} {w : List Char} :
    Matches (.seq r s) w ↔ ∃ u v, w = u ++ v ∧ Matches r u ∧ Matches s v :=
  ⟨fun h => by cases h with | seq hr hs => exact ⟨_, _, rfl, hr, hs⟩,
    fun ⟨_, _, hw, hr, hs⟩ => hw ▸ .seq hr hs⟩

theorem matches_alt_iff {r s : Regex} {w : List Char} :
    Matches (.alt r s) w ↔ Matches r w ∨ Matches s w :=
  ⟨fun h => by
    cases h with
    | altLeft h => exact .inl h
    | altRight h => exact .inr h,
    fun h => h.elim .altLeft .altRight⟩

theorem matches_product_iff {r s : Regex} {w : List Char} :
    Matches (product r s) w ↔ Matches (.seq r s) w := by
  unfold product
  split
  · simp [matches_seq_iff, not_matches_never]
  · simp [matches_seq_iff, not_matches_never]
  · simp only [matches_seq_iff, matches_empty_iff]
    exact ⟨fun h => ⟨[], w, rfl, rfl, h⟩, fun ⟨_, _, hw, hu, hv⟩ => by simpa [hw, hu] using hv⟩
  · rfl

theorem matches_sum_iff {r s : Regex} {w : List Char} :
    Matches (sum r s) w ↔ Matches (.alt r s) w := by
  unfold sum
  split
  · simp [matches_alt_iff, not_matches_never]
  · simp [matches_alt_iff, not_matches_never]
  · rfl

theorem nullable_iff {r : Regex} : r.nullable = true ↔ Matches r [] := by
  induction r with
  | never => simp [nullable, not_matches_never]
  | empty => simp [nullable, matches_empty_iff]
  | chars p => simp only [nullable, Bool.false_eq_true, false_iff]; intro h; cases h
  | seq r s ihr ihs =>
    simp only [nullable, Bool.and_eq_true, ihr, ihs, matches_seq_iff, List.nil_eq,
      List.append_eq_nil_iff]
    exact ⟨fun h => ⟨[], [], ⟨rfl, rfl⟩, h.1, h.2⟩,
      fun ⟨_, _, ⟨hu, hv⟩, h⟩ => ⟨hu ▸ h.1, hv ▸ h.2⟩⟩
  | alt r s ihr ihs => simp [nullable, ihr, ihs, matches_alt_iff]
  | star r _ => simp [nullable, Matches.starNil]

theorem exists_of_matches_star_cons {r : Regex} {c : Char} {w : List Char}
    (h : Matches (.star r) (c :: w)) :
    ∃ u v, w = u ++ v ∧ Matches r (c :: u) ∧ Matches (.star r) v := by
  generalize hs : Regex.star r = s at h
  generalize hw : c :: w = cw at h
  induction h generalizing w with
  | starNil => simp at hw
  | @starCons r' v w' hr hstar _ ih =>
    cases hs
    cases v with
    | nil => exact ih rfl (by simpa using hw)
    | cons d v =>
      simp only [List.cons_append, List.cons.injEq] at hw
      obtain ⟨rfl, rfl⟩ := hw
      exact ⟨v, w', rfl, hr, hstar⟩
  | _ => simp at hs

theorem matches_derivative_iff {r : Regex} {c : Char} {w : List Char} :
    Matches (derivative c r) w ↔ Matches r (c :: w) := by
  induction r generalizing w with
  | never => simp [derivative, not_matches_never]
  | empty => simp [derivative, not_matches_never, matches_empty_iff]
  | chars p =>
    simp only [derivative]
    split
    · rename_i hp
      exact ⟨fun h => by cases h; exact .chars hp, fun h => by cases h; exact .empty⟩
    · rename_i hp
      refine ⟨fun h => absurd h not_matches_never, fun h => ?_⟩
      cases h with
      | chars hc => exact absurd hc hp
  | alt r s ihr ihs => simp [derivative, matches_sum_iff, matches_alt_iff, ihr, ihs]
  | seq r s ihr ihs =>
    have left : Matches (product (derivative c r) s) w ↔
        ∃ u v, w = u ++ v ∧ Matches r (c :: u) ∧ Matches s v := by
      simp [matches_product_iff, matches_seq_iff, ihr]
    have whole : Matches (.seq r s) (c :: w) ↔
        (∃ u v, w = u ++ v ∧ Matches r (c :: u) ∧ Matches s v) ∨
          (Matches r [] ∧ Matches s (c :: w)) := by
      rw [matches_seq_iff]
      constructor
      · rintro ⟨u, v, hw, hr, hs⟩
        cases u with
        | nil => exact .inr ⟨hr, by simpa using hw ▸ hs⟩
        | cons d u =>
          simp only [List.cons_append, List.cons.injEq] at hw
          obtain ⟨rfl, rfl⟩ := hw
          exact .inl ⟨u, v, rfl, hr, hs⟩
      · rintro (⟨u, v, rfl, hr, hs⟩ | ⟨hr, hs⟩)
        · exact ⟨c :: u, v, rfl, hr, hs⟩
        · exact ⟨[], c :: w, rfl, hr, hs⟩
    simp only [derivative]
    rw [whole]
    split
    · rename_i hn
      rw [matches_sum_iff, matches_alt_iff, left, ihs]
      simp [nullable_iff.mp hn]
    · rename_i hn
      rw [left]
      exact ⟨.inl, fun h => h.elim id fun h => absurd (nullable_iff.mpr h.1) hn⟩
  | star r ih =>
    simp only [derivative, matches_product_iff, matches_seq_iff, ih]
    constructor
    · rintro ⟨u, v, rfl, hr, hs⟩
      exact .starCons hr hs
    · exact exists_of_matches_star_cons

theorem acceptsChars_iff {r : Regex} {w : List Char} :
    r.acceptsChars w = true ↔ Matches r w := by
  induction w generalizing r with
  | nil => simp [acceptsChars, nullable_iff]
  | cons c w ih => rw [acceptsChars, ih, matches_derivative_iff]

/-- The decision by derivatives is right: it accepts exactly the texts that match as a whole. -/
theorem accepts_iff {r : Regex} {s : String} : r.accepts s = true ↔ Matches r s.toList :=
  acceptsChars_iff

end Regex

end ControlPlane
