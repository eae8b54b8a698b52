import ControlPlane.Pattern.Basic
import Mathlib.Data.List.Basic

/-!
What texts regular expressions match: the letters that such texts have, texts that are given letter
by letter, and texts of letters of one kind.
-/

namespace ControlPlane.Regex

def occurs : Regex → Char → Bool
  | never, _ => false
  | empty, _ => false
  | chars p, c => p c
  | seq r s, c => r.occurs c || s.occurs c
  | alt r s, c => r.occurs c || s.occurs c
  | star r, c => r.occurs c

theorem Matches.occurs {r : Regex} {w : List Char} (h : Matches r w) :
    ∀ c ∈ w, r.occurs c = true := by
  induction h with
  | empty => exact fun _ hc => nomatch hc
  | chars hp => exact List.forall_mem_singleton.mpr hp
  | seq _ _ first second =>
    intro c hc
    rw [Regex.occurs, Bool.or_eq_true]
    exact (List.mem_append.mp hc).imp (first c) (second c)
  | altLeft _ left => exact fun c hc => Bool.or_eq_true_iff.mpr (Or.inl (left c hc))
  | altRight _ right => exact fun c hc => Bool.or_eq_true_iff.mpr (Or.inr (right c hc))
  | starNil => exact fun _ hc => nomatch hc
  | starCons _ _ first others =>
    exact fun c hc => (List.mem_append.mp hc).elim (first c) (others c)

theorem matches_times {p : Char → Bool} {cs : List Char} (h : ∀ c ∈ cs, p c = true) :
    Matches ((chars p).times cs.length) cs := by
  induction cs with
  | nil => exact .empty
  | cons c cs ih =>
    have rest := ih fun d hd => h d (List.mem_cons_of_mem c hd)
    exact .seq (.chars (h c List.mem_cons_self)) rest

theorem matches_literal (s : String) : Matches (literal s) s.toList := by
  rw [literal]
  induction s.toList with
  | nil => exact .empty
  | cons c cs ih =>
    have first : Matches (char c) [c] := .chars (beq_self_eq_true c)
    exact .seq first ih

variable {p : Char → Bool} {w : List Char}

theorem matches_star_chars_iff : Matches (.star (.chars p)) w ↔ ∀ c ∈ w, p c = true := by
  refine ⟨Matches.occurs, fun h => ?_⟩
  induction w with
  | nil => exact .starNil
  | cons c w ih =>
    have rest := ih fun d hd => h d (List.mem_cons_of_mem c hd)
    exact .starCons (.chars (h c List.mem_cons_self)) rest

theorem matches_plus_chars_iff :
    Matches (.plus (.chars p)) w ↔ w ≠ [] ∧ ∀ c ∈ w, p c = true := by
  constructor
  · intro h
    obtain ⟨first, rest, rfl, letter, letters⟩ := matches_seq_iff.mp h
    cases letter with
    | chars hc => exact ⟨List.cons_ne_nil _ _,
        List.forall_mem_cons.mpr ⟨hc, matches_star_chars_iff.mp letters⟩⟩
  · rintro ⟨some, h⟩
    cases w with
    | nil => exact absurd rfl some
    | cons c w =>
      obtain ⟨hc, letters⟩ := List.forall_mem_cons.mp h
      exact .seq (.chars hc) (matches_star_chars_iff.mpr letters)

end ControlPlane.Regex
