import ControlPlane.Proofs.Region.Ledger
import ControlPlane.Proofs.Region.Listing

/-!
Tours through a listing of a region that goes on changing. A tour asks for one page after the other,
each from the place that the page before has told, until a page tells none; between two pages
anything may happen. Here is what all listings have in common; what a tour has seen in the end
depends on what a place stands for.
-/

namespace ControlPlane

namespace Note

theorem prefix_apply {ids : List String} {n : Note} (h : ∀ id, ¬Ends id n) :
    ids <+: apply ids n := by
  cases n with
  | came id => exact List.prefix_append _ _
  | put id =>
    rw [apply]
    split
    · exact List.prefix_refl _
    · exact List.prefix_append _ _
  | went id => exact absurd (Or.inl rfl) (h id)
  | cleared => exact absurd (Or.inr rfl) (h "")
  | nothing => exact List.prefix_refl _

end Note

theorem ResourceKind.not_ends_note {kind : ResourceKind} {action : String}
    (other : action ∉ kind.deletions) (bag answer : Json) (id : String) :
    ¬(kind.note action bag answer).Ends id := by
  rw [note]
  split
  · cases kind.createdId bag answer with
    | none => simp [Note.told, Note.Ends]
    | some created => cases kind <;> simp [Note.told, begin, Note.Ends]
  · simp [Note.Ends]

namespace Region

variable {r : Region} {kind : ResourceKind}

/-- A step that takes away no resource of a kind: it neither asks to delete one nor resets the
service that keeps them. -/
def Step.Spares (kind : ResourceKind) : Step → Prop
  | .request _ service action _ => service = kind.service → action ∉ kind.deletions
  | .reset service => service ≠ kind.service
  | .restart => False

instance (kind : ResourceKind) : DecidablePred (Step.Spares kind)
  | .request _ service action _ =>
    inferInstanceAs (Decidable (service = kind.service → action ∉ kind.deletions))
  | .reset service => inferInstanceAs (Decidable (service ≠ kind.service))
  | .restart => inferInstanceAs (Decidable False)

theorem Step.Spares.not_ends {step : Step} (h : step.Spares kind) (r : Region) (id : String) :
    ¬(r.note kind step).Ends id := by
  cases step with
  | request at_ service action bag =>
    rw [note]
    split
    · rename_i same
      split
      · exact kind.not_ends_note (h same) bag _ id
      · simp [Note.Ends]
    · simp [Note.Ends]
  | reset service =>
    rw [note, if_neg h]
    simp [Note.Ends]
  | restart => exact h.elim

theorem keys_prefix_after {step : Step} (h : step.Spares kind) (r : Region) :
    r.keys kind <+: (r.after step).keys kind := by
  rw [keys_after]
  exact Note.prefix_apply (h.not_ends r)

/-- One stop of a tour: the limit that a page is asked for with, and what happens before the next
page is asked for. -/
structure Visit where
  limit : Option Nat
  between : List Step

def Visit.Suits (kind : ResourceKind) (v : Visit) : Prop :=
  kind.access.Admits v.limit ∧ ∀ step ∈ v.between, step.Spares kind

def stages (r : Region) : List Step → List Region
  | [] => [r]
  | step :: rest => r :: (r.after step).stages rest

theorem self_mem_stages (r : Region) (steps : List Step) : r ∈ r.stages steps := by
  cases steps with
  | nil => exact List.mem_singleton_self r
  | cons step rest => exact List.mem_cons_self

theorem getLast?_stages (r : Region) (steps : List Step) :
    (r.stages steps).getLast? = some (steps.foldl after r) := by
  induction steps generalizing r with
  | nil => rfl
  | cons step rest ih =>
    rw [stages, List.getLast?_cons, ih]
    rfl

/-- What a tour sees at one stop: the region, its answer, and all that becomes of the region until
the next page is asked for. -/
structure Sight (ε α : Type) where
  region : Region
  answer : Except ε (Page α)
  moments : List Region

namespace Sight

variable {ε α : Type}

def items (s : Sight ε α) : List α :=
  match s.answer with
  | .ok p => p.items
  | .error _ => []

theorem items_ok (r : Region) (p : Page α) (moments : List Region) :
    (⟨r, .ok p, moments⟩ : Sight ε α).items = p.items := rfl

def next (s : Sight ε α) : Option String :=
  match s.answer with
  | .ok p => p.next
  | .error _ => none

def isLast (s : Sight ε α) : Bool :=
  match s.answer with
  | .ok p => p.next.isNone
  | .error _ => false

end Sight

/-- Asks for a page at each stop, as long as the page before tells from where. -/
def tour {ε α : Type} (ask : Region → Option Nat → Option String → Except ε (Page α)) :
    Region → Option String → List Visit → List (Sight ε α)
  | _, _, [] => []
  | r, place, visit :: rest =>
    match ask r visit.limit place with
    | .ok ⟨items, some next⟩ =>
      ⟨r, .ok ⟨items, some next⟩, r.stages visit.between⟩ ::
        tour ask (visit.between.foldl after r) (some next) rest
    | answer => [⟨r, answer, [r]⟩]

def collected {ε α : Type} (sights : List (Sight ε α)) : List α := sights.flatMap Sight.items

def Finished {ε α : Type} (sights : List (Sight ε α)) : Prop := ∃ s ∈ sights, s.isLast = true

instance {ε α : Type} (sights : List (Sight ε α)) : Decidable (Finished sights) :=
  inferInstanceAs (Decidable (∃ s ∈ sights, s.isLast = true))

section Tours

variable {ε α : Type} {ask : Region → Option Nat → Option String → Except ε (Page α)}
  {place : Option String} {visit : Visit} {rest : List Visit}

theorem tour_of_onward {items : List α} {next : String}
    (h : ask r visit.limit place = .ok ⟨items, some next⟩) :
    tour ask r place (visit :: rest) =
      ⟨r, .ok ⟨items, some next⟩, r.stages visit.between⟩ ::
        tour ask (visit.between.foldl after r) (some next) rest := by
  rw [tour, h]

theorem tour_of_last (h : ∀ p, ask r visit.limit place = .ok p → p.next = none) :
    tour ask r place (visit :: rest) = [⟨r, ask r visit.limit place, [r]⟩] := by
  rw [tour]
  split
  · rename_i items next answer
    cases h _ answer
  · rfl

theorem tour_cases (ask : Region → Option Nat → Option String → Except ε (Page α)) (r : Region)
    (place : Option String) (visit : Visit) :
    (∃ items next, ask r visit.limit place = .ok ⟨items, some next⟩) ∨
      ∀ p, ask r visit.limit place = .ok p → p.next = none := by
  cases ask r visit.limit place with
  | error e => exact Or.inr fun _ same => nomatch same
  | ok p =>
    obtain ⟨items, next⟩ := p
    cases next with
    | none =>
      right
      rintro _ ⟨⟩
      rfl
    | some next => exact Or.inl ⟨items, next, rfl⟩

theorem exists_mem_tour_cons (ask : Region → Option Nat → Option String → Except ε (Page α))
    (r : Region) (place : Option String) (visit : Visit) (rest : List Visit) :
    ∃ s ∈ tour ask r place (visit :: rest), s.region = r := by
  rcases tour_cases ask r place visit with ⟨items, next, answer⟩ | last
  · rw [tour_of_onward answer]
    exact ⟨_, List.mem_cons_self, rfl⟩
  · rw [tour_of_last last]
    exact ⟨_, List.mem_cons_self, rfl⟩

theorem exists_asked_of_mem_tour {visits : List Visit} {s : Sight ε α}
    (h : s ∈ tour ask r place visits) :
    ∃ v ∈ visits, ∃ place', s.answer = ask s.region v.limit place' := by
  induction visits generalizing r place with
  | nil => cases h
  | cons visit rest ih =>
    rcases tour_cases ask r place visit with ⟨items, next, answer⟩ | last
    · rw [tour_of_onward answer, List.mem_cons] at h
      rcases h with rfl | later
      · exact ⟨visit, List.mem_cons_self, place, answer.symm⟩
      · obtain ⟨v, hv, asked⟩ := ih later
        exact ⟨v, List.mem_cons_of_mem _ hv, asked⟩
    · rw [tour_of_last last, List.mem_singleton] at h
      rw [h]
      exact ⟨visit, List.mem_cons_self, place, rfl⟩

theorem collected_cons (s : Sight ε α) (sights : List (Sight ε α)) :
    collected (s :: sights) = s.items ++ collected sights := List.flatMap_cons

theorem collected_singleton (s : Sight ε α) : collected [s] = s.items := List.flatMap_singleton _ _

theorem finished_cons_iff {s : Sight ε α} {sights : List (Sight ε α)} :
    Finished (s :: sights) ↔ s.isLast = true ∨ Finished sights := by
  simp only [Finished, List.mem_cons, exists_eq_or_imp]

theorem mem_collected_iff {sights : List (Sight ε α)} {a : α} :
    a ∈ collected sights ↔ ∃ s ∈ sights, a ∈ s.items := List.mem_flatMap

end Tours

end Region

end ControlPlane
