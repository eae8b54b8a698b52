import ControlPlane.Proofs.Resolver.Graph
import ControlPlane.Proofs.Resolver.Note

/-!
What the requests to a name resolver service and the answers to them tell of its endpoints, rules
and associations: after any requests the service has what they created and did not delete, in the
order of creation, whatever networks answered its questions.
-/

namespace ControlPlane.ResolverService

/-- What a request tells of the resources of a kind. A request that fails tells nothing. -/
def note (s : ResolverService) (kind : ResourceKind) (q : Request × (Nat → NetworkView)) : Note :=
  match (operations.serve s q.1.at_ q.1.action q.1.bag).answerAlong q.2 with
  | .ok (answer, _) => kind.note q.1.action q.1.bag answer
  | .error _ => .nothing

def notes (kind : ResourceKind) :
    ResolverService → List (Request × (Nat → NetworkView)) → List Note
  | _, [] => []
  | s, q :: rest => s.note kind q :: notes kind (s.after q) rest

theorem notes_concat (kind : ResourceKind) (s : ResolverService)
    (qs : List (Request × (Nat → NetworkView))) (q : Request × (Nat → NetworkView)) :
    notes kind s (qs ++ [q]) = notes kind s qs ++ [(qs.foldl after s).note kind q] := by
  induction qs generalizing s with
  | nil => rfl
  | cons first rest ih => rw [List.cons_append, notes, ih, notes, List.foldl_cons, List.cons_append]

theorem noted_after (s : ResolverService) (q : Request × (Nat → NetworkView)) :
    Noted s (s.after q) fun kind => s.note kind q := by
  have outcome := Lookup.answerAlong_mem_outcomes (fun n => Set.mem_univ (q.2 n))
    (operations.serve s q.1.at_ q.1.action q.1.bag)
  simp only [after, note]
  cases served : (operations.serve s q.1.at_ q.1.action q.1.bag).answerAlong q.2 with
  | error e => exact ⟨rfl, rfl, rfl⟩
  | ok answered =>
    obtain ⟨answer, s'⟩ := answered
    rw [served] at outcome
    obtain ⟨op, input, output, hop, -, ran, rfl⟩ := Catalog.exists_of_mem_outcomes_serve outcome
    exact noted_of_run hop ran q.1.bag

/-- The ids of what there is, in the order in which it was created. -/
structure Recounted (s : ResolverService) (notes : ResourceKind → List Note) : Prop where
  endpoints : s.endpoints.keys = Note.live (notes .endpoint)
  rules : s.rules.keys = Note.live (notes .rule)
  associations : s.associations.keys = Note.live (notes .association)

theorem recounted_run (scope : Scope) (quotas : ResolverQuotas)
    (qs : List (Request × (Nat → NetworkView))) :
    Recounted (run scope quotas qs) fun kind => notes kind (empty scope quotas) qs := by
  induction qs using List.reverseRecOn with
  | nil => exact ⟨rfl, rfl, rfl⟩
  | append_singleton qs q ih =>
    have noted := noted_after (run scope quotas qs) q
    rw [run_concat]
    simp only [notes_concat]
    constructor
    · rw [noted.endpoints, ih.endpoints, Note.live_concat]
      rfl
    · rw [noted.rules, ih.rules, Note.live_concat]
      rfl
    · rw [noted.associations, ih.associations, Note.live_concat]
      rfl

end ControlPlane.ResolverService
