import ControlPlane.Delivery.Operations
import ControlPlane.Proofs.Operation
import ControlPlane.Proofs.Registry
import Mathlib.Data.List.Induction

/-!
What a request can do to the delivery stream service.
-/

namespace ControlPlane.DeliveryService

variable {s s' : DeliveryService} {at_ : Moment} {name : String}

theorem runChecks_eq_ok_iff {cs : List Check} {u : Unit} :
    runChecks cs = .ok u ↔ ∀ c ∈ cs, c.broken = none := by
  rw [runChecks, mapError_eq_ok_iff, validate_eq_ok_iff]

theorem stream_eq_ok_iff {t : DeliveryStream} :
    s.stream name = .ok t ↔ s.streams.get? name = some t := by
  rw [stream]
  cases s.streams.get? name <;> simp

def newStream (s : DeliveryService) (at_ : Moment) (input : CreateStream)
    (source : Option StreamSource) (destination : Destination) : DeliveryStream :=
  { name := input.name
    arn := s.arn input.name
    status := "ACTIVE"
    type := typeOf input
    version := "1"
    createTime := at_.now
    source := source
    destinations := [destination]
    hasMoreDestinations := false }

theorem exists_chooseSource_iff {type : String} {now : Timestamp}
    {configuration : Option SourceConfiguration} :
    (∃ source, chooseSource type now configuration = .ok source) ↔
      (configuration.isSome ↔ type = streamAsSource) := by
  cases configuration with
  | some c => by_cases reads : type = streamAsSource <;> simp [chooseSource, reads]
  | none => by_cases reads : type = streamAsSource <;> simp [chooseSource, reads]

theorem createStream_eq_ok_iff {input : CreateStream} {t : DeliveryStream} :
    s.createStream at_ input = .ok (t, s') ↔
      runChecks (streamChecks input) = .ok () ∧ s.streams.contains input.name = false ∧
        s.streams.size < s.quotas.streams ∧
        ∃ source destination, chooseSource (typeOf input) at_.now input.source = .ok source ∧
          chooseDestination input.destinations = .ok destination ∧
          Tag.validate input.tags s.quotas.tagsPerStream = .ok () ∧
          t = s.newStream at_ input source destination ∧
          s' = { s with streams := s.streams.insert t, tags := s.tags.tag t.arn input.tags } := by
  rw [createStream, pass_eq_ok_iff]
  simp only [guard_eq_ok_iff, bind_eq_ok_iff, pure_eq_ok_iff, Prod.mk.injEq, Bool.not_eq_true,
    Nat.not_le, mapError_eq_ok_iff]
  refine ⟨?_, ?_⟩
  · intro ⟨checked, free, room, source, hs, destination, hd, _, valid, same, state⟩
    exact ⟨checked, free, room, source, destination, hs, hd, valid, same.symm, same ▸ state.symm⟩
  · intro ⟨checked, free, room, source, destination, hs, hd, valid, same, state⟩
    subst same
    exact ⟨checked, free, room, source, hs, destination, hd, (), valid, rfl, state.symm⟩

theorem deleteStream_eq_ok_iff {u : Unit} :
    s.deleteStream name = .ok (u, s') ↔
      ∃ t, s.streams.get? name = some t ∧
        s' = { s with streams := s.streams.remove name, tags := s.tags.clear t.arn } := by
  simp only [deleteStream, bind_eq_ok_iff, stream_eq_ok_iff, pure_eq_ok_iff, Prod.mk.injEq,
    true_and, eq_comm (a := s')]

theorem tagStream_eq_ok_iff {input : TagStream} {u : Unit} :
    s.tagStream input = .ok (u, s') ↔
      ∃ t, s.streams.get? input.name = some t ∧
        Tag.validate input.tags s.quotas.tagsPerStream = .ok () ∧
        (s.tags.tags t.arn).length + Tag.addedCount (s.tags.tags t.arn) input.tags ≤
          s.quotas.tagsPerStream ∧
        s' = { s with tags := s.tags.tag t.arn input.tags } := by
  simp only [tagStream, bind_eq_ok_iff, stream_eq_ok_iff, guard_eq_ok_iff, pure_eq_ok_iff,
    Prod.mk.injEq, true_and, mapError_eq_ok_iff, Nat.not_lt, gt_iff_lt, eq_comm (a := s')]
  refine ⟨?_, ?_⟩
  · intro ⟨t, found, _, valid, room, state⟩
    exact ⟨t, found, valid, room, state⟩
  · intro ⟨t, found, valid, room, state⟩
    exact ⟨t, found, (), valid, room, state⟩

theorem untagStream_eq_ok_iff {input : UntagStream} {u : Unit} :
    s.untagStream input = .ok (u, s') ↔
      ∃ t, s.streams.get? input.name = some t ∧
        s' = { s with tags := s.tags.untag t.arn input.keys } := by
  simp only [untagStream, bind_eq_ok_iff, stream_eq_ok_iff, pure_eq_ok_iff, Prod.mk.injEq, true_and,
    eq_comm (a := s')]

/-- What can become of the service when a request is served. -/
inductive Change (s : DeliveryService) : DeliveryService → Prop where
  | looked : Change s s
  | created (t : DeliveryStream) (tags : List Tag) (free : s.streams.contains t.name = false)
    (room : s.streams.size < s.quotas.streams) (arn : t.arn = s.arn t.name)
    (valid : Tag.validate tags s.quotas.tagsPerStream = .ok ()) :
    Change s { s with streams := s.streams.insert t, tags := s.tags.tag t.arn tags }
  | deleted (t : DeliveryStream) (live : s.streams.get? t.name = some t) :
    Change s { s with streams := s.streams.remove t.name, tags := s.tags.clear t.arn }
  | tagged (t : DeliveryStream) (tags : List Tag) (live : s.streams.get? t.name = some t)
    (valid : Tag.validate tags s.quotas.tagsPerStream = .ok ())
    (room : (s.tags.tags t.arn).length + Tag.addedCount (s.tags.tags t.arn) tags ≤
      s.quotas.tagsPerStream) :
    Change s { s with tags := s.tags.tag t.arn tags }
  | untagged (t : DeliveryStream) (keys : List String) (live : s.streams.get? t.name = some t) :
    Change s { s with tags := s.tags.untag t.arn keys }

theorem Change.scope_eq (h : Change s s') : s'.scope = s.scope := by
  cases h <;> rfl

theorem Change.quotas_eq (h : Change s s') : s'.quotas = s.quotas := by
  cases h <;> rfl

theorem live_of_get? {t : DeliveryStream} (h : s.streams.get? name = some t) :
    s.streams.get? t.name = some t ∧ t.name = name := by
  have same : t.name = name := Registry.key_of_get? h
  exact ⟨same.symm ▸ h, same⟩

theorem change_of_createStream {input : CreateStream} {t : DeliveryStream}
    (h : s.createStream at_ input = .ok (t, s')) : Change s s' := by
  obtain ⟨-, free, room, source, destination, -, -, valid, rfl, rfl⟩ := createStream_eq_ok_iff.mp h
  exact .created _ _ free room rfl valid

theorem change_of_deleteStream {u : Unit} (h : s.deleteStream name = .ok (u, s')) : Change s s' := by
  obtain ⟨t, found, rfl⟩ := deleteStream_eq_ok_iff.mp h
  obtain ⟨live, rfl⟩ := live_of_get? found
  exact .deleted t live

theorem change_of_tagStream {input : TagStream} {u : Unit}
    (h : s.tagStream input = .ok (u, s')) : Change s s' := by
  obtain ⟨t, found, valid, room, rfl⟩ := tagStream_eq_ok_iff.mp h
  exact .tagged t _ (live_of_get? found).1 valid room

theorem change_of_untagStream {input : UntagStream} {u : Unit}
    (h : s.untagStream input = .ok (u, s')) : Change s s' := by
  obtain ⟨t, found, rfl⟩ := untagStream_eq_ok_iff.mp h
  exact .untagged t _ (live_of_get? found).1

theorem change_of_run {name : String} {op : Op} {input : op.Input} {output : op.Output}
    (hop : operations name = some op) (h : (op.run s at_ input).run = .ok (output, s')) :
    Change s s' := by
  simp only [operations] at hop
  split at hop <;> cases hop
  case h_1 =>
    obtain ⟨⟨t, _⟩, created, same⟩ := map_eq_ok_iff.mp h
    cases same
    exact change_of_createStream created
  case h_2 => exact change_of_deleteStream h
  case h_3 => exact state_of_look h ▸ .looked
  case h_4 => exact state_of_look h ▸ .looked
  case h_5 => exact change_of_tagStream h
  case h_6 => exact change_of_untagStream h
  case h_7 => exact state_of_look h ▸ .looked

def after (s : DeliveryService) (q : Request) : DeliveryService :=
  match (operations.serve s q.at_ q.action q.bag).run with
  | .ok (_, s') => s'
  | .error _ => s

theorem change_after (s : DeliveryService) (q : Request) : Change s (s.after q) := by
  rw [after]
  split
  · rename_i j s' served
    obtain ⟨op, input, output, hop, -, hr, -⟩ := Catalog.exists_of_serve served
    exact change_of_run hop hr
  · exact .looked

def run (scope : Scope) (quotas : DeliveryQuotas) (qs : List Request) : DeliveryService :=
  qs.foldl after (empty scope quotas)

theorem run_concat (scope : Scope) (quotas : DeliveryQuotas) (qs : List Request) (q : Request) :
    run scope quotas (qs ++ [q]) = (run scope quotas qs).after q := by
  rw [run, run, List.foldl_append, List.foldl_cons, List.foldl_nil]

theorem run_quotas (scope : Scope) (quotas : DeliveryQuotas) (qs : List Request) :
    (run scope quotas qs).quotas = quotas := by
  induction qs using List.reverseRecOn with
  | nil => rfl
  | append_singleton qs q ih =>
    rw [run_concat]
    exact (change_after _ q).quotas_eq.trans ih

end ControlPlane.DeliveryService
