import ControlPlane.Delivery.Operations
import ControlPlane.Proofs.InPlace.Procedure

/-!
The delivery stream service in place. A stream is found by its name before its tags are written
under its resource name.
-/

namespace ControlPlane.DeliveryService.InPlace

open Program

abbrev Task (α : Type) := Program DeliveryService DeliveryFault α

def createStream (at_ : Moment) (input : CreateStream) : Task DeliveryStream := do
  look fun _ => runChecks (streamChecks input)
  let taken ← reads fun s => s.streams.contains input.name
  let account ← reads fun s => s.scope.account
  if taken then throw (.nameTaken input.name account)
  let limit ← reads fun s => s.quotas.streams
  let names ← reads fun s => s.streams.records.map (·.name)
  if limit ≤ names.length then throw (.streamLimit limit names)
  let source ← look fun _ => chooseSource (typeOf input) at_.now input.source
  let destination ← look fun _ => chooseDestination input.destinations
  look fun s => (Tag.validate input.tags s.quotas.tagsPerStream).mapError .validation
  let arn ← reads fun s => s.arn input.name
  let t : DeliveryStream :=
    { name := input.name
      arn := arn
      status := "ACTIVE"
      type := typeOf input
      version := "1"
      createTime := at_.now
      source := source
      destinations := [destination]
      hasMoreDestinations := false }
  write fun s => { s with streams := s.streams.insert t }
  write fun s => { s with tags := s.tags.tag arn input.tags }
  return t

theorem does_createStream (at_ : Moment) (input : CreateStream) :
    Does (createStream at_ input) fun s => s.createStream at_ input := by
  intro s
  have names : (s.streams.records.map (·.name)).length = s.streams.size := List.length_map _
  simp only [DeliveryService.createStream, ← names]
  refine Ends.look_bind fun _ _ => ?_
  refine Ends.reads_bind <| Ends.reads_bind ?_
  refine Ends.guard fun _ => ?_
  refine Ends.reads_bind <| Ends.reads_bind ?_
  refine Ends.guard fun _ => ?_
  refine Ends.look_bind fun source _ => ?_
  refine Ends.look_bind fun destination _ => ?_
  refine Ends.look_bind fun _ _ => ?_
  rfl

def deleteStream (name : String) : Task Unit := do
  let account ← reads fun s => s.scope.account
  let t ← takeOut (·.streams) (fun s streams => { s with streams := streams }) name
    (.notFound name account)
  write fun s => { s with tags := s.tags.clear t.arn }

theorem does_deleteStream (name : String) :
    Does (deleteStream name) fun s => s.deleteStream name := by
  intro s
  refine Ends.reads_bind ?_
  simp only [DeliveryService.deleteStream, stream]
  cases live : s.streams.get? name with
  | none => exact Ends.takeOut_missing rfl live
  | some t => exact Ends.takeOut_found live rfl

def tagStream (input : TagStream) : Task Unit := do
  let t ← look fun s => s.stream input.name
  look fun s => (Tag.validate input.tags s.quotas.tagsPerStream).mapError .validation
  let existing ← reads fun s => s.tags.tags t.arn
  let limit ← reads fun s => s.quotas.tagsPerStream
  if existing.length + Tag.addedCount existing input.tags > limit then throw (.tagLimit limit)
  write fun s => { s with tags := s.tags.tag t.arn input.tags }

theorem does_tagStream (input : TagStream) : Does (tagStream input) fun s => s.tagStream input := by
  intro s
  refine Ends.look_bind fun t _ => ?_
  refine Ends.look_bind fun _ _ => ?_
  refine Ends.reads_bind <| Ends.reads_bind ?_
  refine Ends.guard fun _ => ?_
  rfl

def untagStream (input : UntagStream) : Task Unit := do
  let t ← look fun s => s.stream input.name
  write fun s => { s with tags := s.tags.untag t.arn input.keys }

theorem does_untagStream (input : UntagStream) :
    Does (untagStream input) fun s => s.untagStream input := by
  intro s
  refine Ends.look_bind fun t _ => ?_
  rfl

abbrev Proc := Procedure Id DeliveryService DeliveryFault

def procedures : String → Option Proc
  | "CreateDeliveryStream" =>
    some ⟨createStreamOp, fun at_ input => return (← createStream at_ input).arn⟩
  | "DeleteDeliveryStream" => some ⟨deleteStreamOp, fun _ name => deleteStream name⟩
  | "DescribeDeliveryStream" => some ⟨describeStreamOp, fun _ name => look fun s => s.stream name⟩
  | "ListDeliveryStreams" =>
    some ⟨listStreamsOp, fun _ input => look fun s => s.listStreams input⟩
  | "TagDeliveryStream" => some ⟨tagStreamOp, fun _ input => tagStream input⟩
  | "UntagDeliveryStream" => some ⟨untagStreamOp, fun _ input => untagStream input⟩
  | "ListTagsForDeliveryStream" => some ⟨listTagsOp, fun _ input => look fun s => s.listTags input⟩
  | _ => none

theorem procedures_sound : Procedure.Sound .id procedures operations where
  ops := by
    intro name
    simp only [procedures]
    split
    case h_8 => simp only [operations, Option.map_none]
    all_goals rfl
  does := by
    intro name p hp at_ input
    simp only [procedures] at hp
    split at hp <;> cases hp
    case h_1 => exact (does_createStream at_ input).map _
    case h_2 => exact does_deleteStream input
    case h_3 => exact does_look _
    case h_4 => exact does_look _
    case h_5 => exact does_tagStream input
    case h_6 => exact does_untagStream input
    case h_7 => exact does_look _
  looks := by
    intro name p hp reading at_ input s
    simp only [procedures] at hp
    split at hp <;> cases hp
    case h_3 => exact snd_exec_look s _
    case h_4 => exact snd_exec_look s _
    case h_7 => exact snd_exec_look s _
    all_goals exact absurd reading (by decide)

end ControlPlane.DeliveryService.InPlace
