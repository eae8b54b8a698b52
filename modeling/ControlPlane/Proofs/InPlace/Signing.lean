import ControlPlane.Proofs.InPlace.Procedure
import ControlPlane.Signing.Operations

/-!
The code signing service in place. Putting a profile clears the tags under its resource name and
writes the new ones before the profile itself, once the request has passed all its checks.
-/

namespace ControlPlane.SigningService.InPlace

open Program

abbrev Task (α : Type) := Program SigningService SigningFault α

def putProfile (at_ : Moment) (input : PutProfile) : Task SigningProfile := do
  look fun _ => runChecks (putChecks input)
  let tags := Tag.ofMap input.tags
  look fun _ => (Tag.validate tags maxTags).mapError .validation
  let p ← reads fun s => s.buildProfile input (Identifier.numeral versionDigits at_.draws).1
  write fun s => { s with tags := s.tags.clear p.arn }
  write fun s => { s with tags := s.tags.tag p.arn tags }
  write fun s => { s with profiles := s.profiles.insert p }
  return p

theorem does_putProfile (at_ : Moment) (input : PutProfile) :
    Does (putProfile at_ input) fun s => s.putProfile at_ input := by
  intro s
  refine Ends.look_bind fun _ _ => ?_
  refine Ends.look_bind fun _ _ => ?_
  rfl

def cancelProfile (name : String) : Task Unit := do
  let p ← look fun s => s.profile name
  write fun s => { s with profiles := s.profiles.insert { p with status := .canceled } }

theorem does_cancelProfile (name : String) :
    Does (cancelProfile name) fun s => s.cancelProfile name := by
  intro s
  refine Ends.look_bind fun p _ => ?_
  rfl

def tagResource (input : TagProfile) : Task Unit := do
  let arn ← look fun s => s.resolveArn input.arn
  let tags := Tag.ofMap input.tags
  look fun _ => (Tag.validate tags maxTags).mapError .validation
  write fun s => { s with tags := s.tags.tag arn tags }

theorem does_tagResource (input : TagProfile) :
    Does (tagResource input) fun s => s.tagResource input := by
  intro s
  refine Ends.look_bind fun arn _ => ?_
  refine Ends.look_bind fun _ _ => ?_
  rfl

def untagResource (input : UntagProfile) : Task Unit := do
  let arn ← look fun s => s.resolveArn input.arn
  write fun s => { s with tags := s.tags.untag arn input.keys }

theorem does_untagResource (input : UntagProfile) :
    Does (untagResource input) fun s => s.untagResource input := by
  intro s
  refine Ends.look_bind fun arn _ => ?_
  rfl

abbrev Proc := Procedure Id SigningService SigningFault

def procedures : String → Option Proc
  | "PutSigningProfile" =>
    some ⟨putProfileOp, fun at_ input => do
      let p ← putProfile at_ input
      return ⟨p.arn, p.version, p.versionArn⟩⟩
  | "GetSigningProfile" => some ⟨getProfileOp, fun _ name => look fun s => s.getProfile name⟩
  | "CancelSigningProfile" => some ⟨cancelProfileOp, fun _ name => cancelProfile name⟩
  | "ListSigningProfiles" =>
    some ⟨listProfilesOp, fun _ input => look fun s => s.listProfiles input⟩
  | "ListSigningPlatforms" => some ⟨listPlatformsOp, fun _ input => look fun _ => listPlatforms input⟩
  | "TagResource" => some ⟨tagResourceOp, fun _ input => tagResource input⟩
  | "UntagResource" => some ⟨untagResourceOp, fun _ input => untagResource input⟩
  | "ListTagsForResource" => some ⟨listTagsOp, fun _ resource => look fun s => s.listTags resource⟩
  | _ => none

theorem procedures_sound : Procedure.Sound .id procedures operations where
  ops := by
    intro name
    simp only [procedures]
    split
    case h_9 => simp only [operations, Option.map_none]
    all_goals rfl
  does := by
    intro name p hp at_ input
    simp only [procedures] at hp
    split at hp <;> cases hp
    case h_1 =>
      exact (does_putProfile at_ input).map fun p => ProfileArns.mk p.arn p.version p.versionArn
    case h_2 => exact does_look _
    case h_3 => exact does_cancelProfile input
    case h_4 => exact does_look _
    case h_5 => exact does_look fun _ : SigningService => listPlatforms input
    case h_6 => exact does_tagResource input
    case h_7 => exact does_untagResource input
    case h_8 => exact does_look _
  looks := by
    intro name p hp reading at_ input s
    simp only [procedures] at hp
    split at hp <;> cases hp
    case h_2 => exact snd_exec_look s _
    case h_4 => exact snd_exec_look s _
    case h_5 => exact snd_exec_look s _
    case h_8 => exact snd_exec_look s _
    all_goals exact absurd reading (by decide)

end ControlPlane.SigningService.InPlace
