import ControlPlane.Signing.Service

/-!
The operations of the code signing service by name.
-/

namespace ControlPlane.SigningService

abbrev Op := Operation Id SigningService SigningFault

/-- Pages of this service spell the token with a small letter. -/
def pageRecord {α : Type} (name : String) (c : Codec α) : Record (Page α) (Page α) :=
  (Record.start Page.mk)
    |>.required name (.list c) (·.items)
    |>.optional "nextToken" .text (·.next)

def putProfileOp : Op :=
  .writing PutProfile.record.codec ProfileArns.record.codec fun s at_ input =>
    (s.putProfile at_ input).map fun (p, s') => (⟨p.arn, p.version, p.versionArn⟩, s')

def getProfileOp : Op :=
  .reading (.single "profileName" .text) TaggedProfile.record.codec getProfile

def cancelProfileOp : Op :=
  .writing (.single "profileName" .text) .nothing fun s _ name => s.cancelProfile name

def listProfilesOp : Op :=
  .reading ListProfiles.record.codec (pageRecord "profiles" TaggedProfile.record.codec).codec
    listProfiles

def listPlatformsOp : Op :=
  .reading ListPlatforms.record.codec (pageRecord "platforms" SigningPlatform.record.codec).codec
    fun _ input => listPlatforms input

def tagResourceOp : Op :=
  .writing TagProfile.record.codec .nothing fun s _ input => s.tagResource input

def untagResourceOp : Op :=
  .writing UntagProfile.record.codec .nothing fun s _ input => s.untagResource input

def listTagsOp : Op :=
  .reading (.single "resourceArn" .text) (.single "tags" .textMap) listTags

def operations : Catalog Id SigningService SigningFault
  | "PutSigningProfile" => some putProfileOp
  | "GetSigningProfile" => some getProfileOp
  | "CancelSigningProfile" => some cancelProfileOp
  | "ListSigningProfiles" => some listProfilesOp
  | "ListSigningPlatforms" => some listPlatformsOp
  | "TagResource" => some tagResourceOp
  | "UntagResource" => some untagResourceOp
  | "ListTagsForResource" => some listTagsOp
  | _ => none

end ControlPlane.SigningService
