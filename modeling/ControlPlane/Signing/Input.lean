import ControlPlane.Signing.Record

/-!
What the operations of the code signing service are asked, and what a put answers.
-/

namespace ControlPlane

structure PutProfile where
  name : String
  platform : String
  period : Option ValidityPeriod
  certificate : Option String
  parameters : TextMap
  overrides : Option Json
  tags : TextMap

def PutProfile.record : Record PutProfile PutProfile :=
  (Record.start PutProfile.mk)
    |>.required "profileName" .text (·.name)
    |>.required "platformId" .text (·.platform)
    |>.optional "signatureValidityPeriod" ValidityPeriod.record.codec (·.period)
    |>.optional "signingMaterial" certificateCodec (·.certificate)
    |>.defaulted "signingParameters" .textMap .empty (·.parameters)
    |>.optional "overrides" .json (·.overrides)
    |>.defaulted "tags" .textMap .empty (·.tags)

structure ProfileArns where
  arn : String
  version : String
  versionArn : String
  deriving Repr, DecidableEq

def ProfileArns.record : Record ProfileArns ProfileArns :=
  (Record.start ProfileArns.mk)
    |>.required "arn" .text (·.arn)
    |>.required "profileVersion" .text (·.version)
    |>.required "profileVersionArn" .text (·.versionArn)

structure ListProfiles where
  includeCanceled : Bool
  platform : Option String
  statuses : List String
  maxResults : Option Nat
  nextToken : Option String
  deriving Repr, DecidableEq

def ListProfiles.record : Record ListProfiles ListProfiles :=
  (Record.start ListProfiles.mk)
    |>.defaulted "includeCanceled" .flag false (·.includeCanceled)
    |>.optional "platformId" .text (·.platform)
    |>.listOrEmpty "statuses" .text (·.statuses)
    |>.optional "maxResults" .word32 (·.maxResults)
    |>.optional "nextToken" .text (·.nextToken)

structure ListPlatforms where
  category : Option String
  partner : Option String
  target : Option String
  maxResults : Option Nat
  nextToken : Option String
  deriving Repr, DecidableEq

def ListPlatforms.record : Record ListPlatforms ListPlatforms :=
  (Record.start ListPlatforms.mk)
    |>.optional "category" .text (·.category)
    |>.optional "partner" .text (·.partner)
    |>.optional "target" .text (·.target)
    |>.optional "maxResults" .word32 (·.maxResults)
    |>.optional "nextToken" .text (·.nextToken)

structure TagProfile where
  arn : String
  tags : TextMap

def TagProfile.record : Record TagProfile TagProfile :=
  (Record.start TagProfile.mk)
    |>.required "resourceArn" .text (·.arn)
    |>.required "tags" .textMap (·.tags)

structure UntagProfile where
  arn : String
  keys : List String
  deriving Repr, DecidableEq

def UntagProfile.record : Record UntagProfile UntagProfile :=
  (Record.start UntagProfile.mk)
    |>.required "resourceArn" .text (·.arn)
    |>.required "tagKeys" (.list .text) (·.keys)

end ControlPlane
