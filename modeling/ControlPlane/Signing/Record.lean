import ControlPlane.Registry
import ControlPlane.Tag.Basic

/-!
Signing profiles and the platforms that code can be signed for.
-/

namespace ControlPlane

structure ValidityPeriod where
  value : Nat
  unit : String
  deriving Repr, DecidableEq

namespace ValidityPeriod

def standard : ValidityPeriod := ⟨135, "MONTHS"⟩

def record : Record ValidityPeriod ValidityPeriod :=
  (Record.start ValidityPeriod.mk)
    |>.required "value" .word32 (·.value)
    |>.required "type" .text (·.unit)

end ValidityPeriod

inductive ProfileStatus where
  | active
  | canceled
  deriving Repr, DecidableEq

namespace ProfileStatus

def text : ProfileStatus → String
  | active => "Active"
  | canceled => "Canceled"

def codec : Codec ProfileStatus :=
  .ofText text fun s => [active, canceled].find? fun t => t.text == s

end ProfileStatus

structure SigningProfile where
  name : String
  version : String
  versionArn : String
  arn : String
  platform : String
  platformName : Option String
  period : ValidityPeriod
  certificate : Option String
  parameters : TextMap
  overrides : Option Json
  status : ProfileStatus

instance : Keyed SigningProfile := ⟨SigningProfile.name⟩

def certificateCodec : Codec String := .single "certificateArn" .text

def SigningProfile.record : Record SigningProfile SigningProfile :=
  (Record.start SigningProfile.mk)
    |>.required "profileName" .text (·.name)
    |>.required "profileVersion" .text (·.version)
    |>.required "profileVersionArn" .text (·.versionArn)
    |>.required "arn" .text (·.arn)
    |>.required "platformId" .text (·.platform)
    |>.optional "platformDisplayName" .text (·.platformName)
    |>.required "signatureValidityPeriod" ValidityPeriod.record.codec (·.period)
    |>.optional "signingMaterial" certificateCodec (·.certificate)
    |>.member (.omittedWhen "signingParameters" .textMap .empty TextMap.isEmpty) (·.parameters)
    |>.optional "overrides" .json (·.overrides)
    |>.required "status" ProfileStatus.codec (·.status)

structure TaggedProfile where
  profile : SigningProfile
  tags : TextMap

def TaggedProfile.record : Record TaggedProfile TaggedProfile :=
  (SigningProfile.record.within TaggedProfile.profile TaggedProfile.mk)
    |>.member (.omittedWhen "tags" .textMap .empty TextMap.isEmpty) (·.tags)

structure SigningPlatform where
  id : String
  displayName : String
  partner : String
  target : String
  category : String
  configuration : Json
  imageFormat : Json
  maxSizeInMb : Nat
  revocationSupported : Bool

namespace SigningPlatform

def record : Record SigningPlatform SigningPlatform :=
  (Record.start SigningPlatform.mk)
    |>.required "platformId" .text (·.id)
    |>.required "displayName" .text (·.displayName)
    |>.required "partner" .text (·.partner)
    |>.required "target" .text (·.target)
    |>.required "category" .text (·.category)
    |>.required "signingConfiguration" .json (·.configuration)
    |>.required "signingImageFormat" .json (·.imageFormat)
    |>.required "maxSizeInMb" .word32 (·.maxSizeInMb)
    |>.required "revocationSupported" .flag (·.revocationSupported)

def onlyOption (value : String) : Json :=
  .obj [("allowedValues", .arr [.str value]), ("defaultValue", .str value)]

def make (id displayName partner target encryption hash format : String) (maxSizeInMb : Nat)
    (revocationSupported : Bool) : SigningPlatform :=
  { id := id
    displayName := displayName
    partner := partner
    target := target
    category := "AWSIoT"
    configuration := .obj
      [("encryptionAlgorithmOptions", onlyOption encryption),
        ("hashAlgorithmOptions", onlyOption hash)]
    imageFormat := .obj
      [("defaultFormat", .str format), ("supportedFormats", .arr [.str format])]
    maxSizeInMb := maxSizeInMb
    revocationSupported := revocationSupported }

def catalogue : List SigningPlatform :=
  [make "AmazonFreeRTOS-TI-CC3220SF" "Amazon FreeRTOS SHA1-RSA CC3220SF-Format" "AmazonFreeRTOS"
      "SHA1-RSA-TISHA1" "RSA" "SHA1" "JSONEmbedded" 16 false,
    make "AmazonFreeRTOS-Default" "Amazon FreeRTOS" "AmazonFreeRTOS" "SHA256-ECDSA" "ECDSA" "SHA256"
      "JSONEmbedded" 16 false,
    make "AWSIoTDeviceManagement-SHA256-ECDSA" "AWS IoT Device Management SHA256-ECDSA"
      "AWSIoTDeviceManagement" "SHA256-ECDSA" "ECDSA" "SHA256" "JSONDetached" 2048 false,
    make "AWSLambda-SHA384-ECDSA" "AWS Lambda" "AWSLambda" "AWSLambda" "ECDSA" "SHA384"
      "JSONDetached" 250 true]

end SigningPlatform

end ControlPlane
