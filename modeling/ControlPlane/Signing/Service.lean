import ControlPlane.Operation
import ControlPlane.Page
import ControlPlane.Scope
import ControlPlane.Signing.Fault
import ControlPlane.Signing.Input
import ControlPlane.Tag.Store

/-!
The code signing service of one region. Putting a profile under a name that is taken replaces the
profile, its tags included, under a new version. A canceled profile stays, but is left out of
listings that do not ask for it. A profile's tags can be reached by its resource name and by that of
its present version.
-/

namespace ControlPlane

structure SigningService where
  scope : Scope
  profiles : Registry SigningProfile
  tags : TagStore

namespace SigningService

def empty (scope : Scope) : SigningService :=
  { scope := scope, profiles := .empty, tags := .empty }

def periodUnits : List String := ["DAYS", "MONTHS", "YEARS"]

def maxTags : Nat := 50
def versionDigits : Nat := 10
def defaultMaxResults : Nat := 25

def namePattern : Pattern :=
  .ofRegex "^[a-zA-Z0-9_]\x7b2,\x7d" ((Pattern.alphanumericOr "_").atLeast 2)

def runChecks (cs : List Check) : Except SigningFault Unit :=
  (validate cs).mapError .validation

def maxResultsChecks (n : Option Nat) : List Check :=
  Check.ofOption "maxResults" n (.valueAtLeast 1) ++ Check.ofOption "maxResults" n (.valueAtMost 25)

def arn (s : SigningService) (name : String) : String :=
  s.scope.arn "signer" ("/signing-profiles/" ++ name)

def profile (s : SigningService) (name : String) : Except SigningFault SigningProfile :=
  match s.profiles.get? name with
  | some p => .ok p
  | none => .error (.profileNotFound name)

def withTags (s : SigningService) (p : SigningProfile) : TaggedProfile :=
  ⟨p, s.tags.tagMap p.arn⟩

def putChecks (input : PutProfile) : List Check :=
  [.of "profileName" input.name (.lengthAtLeast 2),
    .of "profileName" input.name (.lengthAtMost 64),
    .of "profileName" input.name (.satisfies namePattern)]
    ++ Check.ofOption "signatureValidityPeriod.type" (input.period.map (·.unit))
      (.memberOf periodUnits)

def buildProfile (s : SigningService) (input : PutProfile) (version : String) : SigningProfile :=
  { name := input.name
    version := version
    versionArn := s.arn input.name ++ "/" ++ version
    arn := s.arn input.name
    platform := input.platform
    platformName :=
      (SigningPlatform.catalogue.find? fun p => p.id == input.platform).map (·.displayName)
    period := input.period.getD .standard
    certificate := input.certificate
    parameters := input.parameters
    overrides := input.overrides
    status := .active }

def putProfile (s : SigningService) (at_ : Moment) (input : PutProfile) :
    Except SigningFault (SigningProfile × SigningService) := do
  runChecks (putChecks input)
  let tags := Tag.ofMap input.tags
  (Tag.validate tags maxTags).mapError .validation
  let p := s.buildProfile input (Identifier.numeral versionDigits at_.draws).1
  return (p,
    { s with profiles := s.profiles.insert p, tags := (s.tags.clear p.arn).tag p.arn tags })

def getProfile (s : SigningService) (name : String) : Except SigningFault TaggedProfile :=
  (s.profile name).map s.withTags

def cancelProfile (s : SigningService) (name : String) :
    Except SigningFault (Unit × SigningService) := do
  let p ← s.profile name
  return ((), { s with profiles := s.profiles.insert { p with status := .canceled } })

def page {α : Type} (items : List α) (token : Option String) (maxResults : Option Nat) :
    Except SigningFault (Page α) :=
  (Page.ofList items token (maxResults.getD defaultMaxResults)).mapError fun _ =>
    .invalidNextToken

def isListed (input : ListProfiles) (p : SigningProfile) : Bool :=
  (input.includeCanceled || p.status != .canceled)
    && input.platform.all (fun id => p.platform == id)
    && (input.statuses.isEmpty || input.statuses.contains p.status.text)

def listProfiles (s : SigningService) (input : ListProfiles) :
    Except SigningFault (Page TaggedProfile) := do
  runChecks (maxResultsChecks input.maxResults)
  page ((s.profiles.list (isListed input)).map s.withTags) input.nextToken input.maxResults

def isWanted (input : ListPlatforms) (p : SigningPlatform) : Bool :=
  input.category.all (fun c => c == p.category) && input.partner.all (fun c => c == p.partner)
    && input.target.all (fun c => c == p.target)

def listPlatforms (input : ListPlatforms) : Except SigningFault (Page SigningPlatform) := do
  runChecks (maxResultsChecks input.maxResults)
  page (SigningPlatform.catalogue.filter (isWanted input)) input.nextToken input.maxResults

/-- The resource name of the profile that a text is the name or the version name of. -/
def resolveArn (s : SigningService) (resource : String) : Except SigningFault String :=
  if (s.profiles.find? fun p => p.arn == resource || p.versionArn == resource).isSome then
    match s.profiles.find? fun p => p.versionArn == resource with
    | some p => .ok p.arn
    | none => .ok resource
  else .error (.resourceNotFound resource)

def tagResource (s : SigningService) (input : TagProfile) :
    Except SigningFault (Unit × SigningService) := do
  let arn ← s.resolveArn input.arn
  let tags := Tag.ofMap input.tags
  (Tag.validate tags maxTags).mapError .validation
  return ((), { s with tags := s.tags.tag arn tags })

def untagResource (s : SigningService) (input : UntagProfile) :
    Except SigningFault (Unit × SigningService) := do
  let arn ← s.resolveArn input.arn
  return ((), { s with tags := s.tags.untag arn input.keys })

def listTags (s : SigningService) (resource : String) : Except SigningFault TextMap :=
  (s.resolveArn resource).map s.tags.tagMap

end SigningService

end ControlPlane
