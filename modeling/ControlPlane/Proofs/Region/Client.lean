import ControlPlane.Proofs.Delivery.Return
import ControlPlane.Proofs.Directory.Return
import ControlPlane.Proofs.Network.Return
import ControlPlane.Proofs.Region.Addresses
import ControlPlane.Proofs.Region.Method
import ControlPlane.Proofs.Region.Renewal
import ControlPlane.Proofs.Region.Secret
import ControlPlane.Proofs.Resolver.Return
import ControlPlane.Proofs.Signing.Return

/-!
The typed calls of a region. Main statement: in every region that steps lead to, each of them agrees
with every request whose bag is read as its input. An answer that a region can give is never one
that cannot be read, and of a record nothing is lost but the password of a directory and the
addresses of an endpoint.
-/

namespace ControlPlane

inductive Client where
  | createVpc (cidr : String)
  | createSubnet (vpc cidr zone : String)
  | createSecurityGroup (vpc name : String)
  | describeSubnets (ids : List String)
  | createDirectory (input : CreateDirectory)
  | createMicrosoftDirectory (input : CreateMicrosoftDirectory)
  | connectDirectory (input : ConnectDirectory)
  | deleteDirectory (id : String)
  | describeDirectories (input : DescribeDirectories)
  | directoryLimits
  | createAlias (directory name : String)
  | createEndpoint (input : CreateEndpoint)
  | getEndpoint (id : String)
  | deleteEndpoint (id : String)
  | createRule (input : CreateRule)
  | associateRule (rule vpc : String)
  | listTags (arn : String)
  | createStream (input : CreateStream)
  | describeStream (name : String)
  | deleteStream (name : String)
  | listStreams (input : ListStreams)
  | putProfile (input : PutProfile)
  | getProfile (name : String)
  | cancelProfile (name : String)
  | listPlatforms

namespace Client

def everything : ListPlatforms := ⟨none, none, none, none, none⟩

def method : Client → Method
  | createVpc cidr => .of .network "CreateVpc" NetworkService.createVpcOp cidr (.member "Vpc") rfl
  | createSubnet vpc cidr zone =>
    .of .network "CreateSubnet" NetworkService.createSubnetOp (⟨vpc, cidr, some zone⟩ : CreateSubnet)
      (.member "Subnet") rfl
  | createSecurityGroup vpc name =>
    .of .network "CreateSecurityGroup" NetworkService.createSecurityGroupOp
      (⟨name, name, vpc⟩ : CreateSecurityGroup) (.member "GroupId") rfl
  | describeSubnets ids =>
    .of .network "DescribeSubnets" NetworkService.describeSubnetsOp (⟨ids, []⟩ : DescribeSubnets)
      (.member "Subnets") rfl
  | createDirectory input =>
    .of .directory "CreateDirectory" DirectoryService.createDirectoryOp input
      (.member "DirectoryId") rfl
  | createMicrosoftDirectory input =>
    .of .directory "CreateMicrosoftAD" DirectoryService.createMicrosoftOp input
      (.member "DirectoryId") rfl
  | connectDirectory input =>
    .of .directory "ConnectDirectory" DirectoryService.connectDirectoryOp input
      (.member "DirectoryId") rfl
  | deleteDirectory id =>
    .of .directory "DeleteDirectory" DirectoryService.deleteDirectoryOp id
      (.member "DirectoryId") rfl
  | describeDirectories input =>
    .of .directory "DescribeDirectories" DirectoryService.describeDirectoriesOp input
      (Extract.whole.showing DirectoryService.pageWithoutPasswords
        DirectoryService.encode_pageWithoutPasswords) rfl
  | directoryLimits =>
    .of .directory "GetDirectoryLimits" DirectoryService.limitsOp () (.member "DirectoryLimits") rfl
  | createAlias directory name =>
    .of .directory "CreateAlias" DirectoryService.createAliasOp (⟨directory, name⟩ : CreateAlias)
      .whole rfl
  | createEndpoint input =>
    .of .resolver "CreateResolverEndpoint" ResolverService.createEndpointOp input shownEndpoint rfl
  | getEndpoint id =>
    .of .resolver "GetResolverEndpoint" ResolverService.getEndpointOp id shownEndpoint rfl
  | deleteEndpoint id =>
    .of .resolver "DeleteResolverEndpoint" ResolverService.deleteEndpointOp id shownEndpoint rfl
  | createRule input =>
    .of .resolver "CreateResolverRule" ResolverService.createRuleOp input
      (.member "ResolverRule") rfl
  | associateRule rule vpc =>
    .of .resolver "AssociateResolverRule" ResolverService.associateRuleOp
      (⟨rule, none, vpc⟩ : AssociateRule) (.member "ResolverRuleAssociation") rfl
  | listTags arn =>
    .of .resolver "ListTagsForResource" ResolverService.listTagsOp
      (⟨arn, none, none⟩ : ListTagsByArn) (.items "Tags" Tag.codec fun _ => rfl) rfl
  | createStream input =>
    .of .delivery "CreateDeliveryStream" DeliveryService.createStreamOp input
      (.member "DeliveryStreamARN") rfl
  | describeStream name =>
    .of .delivery "DescribeDeliveryStream" DeliveryService.describeStreamOp name
      (.member "DeliveryStreamDescription") rfl
  | deleteStream name =>
    .of .delivery "DeleteDeliveryStream" DeliveryService.deleteStreamOp name .whole rfl
  | listStreams input =>
    .of .delivery "ListDeliveryStreams" DeliveryService.listStreamsOp input .whole rfl
  | putProfile input =>
    .of .signing "PutSigningProfile" SigningService.putProfileOp input .whole rfl
  | getProfile name =>
    .of .signing "GetSigningProfile" SigningService.getProfileOp name .whole rfl
  | cancelProfile name =>
    .of .signing "CancelSigningProfile" SigningService.cancelProfileOp name .whole rfl
  | listPlatforms =>
    .of .signing "ListSigningPlatforms" SigningService.listPlatformsOp
      everything (.items "platforms" SigningPlatform.record.codec fun _ => rfl) rfl
where
  shownEndpoint : Extract ResolverService.endpointAnswer Endpoint :=
    .showing (.member "ResolverEndpoint") Endpoint.withoutAddresses fun _ => rfl

def call : (c : Client) → Region → Moment → Except ServiceError c.method.Result × Region
  | createVpc cidr, r, at_ => r.createVpc at_ cidr
  | createSubnet vpc cidr zone, r, at_ => r.createSubnet at_ vpc cidr zone
  | createSecurityGroup vpc name, r, at_ => r.createSecurityGroup at_ vpc name
  | describeSubnets ids, r, at_ => r.describeSubnets at_ ids
  | createDirectory input, r, at_ => r.createDirectory at_ input
  | createMicrosoftDirectory input, r, at_ => r.createMicrosoftDirectory at_ input
  | connectDirectory input, r, at_ => r.connectDirectory at_ input
  | deleteDirectory id, r, at_ => r.deleteDirectory at_ id
  | describeDirectories input, r, at_ => r.describeDirectories at_ input
  | directoryLimits, r, at_ => r.directoryLimits at_
  | createAlias directory name, r, at_ => r.createAlias at_ directory name
  | createEndpoint input, r, at_ => r.createEndpoint at_ input
  | getEndpoint id, r, at_ => r.getEndpoint at_ id
  | deleteEndpoint id, r, at_ => r.deleteEndpoint at_ id
  | createRule input, r, at_ => r.createRule at_ input
  | associateRule rule vpc, r, at_ => r.associateRule at_ rule vpc
  | listTags arn, r, at_ => r.listTags at_ arn
  | createStream input, r, at_ => r.createStream at_ input
  | describeStream name, r, at_ => r.describeStream at_ name
  | deleteStream name, r, at_ => r.deleteStream at_ name
  | listStreams input, r, at_ => r.listStreams at_ input
  | putProfile input, r, at_ => r.putProfile at_ input
  | getProfile name, r, at_ => r.getProfile at_ name
  | cancelProfile name, r, at_ => r.cancelProfile at_ name
  | listPlatforms, r, at_ => r.listPlatforms at_

theorem call_eq (c : Client) (r : Region) (at_ : Moment) : c.call r at_ = c.method.call r at_ := by
  symm
  cases c with
  | listTags arn =>
    apply Method.call_of
    rfl
  | listPlatforms =>
    apply Method.call_of
    rfl
  | _ => apply Method.call_of_all <;> rfl

theorem stable (c : Client) : c.method.input.Stable := by
  cases c with
  | createVpc cidr => exact inferInstanceAs (Codec.single _ .text).Stable
  | createSubnet vpc cidr zone => exact inferInstanceAs CreateSubnet.record.codec.Stable
  | createSecurityGroup vpc name => exact inferInstanceAs CreateSecurityGroup.record.codec.Stable
  | describeSubnets ids => exact inferInstanceAs DescribeSubnets.record.codec.Stable
  | createDirectory input => exact inferInstanceAs CreateDirectory.record.codec.Stable
  | createMicrosoftDirectory input =>
    exact inferInstanceAs CreateMicrosoftDirectory.record.codec.Stable
  | connectDirectory input => exact inferInstanceAs ConnectDirectory.record.codec.Stable
  | deleteDirectory id => exact inferInstanceAs (Codec.single _ .text).Stable
  | describeDirectories input => exact inferInstanceAs DescribeDirectories.record.codec.Stable
  | directoryLimits => exact inferInstanceAs Codec.ignored.Stable
  | createAlias directory name => exact inferInstanceAs CreateAlias.record.codec.Stable
  | createEndpoint input => exact inferInstanceAs CreateEndpoint.record.codec.Stable
  | getEndpoint id => exact inferInstanceAs (Codec.single _ .text).Stable
  | deleteEndpoint id => exact inferInstanceAs (Codec.single _ .text).Stable
  | createRule input => exact inferInstanceAs CreateRule.record.codec.Stable
  | associateRule rule vpc => exact inferInstanceAs AssociateRule.record.codec.Stable
  | listTags arn => exact inferInstanceAs ListTagsByArn.record.codec.Stable
  | createStream input => exact inferInstanceAs CreateStream.record.codec.Stable
  | describeStream name => exact inferInstanceAs (Codec.single _ .text).Stable
  | deleteStream name => exact inferInstanceAs (Codec.single _ .text).Stable
  | listStreams input => exact inferInstanceAs ListStreams.record.codec.Stable
  | putProfile input => exact inferInstanceAs PutProfile.record.codec.Stable
  | getProfile name => exact inferInstanceAs (Codec.single _ .text).Stable
  | cancelProfile name => exact inferInstanceAs (Codec.single _ .text).Stable
  | listPlatforms => exact inferInstanceAs ListPlatforms.record.codec.Stable

end Client

namespace Region

/-- What is known of the numbers and the free-form values that the region holds, after whatever
requests. -/
structure Legible (r : Region) : Prop where
  words : r.quotas.directory.Words
  network : r.network.Consistent
  directory : r.directory.Legible
  resolver : r.resolver.Addressed
  signing : r.signing.Legible

theorem legible_new (scope : Scope) {quotas : Quotas} (words : quotas.directory.Words) :
    Legible (new scope quotas) where
  words := words
  network := NetworkService.consistent_empty scope
  directory := DirectoryService.legible_empty scope words
  resolver := ResolverService.addressed_empty scope quotas.resolver
  signing := SigningService.legible_empty scope

theorem Legible.after {r : Region} (h : Legible r) (step : Step) : Legible (r.after step) where
  words := (change_after r step).quotas_eq ▸ h.words
  network := (change_after r step).network_consistent h.network
  directory := by
    rcases (change_after r step).directory_change with change | empty
    · exact change.legible h.directory
    · rw [empty]
      exact DirectoryService.legible_empty r.scope h.words
  resolver := (change_after r step).addressed h.resolver
  signing :=
    signing_after SigningService.legible_empty SigningService.legible_of_serve h.signing step

theorem legible_run (scope : Scope) {quotas : Quotas} (words : quotas.directory.Words)
    (steps : List Step) : Legible (run scope quotas steps) := by
  induction steps using List.reverseRecOn with
  | nil => exact legible_new scope words
  | append_singleton steps step ih =>
    rw [run_concat]
    exact ih.after step

end Region

namespace Client

variable {r : Region} {at_ : Moment}

theorem answers (h : r.Legible) (c : Client) : c.method.Answers r at_ := by
  cases c with
  | createSubnet vpc cidr zone =>
    intro n r' ran
    obtain ⟨s, ran, -⟩ := Seat.network.run_eq_ok_iff.mp ran
    exact NetworkService.returns_createSubnet ran
  | describeSubnets ids =>
    intro answer r' ran
    obtain ⟨s, ran, -⟩ := Seat.network.run_eq_ok_iff.mp ran
    exact NetworkService.returns_describeSubnets h.network (seen_of_look ran)
  | describeDirectories input =>
    intro p r' ran
    obtain ⟨s, ran, -⟩ := Seat.directory.run_eq_ok_iff.mp ran
    exact DirectoryService.returns_describeDirectories h.directory (seen_of_look ran)
  | directoryLimits =>
    intro limits r' ran
    have ran : Seat.directory.run DirectoryService.limitsOp () r at_ = .ok (limits, r') := ran
    obtain ⟨s, ran, -⟩ := Seat.directory.run_eq_ok_iff.mp ran
    have seen : Except.ok r.directory.limits = .ok limits := seen_of_look ran
    cases seen
    exact DirectoryService.returns_limits h.directory
  | createEndpoint input =>
    intro e r' ran
    obtain ⟨s, ran, -⟩ := Seat.resolver.run_eq_ok_iff.mp ran
    exact ResolverService.returns_createEndpoint (Lookup.mem_outcomes_singleton_iff.mpr ran.symm)
  | getEndpoint id =>
    intro e r' ran
    obtain ⟨s, ran, -⟩ := Seat.resolver.run_eq_ok_iff.mp ran
    exact ResolverService.returns_endpoint h.resolver (seen_of_look ran)
  | deleteEndpoint id =>
    intro e r' ran
    obtain ⟨s, ran, -⟩ := Seat.resolver.run_eq_ok_iff.mp ran
    exact ResolverService.returns_deleteEndpoint h.resolver ran
  | createRule input =>
    intro rule r' ran
    obtain ⟨s, ran, -⟩ := Seat.resolver.run_eq_ok_iff.mp ran
    exact ResolverService.returns_createRule ran
  | getProfile name =>
    intro t r' ran
    obtain ⟨s, ran, -⟩ := Seat.signing.run_eq_ok_iff.mp ran
    exact SigningService.returns_getProfile h.signing (seen_of_look ran)
  | listPlatforms =>
    intro p r' ran
    have ran : Seat.signing.run SigningService.listPlatformsOp everything r at_ = .ok (p, r') := ran
    obtain ⟨s, ran, -⟩ := Seat.signing.run_eq_ok_iff.mp ran
    have seen : SigningService.listPlatforms everything = .ok p := seen_of_look ran
    exact SigningService.returns_listPlatforms seen
  | createVpc cidr =>
    exact Method.answers_of_lawful (inferInstanceAs (Codec.single _ Vpc.record.codec).Lawful)
      fun _ => rfl
  | createSecurityGroup vpc name =>
    exact Method.answers_of_lawful (inferInstanceAs (Codec.single _ .text).Lawful) fun _ => rfl
  | createDirectory input =>
    exact Method.answers_of_lawful (inferInstanceAs (Codec.single _ .text).Lawful) fun _ => rfl
  | createMicrosoftDirectory input =>
    exact Method.answers_of_lawful (inferInstanceAs (Codec.single _ .text).Lawful) fun _ => rfl
  | connectDirectory input =>
    exact Method.answers_of_lawful (inferInstanceAs (Codec.single _ .text).Lawful) fun _ => rfl
  | deleteDirectory id =>
    exact Method.answers_of_lawful (inferInstanceAs (Codec.single _ .text).Lawful) fun _ => rfl
  | createAlias directory name =>
    exact Method.answers_of_lawful (inferInstanceAs CreateAlias.record.codec.Lawful) fun _ => rfl
  | associateRule rule vpc =>
    exact Method.answers_of_lawful
      (inferInstanceAs (Codec.single _ RuleAssociation.record.codec).Lawful) fun _ => rfl
  | listTags arn => exact Method.answers_of_lawful (Page.lawful (by decide)) fun _ => rfl
  | createStream input =>
    exact Method.answers_of_lawful (inferInstanceAs (Codec.single _ .text).Lawful) fun _ => rfl
  | describeStream name =>
    exact Method.answers_of_lawful
      (inferInstanceAs (Codec.single _ DeliveryStream.record.codec).Lawful) fun _ => rfl
  | deleteStream name =>
    exact Method.answers_of_lawful (inferInstanceAs Codec.nothing.Lawful) fun _ => rfl
  | listStreams input =>
    exact Method.answers_of_lawful (inferInstanceAs StreamNames.record.codec.Lawful) fun _ => rfl
  | putProfile input =>
    exact Method.answers_of_lawful (inferInstanceAs ProfileArns.record.codec.Lawful) fun _ => rfl
  | cancelProfile name =>
    exact Method.answers_of_lawful (inferInstanceAs Codec.nothing.Lawful) fun _ => rfl

end Client

namespace Region

/-- A typed call in a region that steps have led to agrees with every request for the same input. -/
theorem typed_calls_agree (scope : Scope) {quotas : Quotas} (words : quotas.directory.Words)
    (steps : List Step) (at_ : Moment) (c : Client) {bag : Json}
    (read : c.method.input.decodeBag bag = .ok c.method.argument) :
    c.method.Agrees (run scope quotas steps) at_ bag (c.call (run scope quotas steps) at_) := by
  have := c.stable
  rw [c.call_eq]
  exact Method.agrees (c.answers (legible_run scope words steps)) read

theorem typed_calls_agree_describedDirectory :
    let scope : Scope := ⟨"123456789012", "eu-west-1", "aws"⟩
    let r := run scope .standard (describedDirectory "Passw0rd!")
    let c : Client := .describeDirectories ⟨[], none, none⟩
    let told := (r.describeDirectories ⟨default, []⟩ ⟨[], none, none⟩).1.toOption
    Quotas.standard.directory.Words ∧
      c.method.input.decodeBag .null = .ok c.method.argument ∧
      c.method.Agrees r ⟨default, []⟩ .null (c.call r ⟨default, []⟩) ∧
      told.map (fun p => p.items.map fun d => (d.id, d.password)) = some [("d-0000000008", "")] := by
  intro scope r c told
  have words : Quotas.standard.directory.Words := fun type => by cases type <;> decide
  have read : c.method.input.decodeBag .null = .ok c.method.argument := rfl
  refine ⟨words, read, ?_, by decide +kernel⟩
  exact typed_calls_agree scope words (describedDirectory "Passw0rd!") ⟨default, []⟩ c read

end Region

end ControlPlane
