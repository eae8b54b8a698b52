import ControlPlane.Directory.Operations
import ControlPlane.Proofs.Validation.FormFirst

/-!
The form of requests for directories. What is required of each of the three calls is listed field by
field; a request that meets all of it, and brings the settings that it needs, fails for reasons of
the network, of quotas or of free addresses only.
-/

namespace ControlPlane

open DirectoryConstraint Requirement

/-- What all calls require of the fields that they share, with what one of them requires of the
flavor of its directories, and of the subnets. -/
def DirectoryConstraint.requirements (password : String) (flavor : List Requirement)
    (name : String) (description shortName : Option String) (subnetField : String)
    (subnets : List String) : List Requirement :=
  [matching passwordPattern "password" password] ++ flavor ++ [matching namePattern "name" name]
    ++ description.toList.map (lengthAtMost 128 "description")
    ++ shortName.toList.map (matching shortNamePattern "shortName")
    ++ subnets.map (matching subnetIdPattern subnetField)

def DirectoryConstraint.rejection {α : Type} (missing : DirectoryFault) (settings : Option α)
    (requirements : α → List Requirement) (tags : List Tag) : Option DirectoryFault :=
  match settings with
  | none => some missing
  | some settings =>
    (firstFailure [requirements settings, Tag.requirements tags 0]).map .validation

namespace CreateDirectory

def requirements (input : CreateDirectory) (settings : VpcSettings) : List Requirement :=
  DirectoryConstraint.requirements input.password [oneOfIgnoringCase sizes "size" input.size]
    input.name input.description input.shortName "vpcSettings.subnetIds" settings.subnets

def rejection (input : CreateDirectory) : Option DirectoryFault :=
  DirectoryConstraint.rejection .vpcSettingsMissing input.settings input.requirements input.tags

end CreateDirectory

namespace CreateMicrosoftDirectory

def requirements (input : CreateMicrosoftDirectory) (settings : VpcSettings) : List Requirement :=
  DirectoryConstraint.requirements input.password
    (input.edition.toList.map (oneOfIgnoringCase editions "edition"))
    input.name input.description input.shortName "vpcSettings.subnetIds" settings.subnets

def rejection (input : CreateMicrosoftDirectory) : Option DirectoryFault :=
  DirectoryConstraint.rejection .vpcSettingsMissing input.settings input.requirements input.tags

end CreateMicrosoftDirectory

namespace ConnectDirectory

def requirements (input : ConnectDirectory) (settings : ConnectSettings) : List Requirement :=
  DirectoryConstraint.requirements input.password [oneOfIgnoringCase sizes "size" input.size]
    input.name input.description input.shortName "connectSettings.vpcSettings.subnetIds"
    settings.subnets
    ++ [matching userNamePattern "connectSettings.customerUserName" settings.userName]
    ++ settings.dnsAddresses.map (matching addressPattern "connectSettings.customerDnsIps")

def rejection (input : ConnectDirectory) : Option DirectoryFault :=
  DirectoryConstraint.rejection .connectSettingsMissing input.settings input.requirements
    input.tags

end ConnectDirectory

namespace DirectoryDraft

/-- The checks of a draft are what is required of its fields, in the same order. -/
theorem checks_eq {d : DirectoryDraft} (flavor connect : List Requirement)
    (flavored : d.flavorChecks = flavor.map check)
    (connected : (d.connect.map connectChecks).getD [] = connect.map check) :
    d.checks = (DirectoryConstraint.requirements d.password flavor d.name d.description d.shortName
      d.subnetField d.subnets ++ connect).map check := by
  have subnets : (d.subnets.map fun id => Check.of d.subnetField id (.satisfies subnetIdPattern)) =
      (d.subnets.map (matching subnetIdPattern d.subnetField)).map check := by
    rw [List.map_map]
    rfl
  simp only [checks, flavored, connected, checks_lengthAtMost, checks_matching, subnets,
    DirectoryConstraint.requirements, List.map_append]
  rfl

theorem accept_eq {d : DirectoryDraft} {batch : List Requirement}
    (flavor connect : List Requirement) (flavored : d.flavorChecks = flavor.map check)
    (connected : (d.connect.map connectChecks).getD [] = connect.map check)
    (listed : batch = DirectoryConstraint.requirements d.password flavor d.name d.description
      d.shortName d.subnetField d.subnets ++ connect) :
    d.accept = verdict ((firstFailure [batch, Tag.requirements d.tags 0]).map .validation) := by
  rw [accept, checks_eq flavor connect flavored connected, ← listed, Tag.validate_eq_batch,
    validate_batch _ (Tag.requirements d.tags 0), validate_batch_bind]

end DirectoryDraft

theorem CreateDirectory.draft_accept (input : CreateDirectory) :
    (input.draft >>= DirectoryDraft.accept) = verdict input.rejection := by
  unfold draft rejection DirectoryConstraint.rejection
  cases input.settings with
  | none => rfl
  | some settings =>
    exact DirectoryDraft.accept_eq [_] [] rfl rfl (List.append_nil _).symm

theorem CreateMicrosoftDirectory.draft_accept (input : CreateMicrosoftDirectory) :
    (input.draft >>= DirectoryDraft.accept) = verdict input.rejection := by
  unfold draft rejection DirectoryConstraint.rejection
  cases input.settings with
  | none => rfl
  | some settings =>
    exact DirectoryDraft.accept_eq _ [] (checks_ofOption (fun _ => rfl) input.edition) rfl
      (List.append_nil _).symm

theorem ConnectDirectory.draft_accept (input : ConnectDirectory) :
    (input.draft >>= DirectoryDraft.accept) = verdict input.rejection := by
  unfold draft rejection DirectoryConstraint.rejection
  cases input.settings with
  | none => rfl
  | some settings =>
    refine DirectoryDraft.accept_eq [_] _ rfl ?_ (List.append_assoc _ _ _)
    rw [List.map_append, List.map_map]
    rfl

def DirectoryFault.OfForm : DirectoryFault → Prop
  | validation _ | vpcSettingsMissing | connectSettingsMissing => True
  | _ => False

namespace DirectoryService

abbrev Later (e : DirectoryFault) : Prop := ¬e.OfForm

theorem failsIn_requireRoom (s : DirectoryService) (type : DirectoryType) :
    FailsIn (· = .directoryLimit (s.quotas.limit type)) (s.requireRoom type) := by
  unfold requireRoom
  split
  · exact .error rfl
  · exact .ok

theorem failsIn_requireFewTags (tags : List Tag) :
    FailsIn (· = .tagLimit) (requireFewTags tags) := by
  unfold requireFewTags
  split
  · exact .error rfl
  · exact .ok

theorem failsIn_allocate (used : List String) (subnets : List Subnet) :
    FailsIn (fun e => ∃ subnet, e = .noFreeAddress subnet) (allocate used subnets) := by
  induction subnets with
  | nil => exact .ok
  | cons n rest ih =>
    rw [allocate]
    split
    · exact .error ⟨n.id, rfl⟩
    · exact ih.map

theorem failsIn_register (s : DirectoryService) (at_ : Moment) (d : DirectoryDraft)
    (subnets : List Subnet) :
    FailsIn (fun e => ∃ subnet, e = .noFreeAddress subnet) (s.register at_ d subnets) :=
  .bind (failsIn_allocate _ subnets) fun _ _ => .ok

theorem failsIn_locate (vpc : String) (ids : List String) :
    Lookup.FailsIn Later (locate vpc ids) := by
  refine .guard id fun _ => ?_
  refine .bind (.orElseFail id) fun zones _ => ?_
  refine .guard id fun _ => ?_
  refine .bind (.orElseFail id) fun _ _ => ?_
  refine .bind (.orElseFail id) fun subnets _ => ?_
  split
  · exact .throw id
  · exact .pure

theorem create_of_rejected (s : DirectoryService) (at_ : Moment)
    {draft : Except DirectoryFault DirectoryDraft} {e : DirectoryFault}
    (rejected : (draft >>= DirectoryDraft.accept) = .error e) :
    (s.create at_ draft).run = .done (.error e) := by
  cases draft with
  | error e' =>
    cases rejected
    rfl
  | ok d =>
    have refused : d.accept = .error e := rejected
    have first : s.create at_ (.ok d) = create.liftExcept d.accept >>= fun _ => _ := rfl
    rw [first, refused]
    rfl

theorem failsIn_create (s : DirectoryService) (at_ : Moment)
    {draft : Except DirectoryFault DirectoryDraft}
    (accepted : (draft >>= DirectoryDraft.accept) = .ok ()) :
    Lookup.FailsIn Later (s.create at_ draft) := by
  obtain ⟨d, rfl, passed⟩ := bind_eq_ok_iff.mp accepted
  refine .bind (.lift .ok) fun d' known => ?_
  obtain rfl := Except.ok.inj (Lookup.succeeds_mk_pure_iff.mp known)
  refine .bind (.lift (passed ▸ .ok)) fun _ _ => ?_
  refine .bind (failsIn_locate d.vpc d.subnets) fun subnets _ => ?_
  refine .bind (.lift ((failsIn_requireRoom s d.type).mono ?_)) fun _ _ => ?_
  · rintro e rfl
    exact id
  refine .bind (.lift ((failsIn_requireFewTags d.tags).mono ?_)) fun _ _ => ?_
  · rintro e rfl
    exact id
  refine .lift ((failsIn_register s at_ d subnets).mono ?_)
  rintro e ⟨subnet, rfl⟩
  exact id

theorem ofForm_of_code {e : DirectoryFault} (h : Fault.code e = "ValidationException") :
    e.OfForm := by
  cases e with
  | validation e => trivial
  | _ => simp [Fault.code, DirectoryFault.code] at h

theorem formFirst {Input : Type} {input : Codec Input} {output : Codec String}
    {draft : Input → Except DirectoryFault DirectoryDraft}
    {rejection : Input → Option DirectoryFault}
    (accepts : ∀ input, (draft input >>= DirectoryDraft.accept) = verdict (rejection input))
    (ofForm : ∀ input e, rejection input = some e → e.OfForm) :
    FormFirst
      (⟨Input, String, input, output, fun s at_ i => (s.create at_ (draft i)).run⟩ : Op)
      (fun _ => 0) (fun _ => rejection) DirectoryFault.OfForm := by
  refine .of_passes (fun _ => ofForm_of_code) ?_ ?_
  · intro s at_ i e refused
    refine ⟨ofForm i e refused, create_of_rejected s at_ ?_⟩
    rw [accepts, refused]
    rfl
  · intro s at_ i passed
    refine failsIn_create s at_ ?_
    rw [accepts, passed]
    rfl

theorem ofForm_of_rejection {α : Type} {missing e : DirectoryFault} {settings : Option α}
    {requirements : α → List Requirement} {tags : List Tag}
    (h : DirectoryConstraint.rejection missing settings requirements tags = some e)
    (absent : missing.OfForm) : e.OfForm := by
  cases settings with
  | none =>
    cases h
    exact absent
  | some settings =>
    obtain ⟨violations, -, rfl⟩ := Option.map_eq_some_iff.mp h
    trivial

theorem createDirectory_formFirst :
    FormFirst createDirectoryOp (fun _ => 0) (fun _ => CreateDirectory.rejection)
      DirectoryFault.OfForm :=
  formFirst CreateDirectory.draft_accept fun _ _ h => ofForm_of_rejection h trivial

theorem createMicrosoft_formFirst :
    FormFirst createMicrosoftOp (fun _ => 0) (fun _ => CreateMicrosoftDirectory.rejection)
      DirectoryFault.OfForm :=
  formFirst CreateMicrosoftDirectory.draft_accept fun _ _ h => ofForm_of_rejection h trivial

theorem connectDirectory_formFirst :
    FormFirst connectDirectoryOp (fun _ => 0) (fun _ => ConnectDirectory.rejection)
      DirectoryFault.OfForm :=
  formFirst ConnectDirectory.draft_accept fun _ _ h => ofForm_of_rejection h trivial

end DirectoryService

end ControlPlane
