import ControlPlane.Proofs.Directory.Secret
import ControlPlane.Proofs.Region.Run

/-!
Two histories of a region that differ in passwords. As long as the rule for passwords accepts both
or neither of each pair, all requests are answered the same, and the regions that come of it differ
in stored passwords and nowhere else.
-/

namespace ControlPlane.Region

open DirectoryConstraint

variable {r r' : Region} {at_ : Moment} {service : ServiceName} {action : String} {bag bag' : Json}

def withoutPasswords (r : Region) : Region := { r with directory := r.directory.withoutPasswords }

/-- The steps are the same, or both ask for a directory of the same kind, at the same time and with
the same draws, in bags that are read as inputs that differ in the password only; the rule for
passwords accepts both or neither. -/
inductive Step.Alike : Step → Step → Prop where
  | same (step : Step) : Alike step step
  | createDirectory (at_ : Moment) (bag bag' : Json) (input : CreateDirectory) (password : String)
    (read : CreateDirectory.record.codec.decodeBag bag = .ok input)
    (read' : CreateDirectory.record.codec.decodeBag bag' = .ok { input with password := password })
    (agree : passwordPattern.accepts input.password = passwordPattern.accepts password) :
    Alike (.request at_ .directory "CreateDirectory" bag)
      (.request at_ .directory "CreateDirectory" bag')
  | createMicrosoft (at_ : Moment) (bag bag' : Json) (input : CreateMicrosoftDirectory)
    (password : String)
    (read : CreateMicrosoftDirectory.record.codec.decodeBag bag = .ok input)
    (read' : CreateMicrosoftDirectory.record.codec.decodeBag bag' =
      .ok { input with password := password })
    (agree : passwordPattern.accepts input.password = passwordPattern.accepts password) :
    Alike (.request at_ .directory "CreateMicrosoftAD" bag)
      (.request at_ .directory "CreateMicrosoftAD" bag')
  | connect (at_ : Moment) (bag bag' : Json) (input : ConnectDirectory) (password : String)
    (read : ConnectDirectory.record.codec.decodeBag bag = .ok input)
    (read' : ConnectDirectory.record.codec.decodeBag bag' = .ok { input with password := password })
    (agree : passwordPattern.accepts input.password = passwordPattern.accepts password) :
    Alike (.request at_ .directory "ConnectDirectory" bag)
      (.request at_ .directory "ConnectDirectory" bag')

/-- An answer, and what is left of the region but for passwords. -/
def told (result : Except ServiceError (Json × Region)) : Except ServiceError (Json × Region) :=
  (fun a => (a.1, a.2.withoutPasswords)) <$> result

theorem told_serve_directory (r : Region) (at_ : Moment) (action : String) (bag : Json) :
    told (r.serve at_ .directory action bag) =
      (fun a => (a.1, { r with directory := a.2 })) <$> (DirectoryService.concealed <$>
        (DirectoryService.operations.serve r.directory at_ action bag).answer r.network.view) := by
  rw [serve]
  cases (DirectoryService.operations.serve r.directory at_ action bag).answer r.network.view <;> rfl

theorem told_map_congr {σ : Type} (result : Except ServiceError (Json × σ)) {put put' : σ → Region}
    (same : ∀ s, (put s).withoutPasswords = (put' s).withoutPasswords) :
    told (result.map fun (j, s) => (j, put s)) = told (result.map fun (j, s) => (j, put' s)) := by
  cases result with
  | error e => rfl
  | ok a => exact congrArg (fun r => Except.ok (a.1, r)) (same a.2)

theorem told_serve_withoutPasswords (r : Region) (at_ : Moment) (service : ServiceName)
    (action : String) (bag : Json) :
    told (r.withoutPasswords.serve at_ service action bag) =
      told (r.serve at_ service action bag) := by
  have twice := r.directory.withoutPasswords_withoutPasswords
  cases service with
  | network =>
    have kept : ∀ s, withoutPasswords { r.withoutPasswords with network := s } =
        withoutPasswords { r with network := s } := fun s =>
      congrArg (fun d => { r with network := s, directory := d }) twice
    exact told_map_congr _ kept
  | directory =>
    rw [told_serve_directory, told_serve_directory]
    exact congrArg _ (DirectoryService.concealed_serve_withoutPasswords _ _ at_ action bag)
  | resolver =>
    have kept : ∀ s, withoutPasswords { r.withoutPasswords with resolver := s } =
        withoutPasswords { r with resolver := s } := fun s =>
      congrArg (fun d => { r with resolver := s, directory := d }) twice
    exact told_map_congr _ kept
  | delivery =>
    have kept : ∀ s, withoutPasswords { r.withoutPasswords with delivery := s } =
        withoutPasswords { r with delivery := s } := fun s =>
      congrArg (fun d => { r with delivery := s, directory := d }) twice
    exact told_map_congr _ kept
  | signing =>
    have kept : ∀ s, withoutPasswords { r.withoutPasswords with signing := s } =
        withoutPasswords { r with signing := s } := fun s =>
      congrArg (fun d => { r with signing := s, directory := d }) twice
    exact told_map_congr _ kept

theorem told_serve_creating {Input : Type} {input : Codec Input}
    {draftOf : Input → Except DirectoryFault DirectoryDraft} {i i' : Input}
    {draft : Except DirectoryFault DirectoryDraft} {password other : String}
    (hop : DirectoryService.operations action = some (DirectoryService.creatingOp input draftOf))
    (read : input.decodeBag bag = .ok i) (read' : input.decodeBag bag' = .ok i')
    (drafted : draftOf i = draft.map (·.withPassword password))
    (drafted' : draftOf i' = draft.map (·.withPassword other))
    (agree : passwordPattern.accepts password = passwordPattern.accepts other) (r : Region)
    (at_ : Moment) :
    told (r.serve at_ .directory action bag) = told (r.serve at_ .directory action bag') := by
  rw [told_serve_directory, told_serve_directory]
  refine congrArg _ ?_
  rw [DirectoryService.concealed_serve_of_decode hop read,
    DirectoryService.concealed_serve_of_decode hop read']
  simp only [DirectoryService.creatingOp, drafted, drafted']
  exact DirectoryService.told_create_withPassword _ _ at_ draft agree

theorem told_serve_alike (r : Region)
    (alike : Step.Alike (.request at_ service action bag) (.request at_ service action bag')) :
    told (r.serve at_ service action bag) = told (r.serve at_ service action bag') := by
  cases alike with
  | same => rfl
  | createDirectory _ _ _ input password read read' agree =>
    exact told_serve_creating rfl read read' (input.draft_withPassword input.password)
      (input.draft_withPassword password) agree r at_
  | createMicrosoft _ _ _ input password read read' agree =>
    exact told_serve_creating rfl read read' (input.draft_withPassword input.password)
      (input.draft_withPassword password) agree r at_
  | connect _ _ _ input password read read' agree =>
    exact told_serve_creating rfl read read' (input.draft_withPassword input.password)
      (input.draft_withPassword password) agree r at_

theorem withoutPasswords_reset (r : Region) (service : ServiceName) :
    (r.reset service).withoutPasswords = r.withoutPasswords.reset service := by
  cases service <;> rfl

/-! What is told of a request is its reply and, but for passwords, the region after it. -/

theorem reply_eq_told (r : Region) (at_ : Moment) (service : ServiceName) (action : String)
    (bag : Json) :
    r.reply (.request at_ service action bag) =
      some ((told (r.serve at_ service action bag)).map Prod.fst) := by
  rw [reply]
  cases r.serve at_ service action bag <;> rfl

theorem after_eq_told (r : Region) (at_ : Moment) (service : ServiceName) (action : String)
    (bag : Json) :
    (r.after (.request at_ service action bag)).withoutPasswords =
      match told (r.serve at_ service action bag) with
      | .ok a => a.2
      | .error _ => r.withoutPasswords := by
  rw [after]
  cases r.serve at_ service action bag <;> rfl

theorem alike_request (same : r.withoutPasswords = r'.withoutPasswords)
    (alike : Step.Alike (.request at_ service action bag) (.request at_ service action bag')) :
    r.reply (.request at_ service action bag) = r'.reply (.request at_ service action bag') ∧
      (r.after (.request at_ service action bag)).withoutPasswords =
        (r'.after (.request at_ service action bag')).withoutPasswords := by
  have told_eq : told (r.serve at_ service action bag) = told (r'.serve at_ service action bag') :=
    calc told (r.serve at_ service action bag)
        = told (r.withoutPasswords.serve at_ service action bag) :=
          (told_serve_withoutPasswords r at_ service action bag).symm
      _ = told (r'.serve at_ service action bag) := by rw [same, told_serve_withoutPasswords]
      _ = told (r'.serve at_ service action bag') := told_serve_alike r' alike
  rw [reply_eq_told, reply_eq_told, after_eq_told, after_eq_told, told_eq, same]
  exact ⟨rfl, rfl⟩

theorem alike_after {step step' : Step} (same : r.withoutPasswords = r'.withoutPasswords)
    (alike : Step.Alike step step') :
    r.reply step = r'.reply step' ∧
      (r.after step).withoutPasswords = (r'.after step').withoutPasswords := by
  cases alike with
  | same step =>
    cases step with
    | request at_ service action bag => exact alike_request same (.same _)
    | reset service =>
      refine ⟨rfl, ?_⟩
      rw [after, after, withoutPasswords_reset, withoutPasswords_reset, same]
    | restart =>
      have scopes := congrArg scope same
      have quotas := congrArg Region.quotas same
      exact ⟨rfl, congrArg₂ (fun scope quotas => (new scope quotas).withoutPasswords) scopes quotas⟩
  | createDirectory at_ bag bag' input password read read' agree =>
    exact alike_request same (.createDirectory at_ bag bag' input password read read' agree)
  | createMicrosoft at_ bag bag' input password read read' agree =>
    exact alike_request same (.createMicrosoft at_ bag bag' input password read read' agree)
  | connect at_ bag bag' input password read read' agree =>
    exact alike_request same (.connect at_ bag bag' input password read read' agree)

theorem alike_run {steps steps' : List Step} (same : r.withoutPasswords = r'.withoutPasswords)
    (alike : List.Forall₂ Step.Alike steps steps') :
    r.replies steps = r'.replies steps' ∧
      (steps.foldl after r).withoutPasswords = (steps'.foldl after r').withoutPasswords := by
  induction alike generalizing r r' with
  | nil => exact ⟨rfl, same⟩
  | cons step _ ih =>
    obtain ⟨replied, after⟩ := alike_after same step
    obtain ⟨others, last⟩ := ih after
    exact ⟨by rw [replies, replies, replied, others], last⟩

/-- No answer tells a password. Two histories of a region that differ in passwords alone, where the
rule for passwords accepts both or neither of each pair, are answered the same at every step, and
the regions they end with differ in stored passwords and nowhere else. -/
theorem passwords_not_told (r : Region) {steps steps' : List Step}
    (alike : List.Forall₂ Step.Alike steps steps') :
    r.replies steps = r.replies steps' ∧
      (steps.foldl after r).withoutPasswords = (steps'.foldl after r).withoutPasswords :=
  alike_run rfl alike

def directoryBag (password : String) : Json :=
  .obj [("Name", .str "corp.example.com"), ("Password", .str password), ("Size", .str "Small"),
    ("VpcSettings", .obj [("VpcId", .str "vpc-00000000000000005"),
      ("SubnetIds", .arr [.str "subnet-00000000000000006", .str "subnet-00000000000000007"])])]

def describedDirectory (password : String) : List Step :=
  [.request ⟨default, [5]⟩ .network "CreateVpc" (.obj [("CidrBlock", .str "10.0.0.0/16")]),
    .request ⟨default, [6]⟩ .network "CreateSubnet"
      (.obj [("VpcId", .str "vpc-00000000000000005"), ("CidrBlock", .str "10.0.0.0/24"),
        ("AvailabilityZone", .str "eu-west-1a")]),
    .request ⟨default, [7]⟩ .network "CreateSubnet"
      (.obj [("VpcId", .str "vpc-00000000000000005"), ("CidrBlock", .str "10.0.1.0/24"),
        ("AvailabilityZone", .str "eu-west-1b")]),
    .request ⟨default, [8]⟩ .directory "CreateDirectory" (directoryBag password),
    .request ⟨default, []⟩ .directory "DescribeDirectories" (.obj [])]

theorem passwords_not_told_describedDirectory :
    let r := new ⟨"123456789012", "eu-west-1", "aws"⟩ .standard
    let stored := fun password : String =>
      ((describedDirectory password).foldl after r).directory.directories.records.map (·.password)
    List.Forall₂ Step.Alike (describedDirectory "Passw0rd!") (describedDirectory "Secr3t!!") ∧
      r.replies (describedDirectory "Passw0rd!") = r.replies (describedDirectory "Secr3t!!") ∧
      stored "Passw0rd!" = ["Passw0rd!"] ∧ stored "Secr3t!!" = ["Secr3t!!"] := by
  intro r stored
  have read : ∀ password, CreateDirectory.record.codec.decodeBag (directoryBag password) =
      .ok ⟨"corp.example.com", none, password, none, "Small",
        some ⟨"vpc-00000000000000005", ["subnet-00000000000000006", "subnet-00000000000000007"]⟩,
        []⟩ := fun _ => rfl
  have creation := Step.Alike.createDirectory ⟨default, [8]⟩ _ _ _ "Secr3t!!" (read "Passw0rd!")
    (read "Secr3t!!") (by decide)
  have alike : List.Forall₂ Step.Alike (describedDirectory "Passw0rd!")
      (describedDirectory "Secr3t!!") :=
    .cons (.same _) (.cons (.same _) (.cons (.same _) (.cons creation (.cons (.same _) .nil))))
  exact ⟨alike, (passwords_not_told r alike).1, by decide +kernel, by decide +kernel⟩

end ControlPlane.Region
