import ControlPlane.Proofs.Directory.Form
import ControlPlane.Proofs.Directory.Note
import ControlPlane.Proofs.Directory.Quota
import Mathlib.Logic.Function.Basic

/-!
Directories of each type, counted from what requests were answered. A deletion tells an id only; the
type that it takes away is that of the directory last created under the id. The count that the
service takes from its register, at two places, is the difference of what was created and what was
deleted.
-/

namespace ControlPlane

def DirectoryType.createdBy : String → Option DirectoryType
  | "CreateDirectory" => some .simple
  | "CreateMicrosoftAD" => some .microsoft
  | "ConnectDirectory" => some .connector
  | _ => none

/-- How many directories of each type were created and deleted since the service was last empty,
with the type of the one that was last created under an id. -/
structure Tally where
  types : String → Option DirectoryType
  created : DirectoryType → Nat
  deleted : DirectoryType → Nat

namespace Tally

def zero : Tally := ⟨fun _ => none, fun _ => 0, fun _ => 0⟩

def oneMore (counts : DirectoryType → Nat) (type : DirectoryType) : DirectoryType → Nat :=
  Function.update counts type (counts type + 1)

def next (t : Tally) (type? : Option DirectoryType) : Note → Tally
  | .came id | .put id =>
    match type? with
    | some type =>
      { t with types := Function.update t.types id type, created := oneMore t.created type }
    | none => t
  | .went id =>
    match t.types id with
    | some type => { t with deleted := oneMore t.deleted type }
    | none => t
  | .cleared => zero
  | .nothing => t

def current (t : Tally) (type : DirectoryType) : Nat := t.created type - t.deleted type

theorem oneMore_apply (counts : DirectoryType → Nat) (type other : DirectoryType) :
    oneMore counts type other = counts other + if type = other then 1 else 0 := by
  by_cases same : type = other
  · subst same
    simp [oneMore]
  · simp [oneMore, same, Function.update_of_ne (Ne.symm same)]

/-- The register holds what the tally tells. -/
structure Agrees (t : Tally) (s : DirectoryService) : Prop where
  types : ∀ d ∈ s.directories.records, t.types d.id = some d.type
  balance : ∀ type, s.count type + t.deleted type = t.created type

theorem Agrees.count_eq {t : Tally} {s : DirectoryService} (h : t.Agrees s) (type : DirectoryType) :
    s.count type = t.current type := by
  have balance := h.balance type
  rw [current]
  omega

/-- What a limit looks like by the tally. No other type has a part in it. -/
def usage (t : Tally) (quotas : DirectoryQuotas) (type : DirectoryType) : Usage :=
  { limit := quotas.limit type
    current := t.current type
    reached := quotas.limit type ≤ t.current type }

theorem Agrees.usage_eq {t : Tally} {s : DirectoryService} (h : t.Agrees s) (type : DirectoryType) :
    s.usage type = t.usage s.quotas type := by
  rw [DirectoryService.usage, usage, h.count_eq type]

theorem agrees_zero (scope : Scope) (quotas : DirectoryQuotas) :
    zero.Agrees (.empty scope quotas) where
  types _ hd := nomatch hd
  balance _ := rfl

end Tally

def Usage.members (name : String) (u : Usage) : List (String × Json) :=
  [(name ++ "Limit", .int u.limit), (name ++ "CurrentCount", .int u.current),
    (name ++ "LimitReached", .bool u.reached)]

def limitsReport (usage : DirectoryType → Usage) : Json :=
  .obj [("DirectoryLimits", .obj
    ((usage .simple).members "CloudOnlyDirectories"
      ++ (usage .microsoft).members "CloudOnlyMicrosoftAD"
      ++ (usage .connector).members "ConnectedDirectories"))]

namespace DirectoryService

open Lookup hiding vpc subnet securityGroup

variable {views : Set NetworkView} {s s' : DirectoryService} {at_ : Moment} {t : Tally}

theorem decodeBag_ignored (bag : Json) : Codec.ignored.decodeBag bag = .ok () := by
  cases bag <;> rfl

theorem serve_limits (s : DirectoryService) (at_ : Moment) (bag : Json) :
    operations.serve s at_ "GetDirectoryLimits" bag = .done (.ok (limitsReport s.usage, s)) := by
  simp only [Catalog.serve, operations, Operation.serve, limitsOp, Operation.reading,
    decodeBag_ignored]
  rfl

theorem agrees_of_create {draft : Except DirectoryFault DirectoryDraft} {id : String}
    {type : DirectoryType} (typed : ∀ d, draft = .ok d → d.type = type)
    (h : Succeeds views (s.create at_ draft) (id, s')) (agrees : t.Agrees s) :
    (t.next (some type) (.came id)).Agrees s' := by
  obtain ⟨d, subnets, drafted, -, -, -, -, registered⟩ := succeeds_create_iff.mp h
  obtain ⟨texts, -, fresh, rfl⟩ := register_eq_ok_iff.mp registered
  obtain rfl := typed d drafted
  have free : s.directories.contains id = false :=
    fresh ▸ Identifier.contains_fresh s.directories "d" idDigits at_.draws
  refine ⟨fun e he => ?_, fun other => ?_⟩
  · rcases Registry.eq_or_mem_of_mem_insert he with rfl | old
    · exact Function.update_self _ _ _
    · have apart := Registry.contains_eq_false_iff.mp free e old
      exact (Function.update_of_ne apart _ _).trans (agrees.types e old)
  · have balance := agrees.balance other
    let new := build d id at_.now subnets texts
    let tags := s.tags.tag id d.tags
    have counted :
        count { s with directories := s.directories.insert new, tags := tags } other =
          s.count other + if d.type = other then 1 else 0 :=
      count_insert (s := s) (d := new) free tags
    change count { s with directories := s.directories.insert new, tags := tags } other +
      t.deleted other = Tally.oneMore t.created d.type other
    rw [counted, Tally.oneMore_apply]
    omega

theorem agrees_of_delete {d : Directory} (live : s.directories.get? d.id = some d) (tags : TagStore)
    (agrees : t.Agrees s) (type? : Option DirectoryType) :
    (t.next type? (.went d.id)).Agrees
      { s with directories := s.directories.remove d.id, tags := tags } := by
  have known := agrees.types d (Registry.mem_of_get? live)
  simp only [Tally.next, known]
  refine ⟨fun e he => agrees.types e (Registry.mem_remove_iff.mp he).1, fun other => ?_⟩
  have balance := agrees.balance other
  rw [count_remove live tags] at balance
  change _ + Tally.oneMore t.deleted d.type other = t.created other
  rw [Tally.oneMore_apply]
  omega

theorem agrees_of_replace {old new : Directory} (live : s.directories.get? new.id = some old)
    (same : new.type = old.type) (agrees : t.Agrees s) :
    t.Agrees { s with directories := s.directories.insert new } := by
  refine ⟨fun e he => ?_, fun type => ?_⟩
  · rcases Registry.eq_or_mem_of_mem_insert he with rfl | kept
    · have known := agrees.types old (Registry.mem_of_get? live)
      have key : old.id = e.id := Registry.key_of_get? live
      rw [← key, same]
      exact known
    · exact agrees.types e kept
  · rw [count_replace live same]
    exact agrees.balance type

theorem agrees_of_same (agrees : t.Agrees s) (same : s'.directories = s.directories) :
    t.Agrees s' := by
  refine ⟨?_, fun type => ?_⟩
  · rw [same]
    exact agrees.types
  · have counted : s'.count type = s.count type := by
      rw [count, count, same]
    rw [counted]
    exact agrees.balance type

theorem type_of_createDirectory {input : CreateDirectory} {d : DirectoryDraft}
    (h : input.draft = .ok d) : d.type = .simple := by
  rw [CreateDirectory.draft] at h
  split at h <;> cases h
  rfl

theorem type_of_createMicrosoft {input : CreateMicrosoftDirectory} {d : DirectoryDraft}
    (h : input.draft = .ok d) : d.type = .microsoft := by
  rw [CreateMicrosoftDirectory.draft] at h
  split at h <;> cases h
  rfl

theorem type_of_connectDirectory {input : ConnectDirectory} {d : DirectoryDraft}
    (h : input.draft = .ok d) : d.type = .connector := by
  rw [ConnectDirectory.draft] at h
  split at h <;> cases h
  rfl

/-- A request that is served does to the register what its answer does to the tally. -/
theorem agrees_of_run {name : String} {op : Op} {input : op.Input} {output : op.Output}
    (hop : operations name = some op)
    (h : .ok (output, s') ∈ (op.run s at_ input).outcomes views) (bag : Json)
    (agrees : t.Agrees s) :
    (t.next (DirectoryType.createdBy name)
      (ResourceKind.directory.note name bag (op.output.encode output))).Agrees s' := by
  simp only [operations] at hop
  split at hop <;> cases hop
  case h_1 => exact agrees_of_create (fun _ => type_of_createDirectory) h agrees
  case h_2 => exact agrees_of_create (fun _ => type_of_createMicrosoft) h agrees
  case h_3 => exact agrees_of_create (fun _ => type_of_connectDirectory) h agrees
  case h_4 =>
    obtain ⟨-, d, found, rfl, rfl⟩ := deleteDirectory_eq_ok_iff.mp h.symm
    have same : d.id = input := Registry.key_of_get? found
    subst same
    exact agrees_of_delete found _ agrees none
  case h_5 => exact state_of_look h.symm ▸ agrees
  case h_6 => exact state_of_look h.symm ▸ agrees
  case h_7 =>
    obtain ⟨-, -, -, rfl⟩ := addTags_eq_ok_iff.mp h.symm
    exact agrees_of_same agrees rfl
  case h_8 =>
    obtain ⟨-, rfl⟩ := removeTags_eq_ok_iff.mp h.symm
    exact agrees_of_same agrees rfl
  case h_9 => exact state_of_look h.symm ▸ agrees
  case h_10 =>
    obtain ⟨-, d, found, -, -, -, rfl⟩ := createAlias_eq_ok_iff.mp h.symm
    exact agrees_of_replace (live_of_get? found).1 rfl agrees
  case h_11 =>
    obtain ⟨-, d, found, -, rfl⟩ := enableSso_eq_ok_iff.mp h.symm
    exact agrees_of_replace (live_of_get? found).1 rfl agrees
  case h_12 =>
    obtain ⟨-, d, found, rfl⟩ := disableSso_eq_ok_iff.mp h.symm
    exact agrees_of_replace (live_of_get? found).1 rfl agrees

/-- No creation that succeeds goes unnoted. -/
theorem exists_came {name : String} {type : DirectoryType}
    (creates : DirectoryType.createdBy name = some type) {op : Op} (output : op.Output)
    (hop : operations name = some op) (bag : Json) :
    ∃ id, ResourceKind.directory.note name bag (op.output.encode output) = .came id := by
  unfold DirectoryType.createdBy at creates
  split at creates
  · cases hop
    exact ⟨output, rfl⟩
  · cases hop
    exact ⟨output, rfl⟩
  · cases hop
    exact ⟨output, rfl⟩
  · cases creates

theorem exists_went {id answer : String} (h : s.deleteDirectory id = .ok (answer, s'))
    (agrees : t.Agrees s) (bag : Json) :
    ∃ id type, ResourceKind.directory.note "DeleteDirectory" bag (idAnswer.encode answer) =
      .went id ∧ t.types id = some type := by
  obtain ⟨-, d, found, rfl, -⟩ := deleteDirectory_eq_ok_iff.mp h
  exact ⟨d.id, d.type, rfl, agrees.types d (Registry.mem_of_get? found)⟩

def draftOf? (action : String) (bag : Json) : Option DirectoryDraft :=
  match action with
  | "CreateDirectory" => drafted CreateDirectory.record.codec CreateDirectory.draft
  | "CreateMicrosoftAD" =>
    drafted CreateMicrosoftDirectory.record.codec CreateMicrosoftDirectory.draft
  | "ConnectDirectory" => drafted ConnectDirectory.record.codec ConnectDirectory.draft
  | _ => none
where
  drafted {α : Type} (c : Codec α) (draft : α → Except DirectoryFault DirectoryDraft) :
      Option DirectoryDraft :=
    match c.decodeBag bag with
    | .ok input => (draft input).toOption
    | .error _ => none

/-- A request for a directory that passes all that comes before the quota: it brings what it must,
in good form, and its subnets are two of the cloud in different zones. -/
def Passes (view : NetworkView) (action : String) (bag : Json) : Prop :=
  ∃ d subnets, draftOf? action bag = some d ∧ d.accept = .ok () ∧
    (locate d.vpc d.subnets).run.answer view = .ok subnets

section Room

variable (at_) {view : NetworkView} {action : String} {bag : Json} {d : DirectoryDraft}

theorem exists_of_drafted {α : Type} {c : Codec α}
    {draft : α → Except DirectoryFault DirectoryDraft}
    (h : draftOf?.drafted bag c draft = some d) :
    ∃ input, c.decodeBag bag = .ok input ∧ draft input = .ok d := by
  rw [draftOf?.drafted] at h
  cases decoded : c.decodeBag bag with
  | error e =>
    rw [decoded] at h
    cases h
  | ok input =>
    simp only [decoded] at h
    refine ⟨input, rfl, ?_⟩
    cases drafted : draft input with
    | error e =>
      rw [drafted] at h
      cases h
    | ok d' =>
      rw [drafted] at h
      exact congrArg Except.ok (Option.some.inj h)

theorem createdBy_of_draftOf? (h : draftOf? action bag = some d) :
    DirectoryType.createdBy action = some d.type := by
  unfold draftOf? at h
  split at h
  · obtain ⟨input, -, drafted⟩ := exists_of_drafted h
    rw [type_of_createDirectory drafted]
    rfl
  · obtain ⟨input, -, drafted⟩ := exists_of_drafted h
    rw [type_of_createMicrosoft drafted]
    rfl
  · obtain ⟨input, -, drafted⟩ := exists_of_drafted h
    rw [type_of_connectDirectory drafted]
    rfl
  · cases h

def answered (r : Except DirectoryFault (String × DirectoryService)) :
    Except ServiceError (Json × DirectoryService) :=
  (r.map fun (id, s') => (idAnswer.encode id, s')).mapError .ofFault

theorem serve_of_drafted {α : Type} {c : Codec α}
    {draft : α → Except DirectoryFault DirectoryDraft} {input : α}
    (decoded : c.decodeBag bag = .ok input) (drafted : draft input = .ok d) :
    ((⟨α, String, c, idAnswer, fun s at_ i => (s.create at_ (draft i)).run⟩ : Op).serve s at_
        bag).answer view = answered ((s.create at_ (.ok d)).run.answer view) := by
  simp only [Operation.serve, decoded, drafted, Lookup.answer_bind]
  cases (s.create at_ (.ok d)).run.answer view with
  | error e => rfl
  | ok result => rfl

theorem serve_of_draftOf? (h : draftOf? action bag = some d) :
    (operations.serve s at_ action bag).answer view =
      answered ((s.create at_ (.ok d)).run.answer view) := by
  unfold draftOf? at h
  split at h
  · obtain ⟨input, decoded, drafted⟩ := exists_of_drafted h
    exact serve_of_drafted at_ decoded drafted
  · obtain ⟨input, decoded, drafted⟩ := exists_of_drafted h
    exact serve_of_drafted at_ decoded drafted
  · obtain ⟨input, decoded, drafted⟩ := exists_of_drafted h
    exact serve_of_drafted at_ decoded drafted
  · cases h

theorem answer_of_located {subnets : List Subnet} (accepted : d.accept = .ok ())
    (located : (locate d.vpc d.subnets).run.answer view = .ok subnets) :
    (s.create at_ (.ok d)).run.answer view =
      s.requireRoom d.type >>= fun _ =>
        requireFewTags d.tags >>= fun _ => s.register at_ d subnets := by
  have lifted : ∀ {α : Type} (r : Except DirectoryFault α),
      (create.liftExcept r).run.answer view = r := fun _ => rfl
  have passes : (s.create at_ (.ok d)).run.answer view =
      d.accept >>= fun _ => (locate d.vpc d.subnets).run.answer view >>= fun subnets =>
        s.requireRoom d.type >>= fun _ =>
          requireFewTags d.tags >>= fun _ => s.register at_ d subnets := by
    simp only [create, Lookup.answer_run_bind, lifted]
    rfl
  rw [passes, accepted, located]
  rfl

theorem failsIn_afterRoom (d : DirectoryDraft) (subnets : List Subnet) :
    FailsIn (fun e : DirectoryFault => e.code ≠ "DirectoryLimitExceededException")
      (requireFewTags d.tags >>= fun _ => s.register at_ d subnets) := by
  refine .bind ((failsIn_requireFewTags d.tags).mono ?_) fun _ _ =>
    (failsIn_register s at_ d subnets).mono ?_
  · rintro e rfl
    decide
  · rintro e ⟨subnet, rfl⟩
    simp [DirectoryFault.code]

theorem serve_of_full {type : DirectoryType} (creates : DirectoryType.createdBy action = some type)
    (passes : Passes view action bag) (full : s.quotas.limit type ≤ s.count type) :
    (operations.serve s at_ action bag).answer view =
      .error (.ofFault (DirectoryFault.directoryLimit (s.quotas.limit type))) := by
  obtain ⟨d, subnets, drafted, accepted, located⟩ := passes
  obtain rfl := Option.some.inj (creates.symm.trans (createdBy_of_draftOf? drafted))
  have refused : s.requireRoom d.type = .error (.directoryLimit (s.quotas.limit d.type)) :=
    if_pos full
  rw [serve_of_draftOf? at_ drafted, answer_of_located at_ accepted located, refused]
  rfl

theorem code_of_room {type : DirectoryType} (creates : DirectoryType.createdBy action = some type)
    (passes : Passes view action bag) (room : s.count type < s.quotas.limit type) {e : ServiceError}
    (h : (operations.serve s at_ action bag).answer view = .error e) :
    e.code ≠ "DirectoryLimitExceededException" := by
  obtain ⟨d, subnets, drafted, accepted, located⟩ := passes
  obtain rfl := Option.some.inj (creates.symm.trans (createdBy_of_draftOf? drafted))
  have enough : s.requireRoom d.type = .ok () := requireRoom_eq_ok_iff.mpr room
  have left : s.requireRoom d.type >>= (fun _ => requireFewTags d.tags >>= fun _ =>
      s.register at_ d subnets) = requireFewTags d.tags >>= fun _ => s.register at_ d subnets := by
    rw [enough]
    rfl
  rw [serve_of_draftOf? at_ drafted, answer_of_located at_ accepted located, left] at h
  cases failed : requireFewTags d.tags >>= fun _ => s.register at_ d subnets with
  | error fault =>
    rw [failed] at h
    cases h
    exact failsIn_afterRoom at_ d subnets fault failed
  | ok result =>
    rw [failed] at h
    cases h

end Room

end DirectoryService

end ControlPlane
