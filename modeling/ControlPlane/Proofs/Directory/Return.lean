import ControlPlane.Proofs.Directory.Quota
import ControlPlane.Proofs.Directory.Secret
import ControlPlane.Proofs.Json.Common

/-!
What the directory service is asked and what it answers comes back. A directory comes back without
its password, which is not written. Numbers of domain controllers and counts of directories are
words, and stay so small by the changes that are made to them.
-/

namespace ControlPlane

open Record

instance : VpcSettings.record.codec.Lawful :=
  Record.lawful (by decide) (fun _ => ReadsBack.start VpcSettings.mk |>.required |>.listOrEmpty)
    fun _ => rfl

instance : ConnectSettings.record.codec.Lawful :=
  Record.lawful (by decide)
    (fun _ => ReadsBack.start ConnectSettings.mk |>.required |>.listOrEmpty |>.listOrEmpty
      |>.required)
    fun _ => rfl

instance : CreateDirectory.record.codec.Lawful :=
  Record.lawful (by decide)
    (fun _ => ReadsBack.start CreateDirectory.mk |>.required |>.optional |>.required |>.optional
      |>.required |>.optional |>.listOrEmpty)
    fun _ => rfl

instance : CreateMicrosoftDirectory.record.codec.Lawful :=
  Record.lawful (by decide)
    (fun _ => ReadsBack.start CreateMicrosoftDirectory.mk |>.required |>.optional |>.required
      |>.optional |>.optional |>.optional |>.listOrEmpty)
    fun _ => rfl

instance : ConnectDirectory.record.codec.Lawful :=
  Record.lawful (by decide)
    (fun _ => ReadsBack.start ConnectDirectory.mk |>.required |>.optional |>.required |>.optional
      |>.required |>.optional |>.listOrEmpty)
    fun _ => rfl

instance : CreateAlias.record.codec.Lawful :=
  Record.lawful (by decide) (fun _ => ReadsBack.start CreateAlias.mk |>.required |>.required)
    fun _ => rfl

instance : DescribeDirectories.record.codec.Stable := by
  refine Record.stable (by decide) <| .optional <| .optional <| .listOrEmpty <| .start ?_
  intro ids _ token _ limit word
  exact ReadsBack.start DescribeDirectories.mk |>.listOrEmpty |>.optional |>.member word

instance : DirectoryType.codec.Lawful := Codec.lawful_ofText fun t => by cases t <;> rfl

instance : DirectoryStage.codec.Lawful := Codec.lawful_ofText fun t => by cases t <;> rfl

instance : Placement.record.codec.Lawful :=
  Record.lawful (by decide)
    (fun _ => ReadsBack.start Placement.mk |>.required |>.required |>.required) fun _ => rfl

instance : Connection.record.codec.Lawful :=
  Record.lawful (by decide)
    (fun _ => ReadsBack.start Connection.mk |>.required |>.required |>.required |>.required
      |>.required)
    fun _ => rfl

theorem Directory.returns {d : Directory} (h : d.controllers ≤ Text.greatestWord32) :
    Directory.record.codec.Returns d d.withoutPassword :=
  Record.returns (by decide)
    (ReadsBack.start Directory.mk |>.required |>.required |>.optional |>.hidden "" |>.optional
      |>.optional |>.optional |>.required |>.required |>.requiredOf (Codec.returns_upTo h)
      |>.required |>.required |>.required |>.required |>.required |>.required |>.optional
      |>.optional)
    rfl

theorem Usage.readsBack {τ α : Type} {r : Record τ (Usage → α)} {name : String} {get : τ → Usage}
    {t : τ} {f : Usage → α} (h : r.ReadsBack t f) (limit : (get t).limit ≤ Text.greatestWord64)
    (current : (get t).current ≤ Text.greatestWord64) :
    (Usage.membersOf r name get).ReadsBack t (f (get t)) := by
  have parts : (r.within id fun f limit current reached => f ⟨limit, current, reached⟩).ReadsBack t
      fun limit current reached => f ⟨limit, current, reached⟩ := .within h
  exact parts |>.requiredOf (Codec.returns_upTo limit) |>.requiredOf (Codec.returns_upTo current)
    |>.required

def DirectoryQuotas.Words (q : DirectoryQuotas) : Prop :=
  ∀ type, q.limit type ≤ Text.greatestWord64

namespace DirectoryService

variable {views : Set NetworkView} {s s' : DirectoryService}

structure Legible (s : DirectoryService) : Prop where
  words : s.quotas.Words
  within : s.WithinQuota
  few : ∀ d ∈ s.directories.records, d.controllers ≤ 2

theorem legible_empty (scope : Scope) {quotas : DirectoryQuotas} (words : quotas.Words) :
    Legible (empty scope quotas) where
  words := words
  within := withinQuota_empty scope quotas
  few _ hd := nomatch hd

theorem Change.controllers_le (h : Change views s s')
    (few : ∀ d ∈ s.directories.records, d.controllers ≤ 2) :
    ∀ d ∈ s'.directories.records, d.controllers ≤ 2 := by
  cases h with
  | created draft id now m n a b typed accepted free named located room few' first second =>
    refine Registry.forall_mem_insert few ?_
    change (if draft.type = .microsoft then 2 else 0) ≤ 2
    split <;> decide
  | deleted d live => exact fun e he => few e (Registry.mem_remove_iff.mp he).1
  | aliased d name live plain allowed new =>
    exact Registry.forall_mem_insert few (few d (Registry.mem_of_get? live))
  | ssoSwitched d enabled live named =>
    exact Registry.forall_mem_insert few (few d (Registry.mem_of_get? live))
  | looked => exact few
  | tagged id tags live valid room => exact few
  | untagged id keys live => exact few

theorem Change.legible (h : Change views s s') (hl : Legible s) : Legible s' where
  words := h.quotas_eq ▸ hl.words
  within := h.withinQuota hl.within
  few := h.controllers_le hl.few

theorem returns_limits (hl : Legible s) : limitsOp.output.Returns s.limits s.limits := by
  have current : ∀ type, s.count type ≤ Text.greatestWord64 := fun type =>
    (hl.within type).trans (hl.words type)
  refine Codec.returns_single (Record.returns (by decide) ?_ rfl)
  exact Usage.readsBack (Usage.readsBack (Usage.readsBack (ReadsBack.start DirectoryLimits.mk)
    (hl.words .simple) (current .simple)) (hl.words .microsoft) (current .microsoft))
    (hl.words .connector) (current .connector)

theorem mem_of_findAll {ids : List String} {ds : List Directory} (h : s.findAll ids = .ok ds) :
    ∀ d ∈ ds, d ∈ s.directories.records := by
  induction ids generalizing ds with
  | nil =>
    cases h
    exact fun d hd => absurd hd List.not_mem_nil
  | cons id rest ih =>
    rw [findAll] at h
    cases first : s.directory id with
    | error e =>
      rw [first] at h
      cases h
    | ok e =>
      rw [first] at h
      obtain ⟨others, found, rfl⟩ := map_eq_ok_iff.mp h
      intro d hd
      rcases List.mem_cons.mp hd with rfl | hd
      · exact Registry.mem_of_get? (directory_eq_ok_iff.mp first)
      · exact ih found d hd

theorem mem_of_describeDirectories {input : DescribeDirectories} {p : Page Directory}
    (h : s.describeDirectories input = .ok p) : ∀ d ∈ p.items, d ∈ s.directories.records := by
  rw [describeDirectories, pass_eq_ok_iff] at h
  obtain ⟨-, h⟩ := h
  intro d hd
  split at h
  · exact Page.mem_of_ofList (mapError_eq_ok_iff.mp h) d hd
  · obtain ⟨chosen, found, paged⟩ := bind_eq_ok_iff.mp h
    exact mem_of_findAll found d (Page.mem_of_ofList (mapError_eq_ok_iff.mp paged) d hd)

theorem returns_describeDirectories (hl : Legible s) {input : DescribeDirectories}
    {p : Page Directory} (h : s.describeDirectories input = .ok p) :
    describeDirectoriesOp.output.Returns p (pageWithoutPasswords p) :=
  Page.returns (by decide) fun d hd =>
    Directory.returns ((hl.few d (mem_of_describeDirectories h d hd)).trans (by decide))

end DirectoryService

end ControlPlane
