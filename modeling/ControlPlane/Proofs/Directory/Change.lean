import ControlPlane.Directory.Operations
import ControlPlane.Proofs.Identifier
import ControlPlane.Proofs.Ipv4.Block
import ControlPlane.Proofs.Operation
import ControlPlane.Proofs.Registry

/-!
What a request can do to the directory service while any of some networks answer its questions. A
new directory takes the first free host address of either of its subnets; the two are chosen without
a look at each other. If one network answers all questions, the subnets are two of one cloud and of
different zones.
-/

namespace ControlPlane.DirectoryService

open DirectoryConstraint
open Lookup hiding vpc subnet securityGroup

variable {view : NetworkView} {views : Set NetworkView} {s s' : DirectoryService} {at_ : Moment}
  {id : String}

theorem directory_eq_ok_iff {d : Directory} :
    s.directory id = .ok d ↔ s.directories.get? id = some d := by
  rw [directory]
  cases s.directories.get? id <;> simp

/-- Connectors bring settings for their connection, and no others do. -/
def WellTyped (d : DirectoryDraft) : Prop := d.type = .connector ↔ d.connect.isSome = true

theorem wellTyped_of_createDirectory {input : CreateDirectory} {d : DirectoryDraft}
    (h : input.draft = .ok d) : WellTyped d := by
  rw [CreateDirectory.draft] at h
  split at h <;> cases h
  simp [WellTyped]

theorem wellTyped_of_createMicrosoft {input : CreateMicrosoftDirectory} {d : DirectoryDraft}
    (h : input.draft = .ok d) : WellTyped d := by
  rw [CreateMicrosoftDirectory.draft] at h
  split at h <;> cases h
  simp [WellTyped]

theorem wellTyped_of_connectDirectory {input : ConnectDirectory} {d : DirectoryDraft}
    (h : input.draft = .ok d) : WellTyped d := by
  rw [ConnectDirectory.draft] at h
  split at h <;> cases h
  simp [WellTyped]

/-- Two subnets of one cloud that lie in different zones. -/
structure Located (view : NetworkView) (vpc : String) (ids : List String) (m n : Subnet) :
    Prop where
  known : ∃ i j, ids = [i, j] ∧ view.subnet i = .ok m ∧ view.subnet j = .ok n
  cloud : ∃ v, view.vpc vpc = .ok v
  zones : m.zone ≠ n.zone
  first : m.vpc = vpc
  second : n.vpc = vpc

theorem two_le_zoneCount_pair_iff {m n : Subnet} : 2 ≤ zoneCount [m, n] ↔ m.zone ≠ n.zone := by
  by_cases h : m.zone = n.zone
  · simp [zoneCount, List.eraseDups_cons, h]
  · have other : (n.zone == m.zone) = false := beq_eq_false_iff_ne.mpr (Ne.symm h)
    simp [zoneCount, List.eraseDups_cons, h, other]

theorem askSubnets_unique {ids : List String} {ms ns : List Subnet}
    (hm : .ok ms ∈ (askSubnets ids).outcomes {view})
    (hn : .ok ns ∈ (askSubnets ids).outcomes {view}) : ms = ns := by
  rw [mem_outcomes_singleton_iff] at hm hn
  exact Except.ok.inj (hm.trans hn.symm)

theorem succeeds_locate_iff {vpc : String} {ids : List String} {ns : List Subnet} :
    Succeeds views (locate vpc ids) ns ↔
      ids.length = 2 ∧ (∃ ms, .ok ms ∈ (askSubnets ids).outcomes views ∧ 2 ≤ zoneCount ms) ∧
        (∃ view ∈ views, ∃ v, view.vpc vpc = .ok v) ∧ .ok ns ∈ (askSubnets ids).outcomes views ∧
        ∀ n ∈ ns, n.vpc = vpc := by
  simp only [locate, succeeds_bind_iff, succeeds_guard_iff, succeeds_orElseFail_iff,
    mem_outcomes_askZoneCount_iff, mem_outcomes_askVpc_iff, ne_eq, not_not, Nat.not_lt]
  refine ⟨?_, ?_⟩
  · intro ⟨two, zones, ⟨ms, hm, counted⟩, enough, v, ⟨view, hv, told⟩, ns', hn, h⟩
    cases stray : ns'.find? fun n => n.vpc != vpc with
    | some bad => simp only [stray, succeeds_throw_iff] at h
    | none =>
      simp only [stray, succeeds_pure_iff] at h
      subst h
      exact ⟨two, ⟨ms, hm, counted ▸ enough⟩, ⟨view, hv, v, told⟩, hn, by simpa using stray⟩
  · intro ⟨two, ⟨ms, hm, enough⟩, ⟨view, hv, v, told⟩, hn, inside⟩
    have stray : ns.find? (fun n => n.vpc != vpc) = none := by simpa using inside
    refine ⟨two, zoneCount ms, ⟨ms, hm, rfl⟩, enough, v, ⟨view, hv, told⟩, ns, hn, ?_⟩
    simp only [stray, succeeds_pure_iff]

theorem exists_of_locate {vpc : String} {ids : List String} {ns : List Subnet}
    (h : Succeeds views (locate vpc ids) ns) : ∃ m n, ns = [m, n] := by
  obtain ⟨two, -, -, found, -⟩ := succeeds_locate_iff.mp h
  exact List.length_eq_two.mp ((mem_outcomes_askSubnets_iff.mp found).length_eq.symm.trans two)

theorem located_of_locate {vpc : String} {ids : List String} {m n : Subnet}
    (h : Succeeds {view} (locate vpc ids) [m, n]) : Located view vpc ids m n := by
  obtain ⟨-, ⟨ms, hm, enough⟩, cloud, hn, inside⟩ := succeeds_locate_iff.mp h
  rw [askSubnets_unique hm hn] at enough
  simp only [mem_outcomes_askSubnets_iff, Set.mem_singleton_iff, exists_eq_left] at hn cloud
  obtain _ | ⟨first, _ | ⟨second, _ | _⟩⟩ := hn
  rename_i i j
  exact ⟨⟨i, j, rfl, first, second⟩, cloud, two_le_zoneCount_pair_iff.mp enough,
    inside m (by simp), inside n (by simp)⟩

def IsFirstFree (used : List String) (n : Subnet) (a : Ipv4) : Prop :=
  n.cidr.hosts.find? (fun b => !used.contains b.text) = some a

theorem IsFirstFree.mem {used : List String} {n : Subnet} {a : Ipv4} (h : IsFirstFree used n a) :
    a ∈ n.cidr.hosts :=
  List.mem_of_find?_eq_some h

theorem IsFirstFree.text_not_mem {used : List String} {n : Subnet} {a : Ipv4}
    (h : IsFirstFree used n a) : a.text ∉ used := by
  simpa using List.find?_some h

theorem allocate_eq_ok_iff {used : List String} {ns : List Subnet} {texts : List String} :
    allocate used ns = .ok texts ↔
      List.Forall₂ (fun n text => ∃ a, IsFirstFree used n a ∧ text = a.text) ns texts := by
  induction ns generalizing texts with
  | nil => rw [allocate, Except.ok.injEq, List.forall₂_nil_left_iff, eq_comm]
  | cons n rest ih =>
    rw [allocate, Cidr.findHost_eq, List.forall₂_cons_left_iff]
    cases found : n.cidr.hosts.find? fun b => !used.contains b.text with
    | none => simp only [IsFirstFree, found, reduceCtorEq, false_and, exists_false]
    | some a =>
      simp only [IsFirstFree, found, Option.some.injEq, exists_eq_left', map_eq_ok_iff]
      refine ⟨?_, ?_⟩
      · intro ⟨others, h, same⟩
        exact ⟨a.text, others, rfl, ih.mp h, same.symm⟩
      · intro ⟨_, others, rfl, h, same⟩
        exact ⟨others, ih.mpr h, same.symm⟩

theorem exists_of_allocate_pair {used : List String} {m n : Subnet} {texts : List String}
    (h : allocate used [m, n] = .ok texts) :
    ∃ a b, IsFirstFree used m a ∧ IsFirstFree used n b ∧ texts = [a.text, b.text] := by
  rw [allocate_eq_ok_iff] at h
  obtain _ | ⟨⟨a, ha, rfl⟩, _ | ⟨⟨b, hb, rfl⟩, _ | _⟩⟩ := h
  exact ⟨a, b, ha, hb, rfl⟩

theorem succeeds_liftExcept_iff {views : Set NetworkView} {α : Type} {r : Except DirectoryFault α}
    {a : α} : Succeeds views (create.liftExcept r) a ↔ r = .ok a :=
  succeeds_mk_pure_iff

theorem requireRoom_eq_ok_iff {type : DirectoryType} {u : Unit} :
    s.requireRoom type = .ok u ↔ s.count type < s.quotas.limit type := by
  by_cases h : s.quotas.limit type ≤ s.count type
  · simp [requireRoom, h]
  · simp [requireRoom, h, Nat.lt_of_not_le h]

theorem requireFewTags_eq_ok_iff {tags : List Tag} {u : Unit} :
    requireFewTags tags = .ok u ↔ tags.length ≤ maxTags := by
  by_cases h : tags.length > maxTags
  · simp [requireFewTags, h, Nat.not_le_of_lt h]
  · simp [requireFewTags, h, Nat.le_of_not_lt h]

theorem register_eq_ok_iff {d : DirectoryDraft} {subnets : List Subnet} :
    s.register at_ d subnets = .ok (id, s') ↔
      ∃ texts, allocate s.usedAddresses subnets = .ok texts ∧
        id = (Identifier.fresh s.directories "d" idDigits at_.draws).1 ∧
        s' = { s with
          directories := s.directories.insert (build d id at_.now subnets texts)
          tags := s.tags.tag id d.tags } := by
  simp only [register, bind_eq_ok_iff, pure_eq_ok_iff, Prod.mk.injEq]
  refine ⟨?_, ?_⟩
  · intro ⟨texts, h, same, state⟩
    exact ⟨texts, h, same.symm, same ▸ state.symm⟩
  · intro ⟨texts, h, same, state⟩
    exact ⟨texts, h, same.symm, same ▸ state.symm⟩

theorem occupied_build (d : DirectoryDraft) (id : String) (now : Timestamp) (subnets : List Subnet)
    (texts : List String) : (build d id now subnets texts).occupied = texts := by
  cases hc : d.connect <;> simp [build, Directory.occupied, hc]

theorem succeeds_create_iff {views : Set NetworkView}
    {draft : Except DirectoryFault DirectoryDraft} :
    Succeeds views (s.create at_ draft) (id, s') ↔
      ∃ d subnets, draft = .ok d ∧ d.accept = .ok () ∧
        Succeeds views (locate d.vpc d.subnets) subnets ∧ s.requireRoom d.type = .ok () ∧
        requireFewTags d.tags = .ok () ∧ s.register at_ d subnets = .ok (id, s') := by
  simp only [create, succeeds_bind_iff, succeeds_liftExcept_iff]
  refine ⟨?_, ?_⟩
  · intro ⟨d, drafted, _, accepted, subnets, located, _, room, _, few, registered⟩
    exact ⟨d, subnets, drafted, accepted, located, room, few, registered⟩
  · intro ⟨d, subnets, drafted, accepted, located, room, few, registered⟩
    exact ⟨d, drafted, (), accepted, subnets, located, (), room, (), few, registered⟩

theorem deleteDirectory_eq_ok_iff {answer : String} :
    s.deleteDirectory id = .ok (answer, s') ↔
      validate [directoryIdCheck id] = .ok () ∧
        ∃ d, s.directories.get? id = some d ∧ answer = d.id ∧
          s' = { s with directories := s.directories.remove id, tags := s.tags.clear id } := by
  rw [deleteDirectory, pass_eq_ok_iff]
  simp only [mapError_eq_ok_iff, bind_eq_ok_iff, directory_eq_ok_iff, pure_eq_ok_iff,
    Prod.mk.injEq]
  refine ⟨?_, ?_⟩
  · intro ⟨checked, d, found, same, state⟩
    exact ⟨checked, d, found, same.symm, state.symm⟩
  · intro ⟨checked, d, found, same, state⟩
    exact ⟨checked, d, found, same.symm, state.symm⟩

theorem createAlias_eq_ok_iff {input answer : CreateAlias} :
    s.createAlias input = .ok (answer, s') ↔
      validate (directoryIdCheck input.directory :: aliasChecks input.aliasName) = .ok () ∧
        ∃ d, s.directories.get? input.directory = some d ∧ d.hasOwnAlias = false ∧
          (∀ e ∈ s.directories.records, e.aliasName ≠ input.aliasName) ∧ answer = input ∧
          s' = { s with directories := s.directories.insert (d.withAlias input.aliasName) } := by
  rw [createAlias, pass_eq_ok_iff]
  simp only [mapError_eq_ok_iff, bind_eq_ok_iff, directory_eq_ok_iff, guard_eq_ok_iff,
    pure_eq_ok_iff, Prod.mk.injEq, Bool.not_eq_true, Registry.find?_isSome_eq_false_iff,
    beq_eq_false_iff_ne]
  refine ⟨?_, ?_⟩
  · intro ⟨checked, d, found, plain, new, same, state⟩
    exact ⟨checked, d, found, plain, new, same.symm, state.symm⟩
  · intro ⟨checked, d, found, plain, new, same, state⟩
    exact ⟨checked, d, found, plain, new, same.symm, state.symm⟩

theorem enableSso_eq_ok_iff {input : SwitchSso} {u : Unit} :
    s.enableSso input = .ok (u, s') ↔
      acceptSwitch input = .ok () ∧
        ∃ d, s.directories.get? input.directory = some d ∧ d.hasOwnAlias = true ∧
          s' = s.switchSso d true := by
  rw [enableSso, pass_eq_ok_iff]
  simp only [bind_eq_ok_iff, directory_eq_ok_iff, guard_eq_ok_iff, pure_eq_ok_iff, Prod.mk.injEq,
    Bool.not_eq_true, Bool.not_eq_false', true_and, eq_comm (a := s')]

theorem disableSso_eq_ok_iff {input : SwitchSso} {u : Unit} :
    s.disableSso input = .ok (u, s') ↔
      acceptSwitch input = .ok () ∧
        ∃ d, s.directories.get? input.directory = some d ∧ s' = s.switchSso d false := by
  rw [disableSso, pass_eq_ok_iff]
  simp only [bind_eq_ok_iff, directory_eq_ok_iff, pure_eq_ok_iff, Prod.mk.injEq, true_and,
    eq_comm (a := s')]

/-- What can become of the service when a request is served and its questions are answered by any of
the networks. -/
inductive Change (views : Set NetworkView) (s : DirectoryService) : DirectoryService → Prop where
  | looked : Change views s s
  | created (draft : DirectoryDraft) (id : String) (now : Timestamp) (m n : Subnet) (a b : Ipv4)
    (typed : WellTyped draft) (accepted : draft.accept = .ok ())
    (free : s.directories.contains id = false)
    (named : Identifier.IsNumbered "d" idDigits s.directories.size id)
    (located : Succeeds views (locate draft.vpc draft.subnets) [m, n])
    (room : s.count draft.type < s.quotas.limit draft.type) (few : draft.tags.length ≤ maxTags)
    (first : IsFirstFree s.usedAddresses m a) (second : IsFirstFree s.usedAddresses n b) :
    Change views s
      { s with
        directories := s.directories.insert (build draft id now [m, n] [a.text, b.text])
        tags := s.tags.tag id draft.tags }
  | deleted (d : Directory) (live : s.directories.get? d.id = some d) :
    Change views s { s with directories := s.directories.remove d.id, tags := s.tags.clear d.id }
  | aliased (d : Directory) (name : String) (live : s.directories.get? d.id = some d)
    (plain : d.hasOwnAlias = false) (allowed : ∀ c ∈ aliasChecks name, c.broken = none)
    (new : ∀ e ∈ s.directories.records, e.aliasName ≠ name) :
    Change views s { s with directories := s.directories.insert (d.withAlias name) }
  | ssoSwitched (d : Directory) (enabled : Bool) (live : s.directories.get? d.id = some d)
    (named : enabled = true → d.hasOwnAlias = true) :
    Change views s { s with directories := s.directories.insert { d with ssoEnabled := enabled } }
  | tagged (id : String) (tags : List Tag) (live : s.directories.contains id = true)
    (valid : Tag.validate tags 0 = .ok ())
    (room : (s.tags.tags id).length + Tag.addedCount (s.tags.tags id) tags ≤ maxTags) :
    Change views s { s with tags := s.tags.tag id tags }
  | untagged (id : String) (keys : List String) (live : s.directories.contains id = true) :
    Change views s { s with tags := s.tags.untag id keys }

theorem change_of_create {draft : Except DirectoryFault DirectoryDraft}
    (typed : ∀ d, draft = .ok d → WellTyped d)
    (h : Succeeds views (s.create at_ draft) (id, s')) : Change views s s' := by
  obtain ⟨d, subnets, drafted, accepted, located, room, few, registered⟩ :=
    succeeds_create_iff.mp h
  obtain ⟨m, n, rfl⟩ := exists_of_locate located
  obtain ⟨texts, allocated, rfl, rfl⟩ := register_eq_ok_iff.mp registered
  obtain ⟨a, b, first, second, rfl⟩ := exists_of_allocate_pair allocated
  apply Change.created
  · exact typed d drafted
  · exact accepted
  · exact Identifier.contains_fresh _ _ _ _
  · exact Identifier.isNumbered_fresh _ _ _ _
  · exact located
  · exact requireRoom_eq_ok_iff.mp room
  · exact requireFewTags_eq_ok_iff.mp few
  · exact first
  · exact second

theorem live_of_get? {d : Directory} (h : s.directories.get? id = some d) :
    s.directories.get? d.id = some d ∧ d.id = id := by
  have same : d.id = id := Registry.key_of_get? h
  exact ⟨same.symm ▸ h, same⟩

theorem change_of_deleteDirectory {answer : String}
    (h : s.deleteDirectory id = .ok (answer, s')) : Change views s s' := by
  obtain ⟨-, d, found, -, rfl⟩ := deleteDirectory_eq_ok_iff.mp h
  obtain ⟨live, rfl⟩ := live_of_get? found
  exact .deleted d live

theorem change_of_createAlias {input answer : CreateAlias}
    (h : s.createAlias input = .ok (answer, s')) : Change views s s' := by
  obtain ⟨checked, d, found, plain, new, -, rfl⟩ := createAlias_eq_ok_iff.mp h
  have allowed := validate_eq_ok_iff.mp checked
  exact .aliased d input.aliasName (live_of_get? found).1 plain
    (fun c hc => allowed c (List.mem_cons_of_mem _ hc)) new

theorem change_of_enableSso {input : SwitchSso} {u : Unit}
    (h : s.enableSso input = .ok (u, s')) : Change views s s' := by
  obtain ⟨-, d, found, named, rfl⟩ := enableSso_eq_ok_iff.mp h
  exact .ssoSwitched d true (live_of_get? found).1 fun _ => named

theorem change_of_disableSso {input : SwitchSso} {u : Unit}
    (h : s.disableSso input = .ok (u, s')) : Change views s s' := by
  obtain ⟨-, d, found, rfl⟩ := disableSso_eq_ok_iff.mp h
  exact .ssoSwitched d false (live_of_get? found).1 fun h => nomatch h

theorem requireDirectory_eq_ok_iff {u : Unit} :
    s.requireDirectory id = .ok u ↔
      validate [directoryIdCheck id] = .ok () ∧ s.directories.contains id = true := by
  rw [requireDirectory, pass_eq_ok_iff, mapError_eq_ok_iff]
  simp only [bind_eq_ok_iff, directory_eq_ok_iff, pure_eq_ok_iff, and_true,
    Registry.contains_eq_true_iff]

theorem addTags_eq_ok_iff {input : AddTags} {u : Unit} :
    s.addTags input = .ok (u, s') ↔
      s.requireDirectory input.directory = .ok () ∧ Tag.validate input.tags 0 = .ok () ∧
        (s.tags.tags input.directory).length +
          Tag.addedCount (s.tags.tags input.directory) input.tags ≤ maxTags ∧
        s' = { s with tags := s.tags.tag input.directory input.tags } := by
  rw [addTags, pass_eq_ok_iff, pass_eq_ok_iff, mapError_eq_ok_iff]
  simp only [guard_eq_ok_iff, pure_eq_ok_iff, Prod.mk.injEq, true_and, Nat.not_lt, gt_iff_lt,
    eq_comm (a := s')]

theorem removeTags_eq_ok_iff {input : RemoveTags} {u : Unit} :
    s.removeTags input = .ok (u, s') ↔
      s.requireDirectory input.directory = .ok () ∧
        s' = { s with tags := s.tags.untag input.directory input.keys } := by
  rw [removeTags, pass_eq_ok_iff]
  simp only [pure_eq_ok_iff, Prod.mk.injEq, true_and, eq_comm (a := s')]

theorem change_of_addTags {input : AddTags} {u : Unit}
    (h : s.addTags input = .ok (u, s')) : Change views s s' := by
  obtain ⟨required, valid, room, rfl⟩ := addTags_eq_ok_iff.mp h
  exact .tagged _ _ (requireDirectory_eq_ok_iff.mp required).2 valid room

theorem change_of_removeTags {input : RemoveTags} {u : Unit}
    (h : s.removeTags input = .ok (u, s')) : Change views s s' := by
  obtain ⟨required, rfl⟩ := removeTags_eq_ok_iff.mp h
  exact .untagged _ _ (requireDirectory_eq_ok_iff.mp required).2

theorem change_of_run {name : String} {op : Op} {input : op.Input} {output : op.Output}
    (hop : operations name = some op)
    (h : .ok (output, s') ∈ (op.run s at_ input).outcomes views) : Change views s s' := by
  simp only [operations] at hop
  split at hop <;> cases hop
  case h_1 => exact change_of_create (fun _ => wellTyped_of_createDirectory) h
  case h_2 => exact change_of_create (fun _ => wellTyped_of_createMicrosoft) h
  case h_3 => exact change_of_create (fun _ => wellTyped_of_connectDirectory) h
  case h_4 => exact change_of_deleteDirectory h.symm
  case h_5 => exact state_of_look h.symm ▸ .looked
  case h_6 => exact state_of_look h.symm ▸ .looked
  case h_7 => exact change_of_addTags h.symm
  case h_8 => exact change_of_removeTags h.symm
  case h_9 => exact state_of_look h.symm ▸ .looked
  case h_10 => exact change_of_createAlias h.symm
  case h_11 => exact change_of_enableSso h.symm
  case h_12 => exact change_of_disableSso h.symm

theorem change_of_serve {name : String} {bag j : Json}
    (h : .ok (j, s') ∈ (operations.serve s at_ name bag).outcomes views) : Change views s s' := by
  obtain ⟨op, input, output, hop, -, hr, -⟩ := Catalog.exists_of_mem_outcomes_serve h
  exact change_of_run hop hr

end ControlPlane.DirectoryService
