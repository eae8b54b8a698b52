import ControlPlane.Network.Operations
import ControlPlane.Proofs.Identifier
import ControlPlane.Proofs.Operation
import ControlPlane.Proofs.Registry

/-!
What a request can do to a network. Each operation has one equation for its success: the conditions
under which it succeeds, the record it answers and the state after it. From these follows the list
of all changes, and what is proved of every change holds of every request.
-/

namespace ControlPlane.NetworkService

variable {s s' : NetworkService} {at_ : Moment} {id : String}

theorem vpc_eq_ok_iff {v : Vpc} : s.vpc id = .ok v ↔ s.vpcs.get? id = some v := by
  rw [vpc]
  cases s.vpcs.get? id <;> simp

theorem subnet_eq_ok_iff {n : Subnet} : s.subnet id = .ok n ↔ s.subnets.get? id = some n := by
  rw [subnet]
  cases s.subnets.get? id <;> simp

theorem securityGroup_eq_ok_iff {g : SecurityGroup} :
    s.securityGroup id = .ok g ↔ s.groups.get? id = some g := by
  rw [securityGroup]
  cases s.groups.get? id <;> simp

theorem mem_subnets_of_view {n : Subnet} (h : s.view.subnet id = .ok n) :
    n ∈ s.subnets.records ∧ n.id = id :=
  Registry.get?_eq_some_iff.mp (subnet_eq_ok_iff.mp h)

structure Placeable (c : Cidr) : Prop where
  aligned : c.address.value = c.network
  least : 16 ≤ c.prefixLength
  greatest : c.prefixLength ≤ 28

theorem placeable_iff {c : Cidr} :
    Placeable c ↔ c.address.value = c.network ∧ allowedSize c = true := by
  simp only [allowedSize, Bool.and_eq_true, decide_eq_true_eq]
  exact ⟨fun h => ⟨h.1, h.2, h.3⟩, fun h => ⟨h.1, h.2.1, h.2.2⟩⟩

theorem readBlock_eq_ok_iff {text : String} {c : Cidr} :
    readBlock text = .ok c ↔
      '/' ∈ text.toList ∧ Cidr.parse? text = some c ∧ c.address.value = c.network := by
  simp only [readBlock, List.contains_iff_mem]
  by_cases hs : '/' ∈ text.toList
  · cases hp : Cidr.parse? text with
    | none => simp [hs]
    | some d =>
      by_cases ha : d.address.value = d.network
      · simp only [hs, ha, if_true, Except.ok.injEq, Option.some.injEq, true_and]
        exact ⟨fun h => h ▸ ⟨rfl, ha⟩, fun h => h.1⟩
      · simp only [hs, ha, if_true, if_false, Option.some.injEq, true_and, reduceCtorEq, false_iff]
        intro ⟨same, h⟩
        exact ha (same ▸ h)
  · simp [hs]

def newVpc (s : NetworkService) (at_ : Moment) (block : Cidr) : Vpc :=
  { id := (Identifier.fresh s.vpcs "vpc" idDigits at_.draws).1
    cidr := block
    state := "available"
    owner := s.scope.account
    isDefault := false
    createTime := at_.now }

theorem createVpc_eq_ok_iff {cidr : String} {v : Vpc} :
    s.createVpc at_ cidr = .ok (v, s') ↔
      ∃ block, readBlock cidr = .ok block ∧ allowedSize block = true ∧ v = s.newVpc at_ block ∧
        s' = { s with vpcs := s.vpcs.insert v } := by
  simp only [createVpc, bind_eq_ok_iff, guard_eq_ok_iff, pure_eq_ok_iff, Prod.mk.injEq]
  refine ⟨?_, ?_⟩
  · intro ⟨block, hb, hs, same, state⟩
    exact ⟨block, hb, by simpa using hs, same.symm, same ▸ state.symm⟩
  · intro ⟨block, hb, hs, same, state⟩
    subst same
    exact ⟨block, hb, by simpa using hs, rfl, state.symm⟩

theorem deleteVpc_eq_ok_iff {u : Unit} :
    s.deleteVpc id = .ok (u, s') ↔
      (∃ v, s.vpcs.get? id = some v) ∧ s.dependents id = 0 ∧
        s' = { s with vpcs := s.vpcs.remove id, tags := s.tags.clear id } := by
  simp only [deleteVpc, bind_eq_ok_iff, guard_eq_ok_iff, pure_eq_ok_iff, Prod.mk.injEq,
    vpc_eq_ok_iff, Nat.pos_iff_ne_zero, not_not, gt_iff_lt]
  refine ⟨?_, ?_⟩
  · intro ⟨v, hv, hd, _, state⟩
    exact ⟨⟨v, hv⟩, hd, state.symm⟩
  · intro ⟨⟨v, hv⟩, hd, state⟩
    exact ⟨v, hv, hd, trivial, state.symm⟩

theorem placeBlock_eq_ok_iff {v : Vpc} {input : CreateSubnet} {block : Cidr} :
    s.placeBlock v input = .ok block ↔
      readBlock input.cidr = .ok block ∧ allowedSize block = true ∧ liesIn block v.cidr = true ∧
        ∀ n ∈ s.subnets.records, n.vpc = input.vpc → intersect n.cidr block = false := by
  simp only [placeBlock, bind_eq_ok_iff, guard_eq_ok_iff, pure_eq_ok_iff, Bool.not_eq_true,
    Registry.find?_isSome_eq_false_iff]
  refine ⟨?_, ?_⟩
  · intro ⟨c, hc, hs, hn, same⟩
    subst same
    simp only [Bool.not_eq_false', Bool.and_eq_true] at hs
    refine ⟨hc, hs.1, hs.2, ?_⟩
    intro n hm hv
    simpa [hv] using hn n hm
  · intro ⟨hc, hs, hl, hn⟩
    refine ⟨block, hc, by simp [hs, hl], ?_, rfl⟩
    intro n hm
    by_cases hv : n.vpc = input.vpc
    · simp [hn n hm hv]
    · simp [hv]

theorem chooseZone_eq_ok_iff {scope : Scope} {wanted : Option String} {zone : String} :
    chooseZone scope wanted = .ok zone ↔
      (wanted = some zone ∧ zone ∈ scope.zones) ∨ (wanted = none ∧ zone = scope.region ++ "a") := by
  cases wanted with
  | none => simp [chooseZone, eq_comm]
  | some w =>
    simp only [chooseZone, List.contains_iff_mem, Option.some.injEq, reduceCtorEq, false_and,
      or_false]
    by_cases hw : w ∈ scope.zones
    · simp only [hw, if_true, Except.ok.injEq]
      exact ⟨fun h => ⟨h, h ▸ hw⟩, fun h => h.1⟩
    · simp only [hw, if_false, reduceCtorEq, false_iff]
      intro ⟨same, h⟩
      exact hw (same ▸ h)

theorem mem_zones_of_chooseZone {scope : Scope} {wanted : Option String} {zone : String}
    (h : chooseZone scope wanted = .ok zone) : zone ∈ scope.zones := by
  rcases chooseZone_eq_ok_iff.mp h with ⟨-, hz⟩ | ⟨-, rfl⟩
  · exact hz
  · exact List.mem_cons_self

def newSubnet (s : NetworkService) (at_ : Moment) (vpc : String) (block : Cidr) (zone : String) :
    Subnet :=
  { id := (Identifier.fresh s.subnets "subnet" idDigits at_.draws).1
    vpc := vpc
    cidr := block
    zone := zone
    availableAddresses := block.size - reservedAddresses
    state := "available"
    owner := s.scope.account }

theorem createSubnet_eq_ok_iff {input : CreateSubnet} {n : Subnet} :
    s.createSubnet at_ input = .ok (n, s') ↔
      ∃ v block zone, s.vpcs.get? input.vpc = some v ∧ s.placeBlock v input = .ok block ∧
        chooseZone s.scope input.zone = .ok zone ∧ n = s.newSubnet at_ input.vpc block zone ∧
        s' = { s with subnets := s.subnets.insert n } := by
  simp only [createSubnet, bind_eq_ok_iff, pure_eq_ok_iff, Prod.mk.injEq, vpc_eq_ok_iff]
  refine ⟨?_, ?_⟩
  · intro ⟨v, hv, block, hb, zone, hz, same, state⟩
    exact ⟨v, block, zone, hv, hb, hz, same.symm, same ▸ state.symm⟩
  · intro ⟨v, block, zone, hv, hb, hz, same, state⟩
    subst same
    exact ⟨v, hv, block, hb, zone, hz, rfl, state.symm⟩

theorem deleteSubnet_eq_ok_iff {u : Unit} :
    s.deleteSubnet id = .ok (u, s') ↔
      (∃ n, s.subnets.get? id = some n) ∧
        s' = { s with subnets := s.subnets.remove id, tags := s.tags.clear id } := by
  simp only [deleteSubnet, bind_eq_ok_iff, pure_eq_ok_iff, Prod.mk.injEq, subnet_eq_ok_iff]
  refine ⟨?_, ?_⟩
  · intro ⟨n, hn, _, state⟩
    exact ⟨⟨n, hn⟩, state.symm⟩
  · intro ⟨⟨n, hn⟩, state⟩
    exact ⟨n, hn, trivial, state.symm⟩

def newGroup (s : NetworkService) (at_ : Moment) (input : CreateSecurityGroup) : SecurityGroup :=
  { id := (Identifier.fresh s.groups "sg" idDigits at_.draws).1
    name := input.name
    description := input.description
    vpc := input.vpc
    owner := s.scope.account }

theorem createSecurityGroup_eq_ok_iff {input : CreateSecurityGroup} {g : SecurityGroup} :
    s.createSecurityGroup at_ input = .ok (g, s') ↔
      (∃ v, s.vpcs.get? input.vpc = some v) ∧
        (∀ h ∈ s.groups.records, h.vpc = input.vpc → h.name ≠ input.name) ∧
        g = s.newGroup at_ input ∧ s' = { s with groups := s.groups.insert g } := by
  simp only [createSecurityGroup, bind_eq_ok_iff, guard_eq_ok_iff, pure_eq_ok_iff, Prod.mk.injEq,
    vpc_eq_ok_iff, Bool.not_eq_true, Registry.find?_isSome_eq_false_iff]
  refine ⟨?_, ?_⟩
  · intro ⟨v, hv, hn, same, state⟩
    refine ⟨⟨v, hv⟩, ?_, same.symm, same ▸ state.symm⟩
    intro h hm hv
    simpa [hv] using hn h hm
  · intro ⟨⟨v, hv⟩, hn, same, state⟩
    subst same
    refine ⟨v, hv, ?_, rfl, state.symm⟩
    intro h hm
    simpa using hn h hm

theorem deleteSecurityGroup_eq_ok_iff {u : Unit} :
    s.deleteSecurityGroup id = .ok (u, s') ↔
      (∃ g, s.groups.get? id = some g) ∧
        s' = { s with groups := s.groups.remove id, tags := s.tags.clear id } := by
  simp only [deleteSecurityGroup, bind_eq_ok_iff, pure_eq_ok_iff, Prod.mk.injEq,
    securityGroup_eq_ok_iff]
  refine ⟨?_, ?_⟩
  · intro ⟨g, hg, _, state⟩
    exact ⟨⟨g, hg⟩, state.symm⟩
  · intro ⟨⟨g, hg⟩, state⟩
    exact ⟨g, hg, trivial, state.symm⟩

theorem changeTags_eq_ok_iff {resources : List String} {change : TagStore → String → TagStore}
    {u : Unit} :
    s.changeTags resources change = .ok (u, s') ↔
      (∀ id ∈ resources, s.isTaggable id = true) ∧
        s' = { s with tags := resources.foldl change s.tags } := by
  rw [changeTags]
  cases hf : resources.find? fun id => !s.isTaggable id with
  | none =>
    rw [List.find?_eq_none] at hf
    simp only [Bool.not_eq_true', Bool.not_eq_false] at hf
    simp only [Except.ok.injEq, Prod.mk.injEq, true_and]
    exact ⟨fun h => ⟨hf, h.symm⟩, fun h => h.2.symm⟩
  | some bad =>
    have missing := List.find?_some hf
    simp only [reduceCtorEq, false_iff]
    intro ⟨h, _⟩
    simp [h bad (List.mem_of_find?_eq_some hf)] at missing

/-- What can become of a network when a request is served. -/
inductive Change (s : NetworkService) : NetworkService → Prop where
  | looked : Change s s
  | vpcCreated (v : Vpc) (free : s.vpcs.contains v.id = false)
    (numbered : Identifier.IsNumbered "vpc" idDigits s.vpcs.size v.id)
    (placeable : Placeable v.cidr) :
    Change s { s with vpcs := s.vpcs.insert v }
  | vpcDeleted (id : String) (live : s.vpcs.contains id = true) (unused : s.dependents id = 0) :
    Change s { s with vpcs := s.vpcs.remove id, tags := s.tags.clear id }
  | subnetCreated (n : Subnet) (v : Vpc) (cloud : s.vpcs.get? n.vpc = some v)
    (free : s.subnets.contains n.id = false)
    (numbered : Identifier.IsNumbered "subnet" idDigits s.subnets.size n.id)
    (placeable : Placeable n.cidr) (inside : liesIn n.cidr v.cidr = true)
    (apart : ∀ m ∈ s.subnets.records, m.vpc = n.vpc → intersect m.cidr n.cidr = false)
    (zone : n.zone ∈ s.scope.zones)
    (available : n.availableAddresses = n.cidr.size - reservedAddresses) :
    Change s { s with subnets := s.subnets.insert n }
  | subnetDeleted (id : String) (live : s.subnets.contains id = true) :
    Change s { s with subnets := s.subnets.remove id, tags := s.tags.clear id }
  | groupCreated (g : SecurityGroup) (v : Vpc) (cloud : s.vpcs.get? g.vpc = some v)
    (free : s.groups.contains g.id = false)
    (numbered : Identifier.IsNumbered "sg" idDigits s.groups.size g.id)
    (named : ∀ h ∈ s.groups.records, h.vpc = g.vpc → h.name ≠ g.name) :
    Change s { s with groups := s.groups.insert g }
  | groupDeleted (id : String) (live : s.groups.contains id = true) :
    Change s { s with groups := s.groups.remove id, tags := s.tags.clear id }
  | tagged (ids : List String) (tags : List Tag) (live : ∀ id ∈ ids, s.isTaggable id = true) :
    Change s { s with tags := ids.foldl (fun store id => store.tag id tags) s.tags }
  | untagged (ids keys : List String) (live : ∀ id ∈ ids, s.isTaggable id = true) :
    Change s { s with tags := ids.foldl (fun store id => store.untag id keys) s.tags }
  | cleared (ids : List String) (live : ∀ id ∈ ids, s.isTaggable id = true) :
    Change s { s with tags := ids.foldl TagStore.clear s.tags }

theorem change_of_createVpc {cidr : String} {v : Vpc} (h : s.createVpc at_ cidr = .ok (v, s')) :
    Change s s' := by
  obtain ⟨block, hb, hs, rfl, rfl⟩ := createVpc_eq_ok_iff.mp h
  apply Change.vpcCreated
  · exact Identifier.contains_fresh _ _ _ _
  · exact Identifier.isNumbered_fresh _ _ _ _
  · exact placeable_iff.mpr ⟨(readBlock_eq_ok_iff.mp hb).2.2, hs⟩

theorem change_of_createSubnet {input : CreateSubnet} {n : Subnet}
    (h : s.createSubnet at_ input = .ok (n, s')) : Change s s' := by
  obtain ⟨v, block, zone, hv, hb, hz, rfl, rfl⟩ := createSubnet_eq_ok_iff.mp h
  obtain ⟨hr, hs, hl, hn⟩ := placeBlock_eq_ok_iff.mp hb
  apply Change.subnetCreated (v := v)
  · exact hv
  · exact Identifier.contains_fresh _ _ _ _
  · exact Identifier.isNumbered_fresh _ _ _ _
  · exact placeable_iff.mpr ⟨(readBlock_eq_ok_iff.mp hr).2.2, hs⟩
  · exact hl
  · exact hn
  · exact mem_zones_of_chooseZone hz
  · rfl

theorem change_of_createSecurityGroup {input : CreateSecurityGroup} {g : SecurityGroup}
    (h : s.createSecurityGroup at_ input = .ok (g, s')) : Change s s' := by
  obtain ⟨⟨v, hv⟩, hn, rfl, rfl⟩ := createSecurityGroup_eq_ok_iff.mp h
  apply Change.groupCreated (v := v)
  · exact hv
  · exact Identifier.contains_fresh _ _ _ _
  · exact Identifier.isNumbered_fresh _ _ _ _
  · exact hn

theorem change_of_createTags {input : ResourceTags} {u : Unit}
    (h : s.createTags input = .ok (u, s')) : Change s s' := by
  obtain ⟨live, rfl⟩ := changeTags_eq_ok_iff.mp h
  exact .tagged _ _ live

theorem change_of_deleteTags {input : ResourceTags} {u : Unit}
    (h : s.deleteTags input = .ok (u, s')) : Change s s' := by
  obtain ⟨live, rfl⟩ := changeTags_eq_ok_iff.mp h
  by_cases none : input.tags = []
  · simp only [none, if_true]
    exact .cleared _ live
  · simp only [none, if_false]
    exact .untagged _ _ live

theorem change_of_run {name : String} {op : Op} {input : op.Input} {output : op.Output}
    (hop : operations name = some op) (h : (op.run s at_ input).run = .ok (output, s')) :
    Change s s' := by
  simp only [operations] at hop
  split at hop <;> cases hop
  case h_1 => exact change_of_createVpc h
  case h_2 => exact state_of_look h ▸ .looked
  case h_3 =>
    obtain ⟨live, hd, rfl⟩ := deleteVpc_eq_ok_iff.mp h
    exact .vpcDeleted _ (Registry.contains_eq_true_iff.mpr live) hd
  case h_4 => exact change_of_createSubnet h
  case h_5 => exact state_of_look h ▸ .looked
  case h_6 =>
    obtain ⟨live, rfl⟩ := deleteSubnet_eq_ok_iff.mp h
    exact .subnetDeleted _ (Registry.contains_eq_true_iff.mpr live)
  case h_7 =>
    obtain ⟨a, ha, hm⟩ := map_eq_ok_iff.mp h
    cases hm
    exact change_of_createSecurityGroup ha
  case h_8 => exact state_of_look h ▸ .looked
  case h_9 =>
    obtain ⟨live, rfl⟩ := deleteSecurityGroup_eq_ok_iff.mp h
    exact .groupDeleted _ (Registry.contains_eq_true_iff.mpr live)
  case h_10 => exact change_of_createTags h
  case h_11 => exact change_of_deleteTags h

/-- The network after a request, which leaves it as it is if it fails. -/
def after (s : NetworkService) (q : Request) : NetworkService :=
  match (operations.serve s q.at_ q.action q.bag).run with
  | .ok (_, s') => s'
  | .error _ => s

theorem change_after (s : NetworkService) (q : Request) : Change s (s.after q) := by
  rw [after]
  split
  · rename_i j s' h
    obtain ⟨op, input, output, hop, -, hr, -⟩ := Catalog.exists_of_serve h
    exact change_of_run hop hr
  · exact .looked

def run (scope : Scope) (qs : List Request) : NetworkService :=
  qs.foldl after (empty scope)

end ControlPlane.NetworkService
