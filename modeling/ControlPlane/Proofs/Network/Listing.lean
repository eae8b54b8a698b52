import ControlPlane.Proofs.Network.Change
import ControlPlane.Proofs.Region.Listing

/-!
The network service lists its records on one page, each with its tags, in the order of the store.
-/

namespace ControlPlane

namespace NetworkService

variable {α : Type} {find : String → Except NetworkFault α} {id : String}

theorem chosen_singleton_of_ok {a : α} (h : find id = .ok a) (all : List α) :
    chosen find all [id] = .ok [a] := by
  rw [chosen, if_neg (List.cons_ne_nil _ _), findAll, h]
  rfl

theorem chosen_singleton_ne_ok (h : ∀ a, find id ≠ .ok a) (all as : List α) :
    chosen find all [id] ≠ .ok as := by
  rw [chosen, if_neg (List.cons_ne_nil _ _), findAll]
  cases found : find id with
  | ok a => exact absurd found (h a)
  | error e => exact fun same => nomatch same

def described [Keyed α] (s : NetworkService) (record : Record α α) (a : α) : Json :=
  (Tagged.record record).codec.encode (s.withTags a)

def descriptions (list : String) (record : Record α α) : Codec (List (Tagged α)) :=
  .single list (.list (Tagged.record record).codec)

end NetworkService

namespace Region

open NetworkService

variable {r : Region} {kind : ResourceKind} {α : Type} [Keyed α] {store : Registry α}
  {record : Record α α} {list : String} {find : String → Except NetworkFault α}
  {describe : List String → Except NetworkFault (List (Tagged α))}

/-- What the three kinds have in common: one operation describes all records or those of some
ids. -/
structure Described (r : Region) (kind : ResourceKind) (store : Registry α) (record : Record α α)
    (list : String) (find : String → Except NetworkFault α)
    (describe : List String → Except NetworkFault (List (Tagged α))) : Prop where
  idOf : ∀ a, kind.access.idOf (r.network.described record a) = some (Keyed.key a)
  finds : ∀ id a, find id = .ok a ↔ store.get? id = some a
  describes : ∀ ids, describe ids =
    (chosen find store.records ids).map fun as => as.map r.network.withTags
  lists : ∀ at_ limit, r.serve at_ kind.service kind.access.listAction
    (kind.access.listBag limit none) = looked r (descriptions list record) (describe [])
  reads : ∀ at_ id, r.serve at_ kind.service kind.access.readAction (kind.access.readBag id) =
    looked r (descriptions list record) (describe [id])
  items : ∀ as, kind.access.items ((descriptions list record).encode as) =
    some (as.map (Tagged.record record).codec.encode)
  last : ∀ j, kind.access.next j = none
  found : ∀ a, kind.access.found ((descriptions list record).encode [a]) =
    some ((Tagged.record record).codec.encode a)

theorem Described.mirrors (h : Described r kind store record list find describe) :
    Mirrors r kind store (r.network.described record) where
  idOf := h.idOf
  found := by
    intro at_ a ha
    have found := (h.finds _ a).mpr (Registry.get?_eq_some_iff.mpr ⟨ha, rfl⟩)
    have seen : describe [Keyed.key a] = .ok [r.network.withTags a] := by
      rw [h.describes, chosen_singleton_of_ok found]
      rfl
    exact ⟨_, (h.reads at_ _).trans (looked_of_ok seen r), h.found _⟩
  missing := by
    intro at_ id absent
    have unseen : ∀ o, describe [id] ≠ .ok o := by
      intro o same
      rw [h.describes] at same
      obtain ⟨as, found, -⟩ := map_eq_ok_iff.mp same
      refine chosen_singleton_ne_ok ?_ _ as found
      intro a told
      cases absent.symm.trans ((h.finds id a).mp told)
    obtain ⟨e, he⟩ := exists_looked_eq_error unseen r
    exact ⟨e, (h.reads at_ id).trans he⟩

theorem Described.shows (h : Described r kind store record list find describe)
    (ordered : ∀ ids, kind.arranged ids = ids) :
    Shows r kind store.keys (store.records.map (r.network.described record)) := by
  refine h.mirrors.shows ordered fun asked admitted => walk_of_page ?_ admitted
  intro at_ limit _
  have seen : describe [] = .ok (store.records.map r.network.withTags) := by
    rw [h.describes]
    rfl
  refine ⟨_, (h.lists at_ limit).trans (looked_of_ok seen r), ?_, h.last _⟩
  rw [h.items, List.map_map]
  rfl

theorem shows_vpcs (r : Region) :
    Shows r .vpc r.network.vpcs.keys
      (r.network.vpcs.records.map (r.network.described Vpc.record)) := by
  have described : Described r .vpc r.network.vpcs Vpc.record "Vpcs" r.network.vpc
      r.network.describeVpcs :=
    { idOf := fun _ => rfl
      finds := fun _ _ => vpc_eq_ok_iff
      describes := fun _ => rfl
      lists := fun at_ _ => serve_look .network at_ r rfl rfl
      reads := fun at_ _ => serve_look .network at_ r rfl rfl
      items := fun _ => rfl
      last := fun _ => rfl
      found := fun _ => rfl }
  exact described.shows fun _ => rfl

theorem shows_subnets (r : Region) :
    Shows r .subnet r.network.subnets.keys
      (r.network.subnets.records.map (r.network.described Subnet.record)) := by
  have unfiltered : ∀ ids, r.network.describeSubnets ⟨ids, []⟩ =
      (chosen r.network.subnet r.network.subnets.records ids).map fun ns =>
        ns.map r.network.withTags := by
    intro ids
    simp only [describeSubnets, List.all_nil, List.filter_true]
  have described : Described r .subnet r.network.subnets Subnet.record "Subnets" r.network.subnet
      fun ids => r.network.describeSubnets ⟨ids, []⟩ :=
    { idOf := fun _ => rfl
      finds := fun _ _ => subnet_eq_ok_iff
      describes := unfiltered
      lists := fun at_ _ => serve_look .network at_ r rfl rfl
      reads := fun at_ _ => serve_look .network at_ r rfl rfl
      items := fun _ => rfl
      last := fun _ => rfl
      found := fun _ => rfl }
  exact described.shows fun _ => rfl

theorem shows_securityGroups (r : Region) :
    Shows r .securityGroup r.network.groups.keys
      (r.network.groups.records.map (r.network.described SecurityGroup.record)) := by
  have described : Described r .securityGroup r.network.groups SecurityGroup.record
      "SecurityGroups" r.network.securityGroup r.network.describeSecurityGroups :=
    { idOf := fun _ => rfl
      finds := fun _ _ => securityGroup_eq_ok_iff
      describes := fun _ => rfl
      lists := fun at_ _ => serve_look .network at_ r rfl rfl
      reads := fun at_ _ => serve_look .network at_ r rfl rfl
      items := fun _ => rfl
      last := fun _ => rfl
      found := fun _ => rfl }
  exact described.shows fun _ => rfl

end Region

end ControlPlane
