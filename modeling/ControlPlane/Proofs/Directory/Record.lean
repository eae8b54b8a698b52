import ControlPlane.Proofs.Directory.Change
import ControlPlane.Proofs.Network.Graph

/-!
The records of directories. Every request keeps them well formed and their names apart. A directory
without an alias of its own goes by its id, and no alias has the form of an id, so an alias differs
from the ids of all directories, of those still to come as well.
-/

namespace ControlPlane

def Directory.place? (d : Directory) : Option Placement :=
  match d.connection with
  | some c => some ⟨c.vpc, c.subnets, c.zones⟩
  | none => d.placement

namespace DirectoryService

open DirectoryConstraint

variable {net : NetworkService} {scope : Scope} {s s' : DirectoryService}

theorem not_isOfKind_of_isAllowedAlias {name : String} (h : isAllowedAlias name = true) :
    ¬Identifier.IsOfKind "d" name := by
  simp only [isAllowedAlias, Bool.and_eq_true, Bool.not_eq_true'] at h
  obtain ⟨⟨⟨⟨plain, -⟩, -⟩, -⟩, -⟩ := h
  intro kind
  have starts : Text.startsWith "d-" name = true := Text.startsWith_iff.mpr kind
  rw [plain] at starts
  cases starts

structure IsAlias (name : String) : Prop where
  least : 1 ≤ name.length
  greatest : name.length ≤ 62
  pattern : aliasPattern.accepts name = true

theorem isAlias_of_checks {name : String} (h : ∀ c ∈ aliasChecks name, c.broken = none) :
    IsAlias name := by
  simp only [aliasChecks, List.forall_mem_cons, Check.of, Rule.lengthAtMost, Rule.lengthAtLeast,
    Rule.satisfies, Rule.requires_eq_none_iff, decide_eq_true_eq] at h
  obtain ⟨greatest, least, pattern, -⟩ := h
  exact ⟨least, greatest, pattern⟩

/-- Two different subnets in two different zones of the region. -/
structure Spread (scope : Scope) (p : Placement) : Prop where
  subnets : ∃ i j, p.subnets = [i, j] ∧ i ≠ j
  zones : ∃ y z, p.zones = [y, z] ∧ y ≠ z ∧ y ∈ scope.zones ∧ z ∈ scope.zones

structure WellFormed (scope : Scope) (d : Directory) : Prop where
  settings : d.placement.isSome = true ↔ d.connection = none
  connector : d.connection.isSome = true ↔ d.type = .connector
  spread : ∃ p, d.place? = some p ∧ Spread scope p
  active : d.stage = .active
  named : d.aliasName = d.id ∨ IsAlias d.aliasName
  url : d.accessUrl = d.aliasName ++ ".awsapps.com"
  sso : d.ssoEnabled = true → d.aliasName ≠ d.id

theorem spread_of_located (hc : net.Consistent) {vpc : String} {ids : List String} {m n : Subnet}
    (located : Located net.view vpc ids m n) :
    Spread net.scope ⟨vpc, [m.id, n.id], [m.zone, n.zone]⟩ := by
  obtain ⟨i, j, -, knownM, knownN⟩ := located.known
  obtain ⟨hm, -⟩ := NetworkService.mem_subnets_of_view knownM
  obtain ⟨hn, -⟩ := NetworkService.mem_subnets_of_view knownN
  have different : m.id ≠ n.id := by
    intro same
    have one : m = n := Registry.eq_of_key_eq hm hn same
    exact located.zones (congrArg Subnet.zone one)
  exact ⟨⟨m.id, n.id, rfl, different⟩,
    ⟨m.zone, n.zone, rfl, located.zones, hc.zone m hm, hc.zone n hn⟩⟩

theorem place?_build (d : DirectoryDraft) (id : String) (now : Timestamp) (subnets : List Subnet)
    (texts : List String) :
    (build d id now subnets texts).place? =
      some ⟨d.vpc, subnets.map (·.id), subnets.map (·.zone)⟩ := by
  cases hc : d.connect <;> simp [build, Directory.place?, hc]

theorem wellFormed_build {draft : DirectoryDraft} (typed : WellTyped draft) {m n : Subnet}
    (spread : Spread scope ⟨draft.vpc, [m.id, n.id], [m.zone, n.zone]⟩) (id : String)
    (now : Timestamp) (texts : List String) :
    WellFormed scope (build draft id now [m, n] texts) where
  settings := by cases hc : draft.connect <;> simp [build, hc]
  connector := by simpa [build, WellTyped] using typed.symm
  spread := ⟨_, place?_build _ _ _ _ _, spread⟩
  active := rfl
  named := Or.inl rfl
  url := rfl
  sso := fun enabled => nomatch enabled

theorem WellFormed.withAlias {d : Directory} (hd : WellFormed scope d) {name : String}
    (allowed : IsAlias name) (other : name ≠ d.id) : WellFormed scope (d.withAlias name) where
  settings := hd.settings
  connector := hd.connector
  spread := hd.spread
  active := hd.active
  named := Or.inr allowed
  url := rfl
  sso := fun _ => other

theorem WellFormed.withSso {d : Directory} (hd : WellFormed scope d) {enabled : Bool}
    (named : enabled = true → d.hasOwnAlias = true) :
    WellFormed scope { d with ssoEnabled := enabled } where
  settings := hd.settings
  connector := hd.connector
  spread := hd.spread
  active := hd.active
  named := hd.named
  url := hd.url
  sso := fun on => by simpa [Directory.hasOwnAlias] using named on

/-- Records are well formed, known by ids of their kind, and called by different names. -/
structure Recorded (scope : Scope) (s : DirectoryService) : Prop where
  kind : ∀ d ∈ s.directories.records, Identifier.IsOfKind "d" d.id
  formed : ∀ d ∈ s.directories.records, WellFormed scope d
  aliases : (s.directories.records.map Directory.aliasName).Nodup

theorem recorded_empty (scope' : Scope) (quotas : DirectoryQuotas) :
    Recorded scope (empty scope' quotas) where
  kind := fun _ hd => nomatch hd
  formed := fun _ hd => nomatch hd
  aliases := List.nodup_nil

theorem ne_of_isAlias {name id : String} (allowed : IsAlias name)
    (kind : Identifier.IsOfKind "d" id) : name ≠ id :=
  fun same => not_isOfKind_of_isAllowedAlias allowed.pattern (same ▸ kind)

theorem Recorded.aliasName_ne_id (hr : Recorded scope s) {d : Directory}
    (hd : d ∈ s.directories.records) {id : String} (kind : Identifier.IsOfKind "d" id)
    (other : d.id ≠ id) : d.aliasName ≠ id := by
  rcases (hr.formed d hd).named with plain | allowed
  · exact plain ▸ other
  · exact ne_of_isAlias allowed kind

theorem Recorded.insert (hr : Recorded scope s) {d : Directory}
    (free : s.directories.contains d.id = false) (kind : Identifier.IsOfKind "d" d.id)
    (formed : WellFormed scope d) (plain : d.aliasName = d.id) (tags : TagStore) :
    Recorded scope { s with directories := s.directories.insert d, tags := tags } := by
  have free' : s.directories.contains (Keyed.key d) = false := free
  refine ⟨?_, ?_, ?_⟩
  · intro e he
    rcases (Registry.mem_insert_iff free').mp he with he | rfl
    · exact hr.kind e he
    · exact kind
  · intro e he
    rcases (Registry.mem_insert_iff free').mp he with he | rfl
    · exact hr.formed e he
    · exact formed
  · apply Registry.nodup_map_insert free' _ hr.aliases
    intro e he
    rw [plain]
    exact hr.aliasName_ne_id he kind (Registry.contains_eq_false_iff.mp free e he)

theorem Recorded.replace (hr : Recorded scope s) {old new : Directory}
    (live : s.directories.get? new.id = some old) (formed : WellFormed scope new)
    (name : new.aliasName = old.aliasName ∨
      ∀ e ∈ s.directories.records, e.aliasName ≠ new.aliasName) :
    Recorded scope { s with directories := s.directories.insert new } := by
  have key : old.id = new.id := Registry.key_of_get? live
  refine ⟨?_, ?_, ?_⟩
  · intro e he
    rcases Registry.eq_or_mem_of_mem_insert he with rfl | he
    · exact key ▸ hr.kind old (Registry.mem_of_get? live)
    · exact hr.kind e he
  · intro e he
    rcases Registry.eq_or_mem_of_mem_insert he with rfl | he
    · exact formed
    · exact hr.formed e he
  · rcases name with same | fresh
    · rw [Registry.map_insert_of_get? Directory.aliasName live same]
      exact hr.aliases
    · exact Registry.nodup_map_replace live fresh hr.aliases

theorem Recorded.remove (hr : Recorded scope s) (id : String) (tags : TagStore) :
    Recorded scope { s with directories := s.directories.remove id, tags := tags } where
  kind := fun d hd => hr.kind d (Registry.mem_remove_iff.mp hd).1
  formed := fun d hd => hr.formed d (Registry.mem_remove_iff.mp hd).1
  aliases := Registry.nodup_map_remove id hr.aliases

theorem Change.recorded (h : Change {net.view} s s') (hc : net.Consistent)
    (hr : Recorded net.scope s) : Recorded net.scope s' := by
  cases h with
  | looked => exact hr
  | created draft id now m n a b typed accepted free named located room few first second =>
    have spread := spread_of_located hc (located_of_locate located)
    exact hr.insert free named.isOfKind (wellFormed_build typed spread id now _) rfl _
  | deleted d live => exact hr.remove d.id _
  | aliased d name live plain allowed new =>
    have hd := Registry.mem_of_get? live
    have isAlias := isAlias_of_checks allowed
    have formed := (hr.formed d hd).withAlias isAlias (ne_of_isAlias isAlias (hr.kind d hd))
    exact hr.replace live formed (Or.inr new)
  | ssoSwitched d enabled live named =>
    have formed := (hr.formed d (Registry.mem_of_get? live)).withSso named
    exact hr.replace live formed (Or.inl rfl)
  | tagged id tags live valid room => exact { hr with }
  | untagged id keys live => exact { hr with }

/-- A live directory has the id, the place and the addresses of the given one. -/
def Keeps (s : DirectoryService) (d : Directory) : Prop :=
  ∃ e ∈ s.directories.records, e.id = d.id ∧ e.place? = d.place? ∧ e.occupied = d.occupied

/-- The network has a subnet for each place of the directory, in the zone that is kept beside it,
and the address kept for it is one of a host there. -/
structure PlacedOn (net : NetworkService) (p : Placement) (addresses : List String) : Prop where
  zones : List.Forall₂ (fun id zone => ∃ n ∈ net.subnets.records, n.id = id ∧ n.zone = zone)
    p.subnets p.zones
  hosts : List.Forall₂ (fun id text => ∃ n ∈ net.subnets.records, n.id = id ∧
    ∃ a ∈ n.cidr.hosts, text = a.text) p.subnets addresses

theorem placedOn_of_located {vpc : String} {ids : List String} {m n : Subnet}
    (located : Located net.view vpc ids m n) {a b : Ipv4} (ha : a ∈ m.cidr.hosts)
    (hb : b ∈ n.cidr.hosts) :
    PlacedOn net ⟨vpc, [m.id, n.id], [m.zone, n.zone]⟩ [a.text, b.text] := by
  obtain ⟨i, j, -, knownM, knownN⟩ := located.known
  have hm := (NetworkService.mem_subnets_of_view knownM).1
  have hn := (NetworkService.mem_subnets_of_view knownN).1
  refine ⟨?_, ?_⟩
  · exact .cons ⟨m, hm, rfl, rfl⟩ (.cons ⟨n, hn, rfl, rfl⟩ .nil)
  · exact .cons ⟨m, hm, rfl, a, ha, rfl⟩ (.cons ⟨n, hn, rfl, b, hb, rfl⟩ .nil)

theorem Keeps.of_replace {old new d : Directory}
    (h : Keeps { s with directories := s.directories.insert new } d)
    (live : s.directories.get? new.id = some old) (place : new.place? = old.place?)
    (occupied : new.occupied = old.occupied) : Keeps s d := by
  obtain ⟨e, he, same⟩ := h
  rcases Registry.eq_or_mem_of_mem_insert he with rfl | he
  · have key : old.id = e.id := Registry.key_of_get? live
    exact ⟨old, Registry.mem_of_get? live, key ▸ place ▸ occupied ▸ same⟩
  · exact ⟨e, he, same⟩

/-- What a directory keeps was fixed when its id was given out, from the network of that moment. -/
theorem Change.placedOn_of_not_keeps (h : Change {net.view} s s') {d : Directory}
    (now : s'.Keeps d) (before : ¬s.Keeps d) :
    s.directories.contains d.id = false ∧ ∃ p, d.place? = some p ∧ PlacedOn net p d.occupied := by
  cases h with
  | looked => exact absurd now before
  | created draft id now' m n a b typed accepted free named located room few first second =>
    obtain ⟨e, he, same⟩ := now
    have free' : s.directories.contains
        (Keyed.key (build draft id now' [m, n] [a.text, b.text])) = false := free
    rcases (Registry.mem_insert_iff free').mp he with he | rfl
    · exact absurd ⟨e, he, same⟩ before
    · obtain ⟨known, place, occupied⟩ := same
      rw [← known, ← place, ← occupied, place?_build, occupied_build]
      exact ⟨free, _, rfl, placedOn_of_located (located_of_locate located) first.mem second.mem⟩
  | deleted e live =>
    obtain ⟨e, he, same⟩ := now
    exact absurd ⟨e, (Registry.mem_remove_iff.mp he).1, same⟩ before
  | aliased e name live plain allowed new => exact absurd (now.of_replace live rfl rfl) before
  | ssoSwitched e enabled live named => exact absurd (now.of_replace live rfl rfl) before
  | tagged id tags live valid room => exact absurd now before
  | untagged id keys live => exact absurd now before

end DirectoryService

end ControlPlane
