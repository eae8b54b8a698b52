import ControlPlane.Proofs.Delivery.TagOrder
import ControlPlane.Proofs.Directory.Listing
import ControlPlane.Proofs.Directory.Tags
import ControlPlane.Proofs.Network.Change
import ControlPlane.Proofs.Resolver.LaterTags
import ControlPlane.Proofs.Tag.Room
import ControlPlane.Proofs.Region.TagLimits

/-!
When a request to tag something is granted. The services count the entries of the request: those
whose key is new, each by itself, and in two of the services the whole list besides. Main
statements: a request that names each key once is granted exactly if there is room for the keys that
are there and the new ones together, and one that repeats a key can be refused though there is.
-/

namespace ControlPlane

/-- How something that has the tags `held` is tagged where `limit` tags are allowed: `run` is the
request with some tags, `tagsOf` tells the tags afterwards, and a request has at most `listLimit`
entries, where zero is no limit. -/
structure GrantsByEntry {σ ε : Type} (run : List Tag → Except ε (Unit × σ))
    (tagsOf : σ → List Tag) (held : List Tag) (limit listLimit : Nat) : Prop where
  granted : ∀ new, (∀ t ∈ new, t.IsValid) → ((∃ s', run new = .ok ((), s')) ↔
    held.length + Tag.addedCount held new ≤ limit ∧ (listLimit = 0 ∨ new.length ≤ listLimit))
  onceEach : ∀ new, (∀ t ∈ new, t.IsValid) → (new.map Tag.key).Nodup →
    ((∃ s', run new = .ok ((), s')) ↔ Tag.keyCount (held ++ new) ≤ limit)
  bounded : ∀ new s', run new = .ok ((), s') → Tag.keyCount (held ++ new) ≤ limit
  keys : ∀ new s', run new = .ok ((), s') →
    (tagsOf s').map Tag.key = held.map Tag.key ++ Tag.newKeys held new
  values : ∀ new s', run new = .ok ((), s') →
    ∀ t ∈ tagsOf s', t.value = Tag.lastValue (held ++ new) t.key

theorem GrantsByEntry.of_decided {σ ε : Type} {run : List Tag → Except ε (Unit × σ)}
    {tagsOf : σ → List Tag} {held : List Tag} {limit listLimit : Nat} (write : List Tag → σ)
    (decided : ∀ new s', run new = .ok ((), s') ↔ Tag.validate new listLimit = .ok () ∧
      held.length + Tag.addedCount held new ≤ limit ∧ s' = write new)
    (written : ∀ new, tagsOf (write new) = Tag.upsertAll held new)
    (distinct : (held.map Tag.key).Nodup) (wide : listLimit = 0 ∨ limit ≤ listLimit) :
    GrantsByEntry run tagsOf held limit listLimit := by
  have granted : ∀ new, (∀ t ∈ new, t.IsValid) → ((∃ s', run new = .ok ((), s')) ↔
      held.length + Tag.addedCount held new ≤ limit ∧
        (listLimit = 0 ∨ new.length ≤ listLimit)) := by
    intro new valid
    simp only [decided, Tag.validate_eq_ok_iff_isValid, exists_and_left, exists_eq, and_true]
    exact ⟨fun ⟨⟨_, few⟩, room⟩ => ⟨room, few⟩, fun ⟨room, few⟩ => ⟨⟨valid, few⟩, room⟩⟩
  refine ⟨granted, fun new valid once => ?_, fun new s' ran => ?_, fun new s' ran => ?_,
    fun new s' ran => ?_⟩
  · rw [granted new valid, Tag.keyCount_append_of_nodup distinct once]
    refine and_iff_left_of_imp fun room => ?_
    have brought := Tag.length_le_keyCount_append once held
    rw [Tag.keyCount_append_of_nodup distinct once] at brought
    exact wide.imp_right (brought.trans room).trans
  · obtain ⟨-, room, -⟩ := (decided new s').mp ran
    exact (Tag.keyCount_append_le distinct new).trans room
  · obtain ⟨-, -, rfl⟩ := (decided new s').mp ran
    rw [written, Tag.keys_upsertAll distinct]
  · obtain ⟨-, -, rfl⟩ := (decided new s').mp ran
    intro t ht
    rw [written] at ht
    exact Tag.value_of_mem_upsertAll distinct ht

namespace DirectoryService

variable {views : Set NetworkView} {s s' : DirectoryService}

theorem Change.distinct (h : Change views s s') (hd : s.tags.Distinct) : s'.tags.Distinct := by
  cases h with
  | looked => exact hd
  | created draft id now m n a b typed accepted free named located room few first second =>
    exact hd.tag id draft.tags
  | deleted d live => exact hd.clear d.id
  | aliased d name live plain allowed new => exact hd
  | ssoSwitched d enabled live named => exact hd
  | tagged id tags live valid room => exact hd.tag id tags
  | untagged id keys live => exact hd.untag id keys

theorem distinct_run (scope : Scope) (quotas : DirectoryQuotas)
    (qs : List (Request × (Nat → NetworkView))) : (run scope quotas qs).tags.Distinct := by
  induction qs using List.reverseRecOn with
  | nil => exact TagStore.distinct_empty
  | append_singleton qs q ih =>
    rw [run_concat]
    exact (change_after _ q).distinct ih

theorem grantsByEntry {d : Directory} (live : d ∈ s.directories.records)
    (drawn : Identifier.IsDrawn "d" idDigits d.id) (distinct : s.tags.Distinct) :
    GrantsByEntry (fun new => s.addTags ⟨d.id, new⟩) (fun s' => s'.tags.tags d.id)
      (s.tags.tags d.id) maxTags 0 := by
  have required : s.requireDirectory d.id = .ok () := requireDirectory_eq_ok_iff.mpr
    ⟨validate_eq_ok_iff.mpr (List.forall_mem_singleton.mpr (check_of_isDrawn drawn)),
      Registry.contains_eq_true_iff.mpr ⟨d, Registry.get?_eq_some_iff.mpr ⟨live, rfl⟩⟩⟩
  refine .of_decided (fun new => { s with tags := s.tags.tag d.id new }) ?_ ?_
    (distinct d.id) (Or.inl rfl)
  · intro new s'
    simp only [addTags_eq_ok_iff, required, true_and]
  · exact fun new => s.tags.tags_tag d.id new

end DirectoryService

namespace ResolverService

variable {views : Set NetworkView} {s s' : ResolverService} {arn : String}

theorem Change.distinct (h : Change views s s') (hd : s.tags.Distinct) : s'.tags.Distinct := by
  cases h with
  | looked => exact hd
  | endpointCreated e tags accepted room free numbered arn new granted count least greatest =>
    exact hd.tag e.arn tags
  | endpointReplaced old new live arn requestId direction addresses => exact hd
  | endpointDeleted old live unused => exact hd.clear old.arn
  | ruleCreated r tags accepted room free numbered arn new bare targets out =>
    exact hd.tag r.arn tags
  | ruleDeleted old live unused => exact hd.clear old.arn
  | associated a r live new room free numbered => exact hd
  | disassociated a live => exact hd
  | tagged arn tags live accepted room => exact hd.tag arn tags
  | untagged arn keys live => exact hd.untag arn keys

theorem distinct_run (scope : Scope) (quotas : ResolverQuotas)
    (qs : List (Request × (Nat → NetworkView))) : (run scope quotas qs).tags.Distinct := by
  induction qs using List.reverseRecOn with
  | nil => exact TagStore.distinct_empty
  | append_singleton qs q ih =>
    rw [run_concat]
    exact (change_after _ q).distinct ih

theorem grantsByEntry (owns : s.Owns arn) (distinct : s.tags.Distinct) :
    GrantsByEntry (fun new => s.tagResource ⟨arn, new⟩) (fun s' => s'.tags.tags arn)
      (s.tags.tags arn) s.quotas.tagsPerResource s.quotas.tagsPerResource := by
  have live : s.requireResource arn = .ok () := requireResource_eq_ok_iff.mpr owns
  refine .of_decided (fun new => { s with tags := s.tags.tag arn new }) ?_ ?_
    (distinct arn) (Or.inr le_rfl)
  · intro new s'
    simp only [tagResource_eq_ok_iff, live, true_and, acceptTags_eq_ok_iff]
  · exact fun new => s.tags.tags_tag arn new

end ResolverService

namespace DeliveryService

variable {s s' : DeliveryService}

theorem distinct_run (scope : Scope) (quotas : DeliveryQuotas) (qs : List Request) :
    (run scope quotas qs).tags.Distinct := by
  induction qs using List.reverseRecOn with
  | nil => exact TagStore.distinct_empty
  | append_singleton qs q ih =>
    rw [run_concat]
    exact (change_after _ q).distinct ih

theorem grantsByEntry {t : DeliveryStream} (live : t ∈ s.streams.records)
    (distinct : s.tags.Distinct) :
    GrantsByEntry (fun new => s.tagStream ⟨t.name, new⟩) (fun s' => s'.tags.tags t.arn)
      (s.tags.tags t.arn) s.quotas.tagsPerStream s.quotas.tagsPerStream := by
  have found : s.streams.get? t.name = some t := Registry.get?_eq_some_iff.mpr ⟨live, rfl⟩
  refine .of_decided (fun new => { s with tags := s.tags.tag t.arn new }) ?_ ?_
    (distinct t.arn) (Or.inr le_rfl)
  · intro new s'
    simp only [tagStream_eq_ok_iff, found, Option.some.injEq, exists_eq_left']
  · exact fun new => s.tags.tags_tag t.arn new

end DeliveryService

/-- How tags are granted in three services after any requests to them, services that ask the network
being answered by another network each time: to directories, which have all ids that are given out,
to endpoints and rules, and to delivery streams. -/
theorem tags_granted_by_entry (scope : Scope) (quotas : Quotas) (qs : List Request)
    (asked : List (Request × (Nat → NetworkView))) :
    (DirectoryService.Countable scope quotas.directory asked →
      let s := DirectoryService.run scope quotas.directory asked
      ∀ d ∈ s.directories.records,
        GrantsByEntry (fun new => s.addTags ⟨d.id, new⟩) (fun s' => s'.tags.tags d.id)
          (s.tags.tags d.id) 50 0) ∧
    (let s := ResolverService.run scope quotas.resolver asked
      ∀ arn, s.Owns arn →
        GrantsByEntry (fun new => s.tagResource ⟨arn, new⟩) (fun s' => s'.tags.tags arn)
          (s.tags.tags arn) quotas.resolver.tagsPerResource quotas.resolver.tagsPerResource) ∧
    (let s := DeliveryService.run scope quotas.delivery qs
      ∀ t ∈ s.streams.records,
        GrantsByEntry (fun new => s.tagStream ⟨t.name, new⟩) (fun s' => s'.tags.tags t.arn)
          (s.tags.tags t.arn) quotas.delivery.tagsPerStream quotas.delivery.tagsPerStream) := by
  refine ⟨fun fits d live => ?_, fun arn owns => ?_, fun t live => ?_⟩
  · exact DirectoryService.grantsByEntry live (DirectoryService.drawn_run fits d live)
      (DirectoryService.distinct_run scope quotas.directory asked)
  · have granted := ResolverService.grantsByEntry owns
      (ResolverService.distinct_run scope quotas.resolver asked)
    rwa [ResolverService.run_quotas] at granted
  · have granted := DeliveryService.grantsByEntry live
      (DeliveryService.distinct_run scope quotas.delivery qs)
    rwa [DeliveryService.run_quotas] at granted

def twoZones : NetworkService :=
  .run ⟨"123456789012", "eu-west-1", "aws"⟩
    [⟨⟨default, [5]⟩, "CreateVpc", .obj [("CidrBlock", .str "10.0.0.0/16")]⟩,
      ⟨⟨default, [6]⟩, "CreateSubnet",
        .obj [("VpcId", .str "vpc-00000000000000005"), ("CidrBlock", .str "10.0.0.0/24"),
          ("AvailabilityZone", .str "eu-west-1a")]⟩,
      ⟨⟨default, [7]⟩, "CreateSubnet",
        .obj [("VpcId", .str "vpc-00000000000000005"), ("CidrBlock", .str "10.0.1.0/24"),
          ("AvailabilityZone", .str "eu-west-1b")]⟩]

def taggedDirectory : List (Request × (Nat → NetworkView)) :=
  [(⟨⟨default, [8]⟩, "CreateDirectory",
      .obj [("Name", .str "corp.example.com"), ("Password", .str "Passw0rd!"),
        ("Size", .str "Small"),
        ("Tags", .arr [.obj [("Key", .str "site"), ("Value", .str "east")]]),
        ("VpcSettings", .obj [("VpcId", .str "vpc-00000000000000005"),
          ("SubnetIds",
            .arr [.str "subnet-00000000000000006", .str "subnet-00000000000000007"])])]⟩,
    fun _ => twoZones.view)]

/-- A directory with one tag can be given another, and the first stays in front. -/
theorem tags_granted_by_entry_taggedDirectory :
    let scope : Scope := ⟨"123456789012", "eu-west-1", "aws"⟩
    let s := DirectoryService.run scope Quotas.standard.directory taggedDirectory
    DirectoryService.Countable scope Quotas.standard.directory taggedDirectory ∧
      ∃ d ∈ s.directories.records, d.id = "d-0000000008" ∧
        s.tags.tags d.id = [⟨"site", "east"⟩] ∧
        ∃ s', s.addTags ⟨d.id, [⟨"team", "blue"⟩, ⟨"site", "west"⟩]⟩ = .ok ((), s') ∧
          (s'.tags.tags d.id).map Tag.key = ["site", "team"] := by
  intro scope s
  have fits : DirectoryService.Countable scope Quotas.standard.directory taggedDirectory :=
    DirectoryService.countable_of_length scope Quotas.standard.directory (by decide)
  have live : s.directories.records.map (·.id) = ["d-0000000008"] := by decide +kernel
  have held : s.tags.tags "d-0000000008" = [⟨"site", "east"⟩] := by decide +kernel
  obtain ⟨d, hd, named⟩ := List.mem_map.mp (live ▸ List.mem_singleton_self "d-0000000008")
  have grants := (tags_granted_by_entry scope .standard [] taggedDirectory).1 fits d hd
  rw [named, held] at grants
  have valid : Tag.validate [⟨"team", "blue"⟩, ⟨"site", "west"⟩] 0 = .ok () := by decide +kernel
  obtain ⟨s', written⟩ := (grants.onceEach _ (Tag.validate_eq_ok_iff_isValid.mp valid).1
    (by decide)).mpr (by decide)
  refine ⟨fits, d, hd, named, named ▸ held, s', named ▸ written, ?_⟩
  rw [named, grants.keys _ s' written]
  decide

/-- Entries that repeat a key are refused where there is room for the key: one that is there,
because the list of the request is longer than the limit, and a new one, because each entry
counts. -/
theorem repeated_key_refused :
    let s := fun limit =>
      DeliveryService.run ⟨"123456789012", "eu-west-1", "aws"⟩ ⟨50, limit⟩ (retaggedStream.take 1)
    let answer := fun limit new => ((s limit).tagStream ⟨"orders", new⟩).map fun _ => ()
    let held : List Tag := [⟨"team", "blue"⟩]
    let known : List Tag := [⟨"team", "red"⟩, ⟨"team", "green"⟩]
    let new : List Tag := [⟨"site", "east"⟩, ⟨"site", "west"⟩]
    (∀ t ∈ known ++ new, t.IsValid) ∧
      (∀ limit ∈ [1, 2],
        (s limit).streams.records.map (fun t => (t.name, (s limit).tags.tags t.arn)) =
          [("orders", held)]) ∧
      (Tag.keyCount (held ++ known) = 1 ∧ answer 1 known = .error (.validation
        (.single "tags" "[team, team]" "have length less than or equal to 1"))) ∧
      Tag.keyCount (held ++ new) = 2 ∧ answer 2 new = .error (.tagLimit 2) := by
  intro s answer held known new
  have valid : Tag.validate (known ++ new) 0 = .ok () := by decide +kernel
  exact ⟨(Tag.validate_eq_ok_iff_isValid.mp valid).1, by decide +kernel, by decide +kernel⟩

end ControlPlane
