import ControlPlane.Proofs.Region.Directories
import ControlPlane.Proofs.Region.Ledger
import ControlPlane.Proofs.Region.Tags

/-!
Ids in the history of a region. A creation gives out an id that nothing live of its kind has, and
ids show their kinds, so that nothing live of any kind has it. Main statement: an id that is given
out once more was that of a resource of the same kind, and this resource has gone in between. The
draws decide whether an id comes back after that; ids of addresses and versions of profiles are
drawn without a look at those that are there.
-/

namespace ControlPlane

open Identifier (IsOfKind)

namespace ResourceKind

/-- What the ids of a kind begin with. A stream or a profile has a name that is chosen for it. -/
def prefixes : ResourceKind → List String
  | vpc => ["vpc"]
  | subnet => ["subnet"]
  | securityGroup => ["sg"]
  | directory => ["d"]
  | endpoint => ["rslvr-in", "rslvr-out"]
  | rule => ["rslvr-rr"]
  | association => ["rslvr-rrassoc"]
  | stream | profile => []

def Shows (kind : ResourceKind) (id : String) : Prop := ∃ p ∈ kind.prefixes, IsOfKind p id

theorem prefixes_apart {kind other : ResourceKind} (different : kind ≠ other) :
    ∀ p ∈ kind.prefixes, ∀ q ∈ other.prefixes, ¬(p ++ "-").toList <+: (q ++ "-").toList := by
  revert different
  cases kind <;> cases other <;> decide +kernel

theorem Shows.eq {kind other : ResourceKind} {id : String} (h : kind.Shows id)
    (h' : other.Shows id) : kind = other := by
  by_contra different
  obtain ⟨p, hp, shown⟩ := h
  obtain ⟨q, hq, shown'⟩ := h'
  exact shown.not_isOfKind
    ⟨prefixes_apart different p hp q hq, prefixes_apart (Ne.symm different) q hq p hp⟩ shown'

end ResourceKind

namespace ResolverService

variable {views : Set NetworkView} {s s' : ResolverService}

structure Kinded (s : ResolverService) : Prop where
  endpoints : ∀ e ∈ s.endpoints.records, IsOfKind (endpointKind e.direction) e.id
  rules : ∀ r ∈ s.rules.records, IsOfKind "rslvr-rr" r.id
  associations : ∀ a ∈ s.associations.records, IsOfKind "rslvr-rrassoc" a.id

theorem kinded_empty (scope : Scope) (quotas : ResolverQuotas) : Kinded (empty scope quotas) where
  endpoints := fun _ he => nomatch he
  rules := fun _ hr => nomatch hr
  associations := fun _ ha => nomatch ha

theorem Change.kinded (h : Change views s s') (hk : Kinded s) : Kinded s' := by
  cases h with
  | looked => exact hk
  | endpointCreated e tags accepted room free numbered =>
    refine { hk with endpoints := fun d hd => ?_ }
    rcases (Registry.mem_insert_iff free).mp hd with hd | rfl
    · exact hk.endpoints d hd
    · exact numbered.isOfKind
  | endpointReplaced old new live arn requestId direction =>
    refine { hk with endpoints := fun d hd => ?_ }
    rcases Registry.eq_or_mem_of_mem_insert hd with rfl | hd
    · have key : old.id = d.id := Registry.key_of_get? live
      exact key ▸ direction ▸ hk.endpoints old (Registry.mem_of_get? live)
    · exact hk.endpoints d hd
  | endpointDeleted old live unused =>
    exact { hk with endpoints := fun d hd => hk.endpoints d (Registry.mem_remove_iff.mp hd).1 }
  | ruleCreated r tags accepted room free numbered =>
    refine { hk with rules := fun q hq => ?_ }
    rcases (Registry.mem_insert_iff free).mp hq with hq | rfl
    · exact hk.rules q hq
    · exact numbered.isOfKind
  | ruleDeleted old live unused =>
    exact { hk with rules := fun q hq => hk.rules q (Registry.mem_remove_iff.mp hq).1 }
  | associated a r live new room free numbered =>
    refine { hk with associations := fun b hb => ?_ }
    rcases (Registry.mem_insert_iff free).mp hb with hb | rfl
    · exact hk.associations b hb
    · exact numbered.isOfKind
  | disassociated a live =>
    exact { hk with associations := fun b hb => hk.associations b (Registry.mem_remove_iff.mp hb).1 }
  | tagged => exact { hk with }
  | untagged => exact { hk with }

theorem Kinded.shows_endpoint (hk : Kinded s) {e : Endpoint} (he : e ∈ s.endpoints.records) :
    ResourceKind.endpoint.Shows e.id := by
  have kind := hk.endpoints e he
  rw [endpointKind] at kind
  split at kind
  · exact ⟨_, List.mem_cons_self, kind⟩
  · exact ⟨_, List.mem_cons_of_mem _ List.mem_cons_self, kind⟩

end ResolverService

namespace Region

variable {scope : Scope} {quotas : Quotas} {r r' : Region}

theorem Change.resolver_kinded (h : Change r r') (hk : r.resolver.Kinded) : r'.resolver.Kinded := by
  rcases h.resolver_change with change | empty
  · exact change.kinded hk
  · exact empty ▸ ResolverService.kinded_empty r.scope r.quotas.resolver

theorem resolver_kinded (scope : Scope) (quotas : Quotas) (steps : List Step) :
    (run scope quotas steps).resolver.Kinded :=
  run_induction (ResolverService.kinded_empty scope quotas.resolver)
    (fun _ _ change held => change.resolver_kinded held) steps

theorem shows_of_mem_keys (steps : List Step) {kind : ResourceKind} (generated : kind.prefixes ≠ [])
    {id : String} (h : id ∈ (run scope quotas steps).keys kind) : kind.Shows id := by
  have network := (labelled_run scope quotas steps).network
  have directories := (recorded scope quotas steps).kind
  have resolver := resolver_kinded scope quotas steps
  generalize run scope quotas steps = r at h network directories resolver
  cases kind with
  | vpc =>
    obtain ⟨v, hv, rfl⟩ := List.mem_map.mp h
    exact ⟨_, List.mem_singleton_self _, network.vpcs v hv⟩
  | subnet =>
    obtain ⟨n, hn, rfl⟩ := List.mem_map.mp h
    exact ⟨_, List.mem_singleton_self _, network.subnets n hn⟩
  | securityGroup =>
    obtain ⟨g, hg, rfl⟩ := List.mem_map.mp h
    exact ⟨_, List.mem_singleton_self _, network.groups g hg⟩
  | directory =>
    obtain ⟨d, hd, rfl⟩ := List.mem_map.mp h
    exact ⟨_, List.mem_singleton_self _, directories d hd⟩
  | endpoint =>
    obtain ⟨e, he, rfl⟩ := List.mem_map.mp h
    exact resolver.shows_endpoint he
  | rule =>
    obtain ⟨q, hq, rfl⟩ := List.mem_map.mp h
    exact ⟨_, List.mem_singleton_self _, resolver.rules q hq⟩
  | association =>
    obtain ⟨a, ha, rfl⟩ := List.mem_map.mp h
    exact ⟨_, List.mem_singleton_self _, resolver.associations a ha⟩
  | stream => exact absurd rfl generated
  | profile => exact absurd rfl generated

theorem exists_createdId {kind : ResourceKind} {at_ : Moment} {creation : String}
    (creates : creation ∈ kind.creations) (generated : kind.prefixes ≠ []) {bag answer : Json}
    (served : r.serve at_ kind.service creation bag = .ok (answer, r')) :
    ∃ id, kind.createdId bag answer = some id := by
  cases kept : kind.service with
  | network =>
    rw [kept] at served
    obtain ⟨⟨_, s⟩, ran, same⟩ := map_eq_ok_iff.mp served
    cases same
    obtain ⟨op, input, output, hop, -, -, rfl⟩ := Catalog.exists_of_serve ran
    cases kind with
    | vpc =>
      rw [List.mem_singleton.mp creates] at hop
      cases hop
      exact ⟨_, rfl⟩
    | subnet =>
      rw [List.mem_singleton.mp creates] at hop
      cases hop
      exact ⟨_, rfl⟩
    | securityGroup =>
      rw [List.mem_singleton.mp creates] at hop
      cases hop
      exact ⟨_, rfl⟩
    | _ => cases kept
  | directory =>
    rw [kept] at served
    obtain ⟨⟨_, s⟩, ran, same⟩ := map_eq_ok_iff.mp served
    cases same
    obtain ⟨op, input, output, hop, -, -, rfl⟩ :=
      Catalog.exists_of_mem_outcomes_serve (Lookup.mem_outcomes_singleton_iff.mpr ran.symm)
    cases kind with
    | directory =>
      simp only [ResourceKind.creations, List.mem_cons, List.not_mem_nil, or_false] at creates
      rcases creates with rfl | rfl | rfl
      · cases hop
        exact ⟨_, rfl⟩
      · cases hop
        exact ⟨_, rfl⟩
      · cases hop
        exact ⟨_, rfl⟩
    | _ => cases kept
  | resolver =>
    rw [kept] at served
    obtain ⟨⟨_, s⟩, ran, same⟩ := map_eq_ok_iff.mp served
    cases same
    obtain ⟨op, input, output, hop, -, -, rfl⟩ :=
      Catalog.exists_of_mem_outcomes_serve (Lookup.mem_outcomes_singleton_iff.mpr ran.symm)
    cases kind with
    | endpoint =>
      rw [List.mem_singleton.mp creates] at hop
      cases hop
      exact ⟨_, ResolverService.told_endpoint _⟩
    | rule =>
      rw [List.mem_singleton.mp creates] at hop
      cases hop
      exact ⟨_, ResolverService.told_rule _⟩
    | association =>
      rw [List.mem_singleton.mp creates] at hop
      cases hop
      exact ⟨_, ResolverService.told_association _⟩
    | _ => cases kept
  | delivery =>
    cases kind with
    | stream => exact absurd rfl generated
    | _ => cases kept
  | signing =>
    cases kind with
    | profile => exact absurd rfl generated
    | _ => cases kept

theorem note_of_serve {kind : ResourceKind} (generated : kind.prefixes ≠ []) {at_ : Moment}
    {creation id : String} (creates : creation ∈ kind.creations) {bag answer : Json}
    (served : r.serve at_ kind.service creation bag = .ok (answer, r'))
    (told : kind.createdId bag answer = some id) :
    r.note kind (.request at_ kind.service creation bag) = .came id := by
  simp only [note, if_true, served]
  rw [ResourceKind.note, if_pos creates, told, Note.told]
  cases kind with
  | profile => exact absurd rfl generated
  | _ => rfl

theorem not_mem_keys_of_came {kind : ResourceKind} {step : Step} {id : String}
    (h : r.note kind step = .came id) : id ∉ r.keys kind := by
  have keys := keys_after r kind step
  rw [h, Note.apply] at keys
  have distinct := nodup_keys (r.after step) kind
  rw [keys, List.nodup_append] at distinct
  exact fun live => distinct.2.2 id live id (List.mem_singleton_self id) rfl

theorem notes_take (kind : ResourceKind) (r : Region) (steps : List Step) (n : Nat) :
    notes kind r (steps.take n) = (notes kind r steps).take n := by
  induction steps generalizing r n with
  | nil => rw [List.take_nil, notes, List.take_nil]
  | cons step rest ih =>
    cases n with
    | zero => rfl
    | succ n => rw [List.take_succ_cons, notes, notes, List.take_succ_cons, ih]

theorem shows_of_came {steps : List Step} {kind : ResourceKind} (generated : kind.prefixes ≠ [])
    {id : String} {before after : List Note}
    (h : notes kind (new scope quotas) steps = before ++ .came id :: after) : kind.Shows id := by
  have first : notes kind (new scope quotas) (steps.take (before.length + 1)) =
      before ++ [.came id] := by
    rw [notes_take, h, List.take_length_add_append]
    rfl
  apply shows_of_mem_keys (steps.take (before.length + 1)) generated
  rw [keys_run, first, Note.live_concat, Note.mem_apply_iff]
  exact Or.inl (Or.inl rfl)

theorem exists_ends_of_not_mem_live {before after : List Note} {id : String}
    (h : id ∉ Note.live (before ++ .came id :: after)) : ∃ m ∈ after, m.Ends id := by
  by_contra none
  refine h (Note.mem_live_iff.mpr ⟨before, .came id, after, rfl, Or.inl rfl, ?_⟩)
  exact fun m hm ends => none ⟨m, hm, ends⟩

/-- A creation that is served gives out an id that nothing live has, of any kind. If the id has come
before in this history, it came to a resource of the same kind, and this resource has gone since. -/
theorem generated_id_unique (scope : Scope) (quotas : Quotas) (steps : List Step)
    {kind : ResourceKind} (generated : kind.prefixes ≠ []) {creation : String}
    (creates : creation ∈ kind.creations) {at_ : Moment} {bag answer : Json}
    (served : (run scope quotas steps).serve at_ kind.service creation bag = .ok (answer, r')) :
    ∃ id, kind.createdId bag answer = some id ∧
      ∀ other : ResourceKind, other.prefixes ≠ [] →
        id ∉ (run scope quotas steps).keys other ∧
          ∀ before after,
            notes other (new scope quotas) steps = before ++ .came id :: after →
              other = kind ∧ ∃ m ∈ after, m.Ends id := by
  obtain ⟨id, told⟩ := exists_createdId creates generated served
  have came := note_of_serve generated creates served told
  have free := not_mem_keys_of_came came
  have whole : notes kind (new scope quotas)
      (steps ++ [.request at_ kind.service creation bag]) =
        notes kind (new scope quotas) steps ++ [.came id] := by
    rw [notes_concat]
    exact congrArg (fun n => _ ++ [n]) came
  have shown : kind.Shows id := shows_of_came generated whole
  refine ⟨id, told, fun other named => ⟨fun live => ?_, fun before after earlier => ?_⟩⟩
  · have same := (shows_of_mem_keys steps named live).eq shown
    exact free (same ▸ live)
  · have same := (shows_of_came named earlier).eq shown
    subst same
    rw [keys_run, earlier] at free
    exact ⟨rfl, exists_ends_of_not_mem_live free⟩

def networkGone : List Step :=
  [.request ⟨default, [7]⟩ .network "CreateVpc" (.obj [("CidrBlock", .str "10.0.0.0/16")]),
    .request ⟨default, []⟩ .network "DeleteVpc" (.obj [("VpcId", .str "vpc-00000000000000007")])]

theorem generated_id_unique_networkGone :
    let scope : Scope := ⟨"123456789012", "eu-west-1", "aws"⟩
    let bag := Json.obj [("CidrBlock", .str "10.1.0.0/16")]
    ∃ answer r', (run scope .standard networkGone).serve ⟨default, [7]⟩ .network "CreateVpc" bag =
        .ok (answer, r') ∧
      ∃ id, ResourceKind.vpc.createdId bag answer = some id ∧
        ∀ other : ResourceKind, other.prefixes ≠ [] →
          id ∉ (run scope .standard networkGone).keys other ∧
            ∀ before after,
              notes other (new scope .standard) networkGone = before ++ .came id :: after →
                other = .vpc ∧ ∃ m ∈ after, m.Ends id := by
  intro scope bag
  have succeeds :
      ((run scope .standard networkGone).serve ⟨default, [7]⟩ .network "CreateVpc" bag).toBool =
        true := by
    decide +kernel
  cases served :
      (run scope .standard networkGone).serve ⟨default, [7]⟩ .network "CreateVpc" bag with
  | error e =>
    rw [served] at succeeds
    cases succeeds
  | ok result =>
    obtain ⟨answer, r'⟩ := result
    exact ⟨answer, r', rfl, generated_id_unique scope .standard networkGone (by decide) (by decide)
      served⟩

/-- An endpoint for the two addresses of which the same number is drawn, and a profile that is put
twice on the same draw. -/
def sameDraws : List Step :=
  [.request ⟨default, [1]⟩ .network "CreateVpc" (.obj [("CidrBlock", .str "10.0.0.0/16")]),
    .request ⟨default, [2]⟩ .network "CreateSubnet"
      (.obj [("VpcId", .str "vpc-00000000000000001"), ("CidrBlock", .str "10.0.1.0/24")]),
    .request ⟨default, [3]⟩ .network "CreateSecurityGroup"
      (.obj [("GroupName", .str "dns"), ("Description", .str "resolvers"),
        ("VpcId", .str "vpc-00000000000000001")]),
    .request ⟨default, [5, 5, 6]⟩ .resolver "CreateResolverEndpoint"
      (.obj [("CreatorRequestId", .str "first"), ("Direction", .str "INBOUND"),
        ("SecurityGroupIds", .arr [.str "sg-00000000000000003"]),
        ("IpAddresses", .arr
          [.obj [("SubnetId", .str "subnet-00000000000000002")],
            .obj [("SubnetId", .str "subnet-00000000000000002")]])]),
    .request ⟨default, [9]⟩ .signing "PutSigningProfile" put,
    .request ⟨default, [9]⟩ .signing "PutSigningProfile" put]
where
  put : Json :=
    .obj [("profileName", .str "firmware"), ("platformId", .str "AWSLambda-SHA384-ECDSA")]

/-- An id comes back when its number is drawn again after the resource has gone. Addresses of one
endpoint can have the same id, and a profile can be replaced under the version that it had. -/
theorem identifiers_come_back :
    let scope : Scope := ⟨"123456789012", "eu-west-1", "aws"⟩
    let again := networkGone ++ networkGone.take 1
    let versions := fun steps => (run scope .standard steps).signing.profiles.records.map (·.version)
    notes .vpc (new scope .standard) again =
        [.came "vpc-00000000000000007", .went "vpc-00000000000000007",
          .came "vpc-00000000000000007"] ∧
      (run scope .standard sameDraws).resolver.endpoints.records.map
          (fun e => e.addresses.map (·.id)) =
        [["rni-00000000000000005", "rni-00000000000000005"]] ∧
      versions (sameDraws.take 5) = ["0000000009"] ∧ versions sameDraws = ["0000000009"] := by
  decide +kernel

end Region

end ControlPlane
