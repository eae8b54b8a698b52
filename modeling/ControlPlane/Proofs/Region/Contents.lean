import ControlPlane.Proofs.Delivery.Listing
import ControlPlane.Proofs.Directory.Listing
import ControlPlane.Proofs.Network.Listing
import ControlPlane.Proofs.Region.Ledger
import ControlPlane.Proofs.Resolver.Listing
import ControlPlane.Proofs.Signing.Listing

/-!
The contents of a region after a history of requests and resets. Main statement: for every kind of
resource, what a client lists and finds is what the requests and their answers tell of: nothing is
lost, nothing comes twice and nothing comes back.
-/

namespace ControlPlane.Region

variable {scope : Scope} {quotas : Quotas} {r r' : Region}

/-- What can be stored at all: the records of each kind are counted in words of sixty-four bits, and
a draw of an id for a directory ends only while one is free. -/
structure Countable (r : Region) : Prop where
  words : ∀ kind, (r.keys kind).length ≤ Text.greatestWord64
  directories : (r.keys .directory).length ≤ 16 ^ DirectoryService.idDigits

theorem length_keys_run_le (scope : Scope) (quotas : Quotas) (kind : ResourceKind)
    (steps : List Step) : ((run scope quotas steps).keys kind).length ≤ steps.length := by
  induction steps using List.reverseRecOn with
  | nil => cases kind <;> exact Nat.le_refl _
  | append_singleton steps step ih =>
    rw [run_concat, keys_after, List.length_append]
    exact (Note.length_apply_le _ _).trans (Nat.succ_le_succ ih)

/-- A history of no more steps than there are ids for directories, which is more than a million
millions, stays countable. -/
theorem countable_of_length (scope : Scope) (quotas : Quotas) {steps : List Step}
    (few : steps.length ≤ 16 ^ DirectoryService.idDigits) {part : List Step} (h : part <+: steps) :
    Countable (run scope quotas part) := by
  have bound : ∀ kind, ((run scope quotas part).keys kind).length ≤
      16 ^ DirectoryService.idDigits := fun kind =>
    (length_keys_run_le scope quotas kind part).trans (h.length_le.trans few)
  exact ⟨fun kind => (bound kind).trans (by decide), bound .directory⟩

structure Drawn (r : Region) : Prop where
  directory : DirectoryService.Drawn r.directory
  resolver : ResolverService.Drawn r.resolver

theorem Countable.size_le {α : Type} [Keyed α] {store : Registry α} (h : Countable r)
    (kind : ResourceKind) (same : r.keys kind = store.keys) : store.size ≤ Text.greatestWord64 := by
  rw [← Registry.length_keys, ← same]
  exact h.words kind

theorem Countable.directory (h : Countable r) :
    r.directory.directories.size ≤ 16 ^ DirectoryService.idDigits :=
  (Registry.length_keys _).symm.trans_le h.directories

theorem Countable.resolver (h : Countable r) : ResolverService.Countable r.resolver where
  endpoints := (h.size_le .endpoint rfl).trans (by decide)
  rules := (h.size_le .rule rfl).trans (by decide)
  associations := (h.size_le .association rfl).trans (by decide)

theorem drawn_new (scope : Scope) (quotas : Quotas) : Drawn (new scope quotas) where
  directory := fun _ hd => nomatch hd
  resolver :=
    { endpoints := fun _ he => nomatch he
      rules := fun _ hq => nomatch hq
      associations := fun _ ha => nomatch ha }

theorem Change.drawn (h : Change r r') (fits : Countable r') (hd : Drawn r) : Drawn r' where
  directory := by
    rcases h.directory_change with change | empty
    · exact change.drawn fits.directory hd.directory
    · exact empty ▸ (drawn_new r.scope r.quotas).directory
  resolver := by
    rcases h.resolver_change with change | empty
    · exact change.drawn fits.resolver hd.resolver
    · exact empty ▸ (drawn_new r.scope r.quotas).resolver

theorem drawn_run {steps : List Step}
    (fits : ∀ part, part <+: steps → Countable (run scope quotas part)) :
    Drawn (run scope quotas steps) := by
  induction steps using List.reverseRecOn with
  | nil => exact drawn_new scope quotas
  | append_singleton steps step ih =>
    have before := ih fun part hp => fits part (hp.trans (List.prefix_append _ _))
    have now := fits _ (List.prefix_refl _)
    rw [run_concat] at now ⊢
    exact (change_after _ step).drawn now before

theorem exists_shows (drawn : Drawn r) (fits : Countable r) (kind : ResourceKind) :
    ∃ items, Shows r kind (r.keys kind) items := by
  cases kind with
  | vpc => exact ⟨_, shows_vpcs r⟩
  | subnet => exact ⟨_, shows_subnets r⟩
  | securityGroup => exact ⟨_, shows_securityGroups r⟩
  | directory => exact ⟨_, shows_directories drawn.directory (fits.size_le .directory rfl)⟩
  | endpoint => exact ⟨_, shows_endpoints drawn.resolver (fits.size_le .endpoint rfl)⟩
  | rule => exact ⟨_, shows_rules drawn.resolver (fits.size_le .rule rfl)⟩
  | association => exact ⟨_, shows_associations drawn.resolver (fits.size_le .association rfl)⟩
  | stream => exact ⟨_, shows_streams r⟩
  | profile => exact ⟨_, shows_profiles (fits.size_le .profile rfl)⟩

/-- What a client sees of the resources of a kind, against the notes of the history: each id that
stands is listed once, in its place, and found by itself, and no other is. -/
structure Reflects (r : Region) (kind : ResourceKind) (notes : List Note) : Prop where
  distinct : (Note.live notes).Nodup
  standing : ∀ id, id ∈ Note.live notes ↔ Note.Stands id notes
  shown : ∃ items, Shows r kind (Note.live notes) items

/-- After every history that can be counted, a region reflects the notes of the history. -/
theorem contents_reflect_history (scope : Scope) (quotas : Quotas) (steps : List Step)
    (fits : ∀ part, part <+: steps → Countable (run scope quotas part)) (kind : ResourceKind) :
    Reflects (run scope quotas steps) kind (notes kind (new scope quotas) steps) where
  distinct := by
    rw [← keys_run]
    exact nodup_keys _ kind
  standing := fun _ => Note.mem_live_iff
  shown := by
    rw [← keys_run]
    exact exists_shows (drawn_run fits) (fits steps (List.prefix_refl _)) kind

def secondNetworkStays : List Step :=
  [.request ⟨default, [5]⟩ .network "CreateVpc" (.obj [("CidrBlock", .str "10.0.0.0/16")]),
    .request ⟨default, [6]⟩ .network "CreateVpc" (.obj [("CidrBlock", .str "10.1.0.0/16")]),
    .request ⟨default, []⟩ .network "DeleteVpc" (.obj [("VpcId", .str "vpc-00000000000000005")])]

theorem contents_reflect_secondNetworkStays :
    let scope : Scope := ⟨"123456789012", "eu-west-1", "aws"⟩
    (∀ part, part <+: secondNetworkStays → Countable (run scope .standard part)) ∧
      Reflects (run scope .standard secondNetworkStays) .vpc
        (notes .vpc (new scope .standard) secondNetworkStays) ∧
      Note.live (notes .vpc (new scope .standard) secondNetworkStays) =
        ["vpc-00000000000000006"] := by
  intro scope
  have fits : ∀ part, part <+: secondNetworkStays → Countable (run scope .standard part) :=
    fun _ => countable_of_length scope .standard (by decide)
  exact ⟨fits, contents_reflect_history scope .standard secondNetworkStays fits .vpc,
    by decide +kernel⟩

end ControlPlane.Region
