import ControlPlane.Proofs.Directory.Allocation
import ControlPlane.Proofs.Region.Run
import ControlPlane.Proofs.Resolver.Turns

/-!
What addresses a request gets in a region as it stands. A new directory takes the lowest addresses
that no directory of the region takes up; an endpoint gets its addresses in the order in which it
asks for them, and a wish for any address can stand in the way of one that names it.
-/

namespace ControlPlane.Region

/-- A request for a directory that passes all other checks gets the lowest host address of each
subnet that no directory of the region takes up, or names a subnet in which there is none. Where no
directory that lies elsewhere takes up a host address of these subnets, only those that lie in the
same subnet count. -/
theorem directory_takes_lowest_free (scope : Scope) (quotas : Quotas) (steps : List Step)
    (at_ : Moment) (action : String) (bag : Json) (d : DirectoryDraft) (m n : Subnet)
    (enters : (run scope quotas steps).directory.Enters (run scope quotas steps).network.view
      action bag d m n) :
    let r := run scope quotas steps
    let answer := (r.serve at_ .directory action bag).map fun (j, r') => (j, r'.directory)
    r.directory.Allocates m n (fun _ => r.directory.usedAddresses) answer ∧
      ((∀ k ∈ [m, n], r.directory.Secluded k) →
        r.directory.Allocates m n (fun k => r.directory.usedIn k.id) answer) := by
  intro r answer
  have same : answer = DirectoryService.answered (r.directory.register at_ d [m, n]) := by
    rw [← enters.serve_eq at_]
    simp only [answer, serve]
    cases (DirectoryService.operations.serve r.directory at_ action bag).answer r.network.view <;>
      rfl
  have allocates := r.directory.allocates_register at_ d m n
  rw [← same] at allocates
  exact ⟨allocates, allocates.secluded⟩

def oneCloud : List Step :=
  cloud 1 ++ [.request ⟨default, [7]⟩ .directory "CreateDirectory" (ask 1)]
where
  id (kind : String) (n : Nat) : String := kind ++ "-0000000000000000" ++ toString n
  subnetOf (n draw : Nat) (block zone : String) : Step :=
    .request ⟨default, [draw]⟩ .network "CreateSubnet"
      (.obj [("VpcId", .str (id "vpc" n)), ("CidrBlock", .str block),
        ("AvailabilityZone", .str zone)])
  /-- The block is the same, whichever number the cloud has. -/
  cloud (n : Nat) : List Step :=
    [.request ⟨default, [n]⟩ .network "CreateVpc" (.obj [("CidrBlock", .str "10.0.0.0/16")]),
      subnetOf n (n + 1) "10.0.0.0/28" "us-east-1a",
      subnetOf n (n + 2) "10.0.0.16/28" "us-east-1b"]
  /-- A request for a directory in the subnets of a cloud. -/
  ask (n : Nat) : Json :=
    .obj [("Name", .str "corp.example.com"), ("Password", .str "Passw0rd!"), ("Size", .str "Small"),
      ("VpcSettings", .obj [("VpcId", .str (id "vpc" n)),
        ("SubnetIds", .arr [.str (id "subnet" (n + 1)), .str (id "subnet" (n + 2))])])]

theorem directory_takes_lowest_free_second :
    let r := run ⟨"123456789012", "us-east-1", "aws"⟩ .standard oneCloud
    let answer := (r.serve default .directory "CreateDirectory" (oneCloud.ask 1)).map
      fun (j, r') => (j, r'.directory)
    ∃ d m n, r.directory.Enters r.network.view "CreateDirectory" (oneCloud.ask 1) d m n ∧
      (∀ k ∈ [m, n], r.directory.Secluded k) ∧
      r.directory.usedIn m.id = ["10.0.0.4", "10.0.0.20"] ∧
      r.directory.Allocates m n (fun k => r.directory.usedIn k.id) answer := by
  intro r answer
  let d := (DirectoryService.draftOf? "CreateDirectory" (oneCloud.ask 1)).get (by decide +kernel)
  let m := (r.network.subnets.get? (oneCloud.id "subnet" 2)).get (by decide +kernel)
  let n := (r.network.subnets.get? (oneCloud.id "subnet" 3)).get (by decide +kernel)
  have enters : r.directory.Enters r.network.view "CreateDirectory" (oneCloud.ask 1) d m n := by
    refine ⟨?_, ?_, ?_, ?_, ?_⟩ <;> decide +kernel
  have secluded : ∀ k ∈ [m, n], r.directory.Secluded k := by decide +kernel
  have allocates := directory_takes_lowest_free ⟨"123456789012", "us-east-1", "aws"⟩ .standard
    oneCloud default "CreateDirectory" (oneCloud.ask 1) d m n enters
  exact ⟨d, m, n, enters, secluded, by decide +kernel, allocates.2 secluded⟩

/-- In another cloud of the same block a directory does not get the lowest host addresses of its
subnets, although no directory lies in them. -/
theorem directory_makes_way_for_other_cloud :
    let r := run ⟨"123456789012", "us-east-1", "aws"⟩ .standard (oneCloud ++ oneCloud.cloud 4)
    let r' := r.after (.request default .directory "CreateDirectory" (oneCloud.ask 4))
    let subnets := [oneCloud.id "subnet" 5, oneCloud.id "subnet" 6]
    subnets.map r.directory.usedIn = [[], []] ∧
      subnets.map (fun id => ((r.network.subnets.get? id).bind fun n => n.cidr.hosts.head?).map
        Ipv4.text) = [some "10.0.0.4", some "10.0.0.20"] ∧
      (r'.directory.directories.records.drop 1).map (fun d => (d.place?.map (·.subnets),
        d.occupied)) = [(some subnets, ["10.0.0.5", "10.0.0.21"])] := by
  decide +kernel

/-- A request for an endpoint whose wishes could all be met, and that passes all other checks, is
granted for exactly those orders of its wishes in which each that names an address has its turn in
time. Those that name addresses first are among them, and all are where no subnet has wishes of both
kinds. -/
theorem endpoint_granted_in_turn (scope : Scope) (quotas : Quotas) (steps : List Step)
    (at_ : Moment) (input : CreateEndpoint)
    (admits : (run scope quotas steps).resolver.Admits (run scope quotas steps).network input)
    (sat : ResolverService.Satisfiable (run scope quotas steps).network
      (run scope quotas steps).resolver.heldAddresses input.addresses) :
    let r := run scope quotas steps
    let granted (order : List AddressRequest) : Prop :=
      r.resolver.Creates r.network at_ { input with addresses := order }
    (∀ order, order.Perm input.addresses →
      (granted order ↔ ResolverService.InTurn r.network r.resolver.heldAddresses order) ∧
        (ResolverService.NamedFirst order → granted order)) ∧
      (∃ order, order.Perm input.addresses ∧ ResolverService.NamedFirst order) ∧
      (ResolverService.Unmixed input.addresses →
        ∀ order, order.Perm input.addresses → granted order) := by
  intro r granted
  have met : ∀ order, order.Perm input.addresses →
      (granted order ↔ ResolverService.Met r.network r.resolver.heldAddresses order) :=
    fun _ same => (admits.perm same).creates_iff
  have first : ∀ order, order.Perm input.addresses → ResolverService.NamedFirst order →
      granted order :=
    fun order same first => (met order same).mpr ((sat.perm same).met_of_namedFirst first)
  refine ⟨?_, ResolverService.exists_namedFirst _, ?_⟩
  · intro order same
    exact ⟨(met order same).trans (sat.perm same).met_iff, first order same⟩
  · intro unmixed order same
    exact first order same (unmixed.namedFirst same)

def anyAndLowest : List AddressRequest :=
  [⟨oneCloud.id "subnet" 2, none⟩, ⟨oneCloud.id "subnet" 2, some "10.0.0.4"⟩]

def askFor (wishes : List AddressRequest) : CreateEndpoint :=
  { requestId := "first", name := none, groups := [], direction := "INBOUND", addresses := wishes,
    tags := [] }

theorem anyAndLowest_satisfiable :
    let r := run ⟨"123456789012", "us-east-1", "aws"⟩ .standard (oneCloud.cloud 1)
    r.resolver.Admits r.network (askFor anyAndLowest) ∧
      ResolverService.Satisfiable r.network r.resolver.heldAddresses anyAndLowest := by
  intro r
  refine ⟨⟨?_, ?_, ?_, Lookup.mem_outcomes_singleton_iff.mpr rfl, ?_⟩, ?_⟩ <;> decide +kernel

theorem endpoint_granted_in_turn_lowestFirst :
    let r := run ⟨"123456789012", "us-east-1", "aws"⟩ .standard (oneCloud.cloud 1)
    (r.resolver.Admits r.network (askFor anyAndLowest) ∧
      ResolverService.Satisfiable r.network r.resolver.heldAddresses anyAndLowest) ∧
      r.resolver.Creates r.network default (askFor anyAndLowest.reverse) := by
  intro r
  obtain ⟨admits, sat⟩ := anyAndLowest_satisfiable
  have granted := (endpoint_granted_in_turn ⟨"123456789012", "us-east-1", "aws"⟩ .standard
    (oneCloud.cloud 1) default (askFor anyAndLowest) admits sat).1 anyAndLowest.reverse
    (List.reverse_perm _)
  exact ⟨⟨admits, sat⟩, granted.2 (by decide)⟩

/-- A wish for any address takes the one that the next wish names, and this order is refused. -/
theorem endpoint_refused_for_order :
    let r := run ⟨"123456789012", "us-east-1", "aws"⟩ .standard (oneCloud.cloud 1)
    (r.resolver.Admits r.network (askFor anyAndLowest) ∧
      ResolverService.Satisfiable r.network r.resolver.heldAddresses anyAndLowest) ∧
      ¬r.resolver.Creates r.network default (askFor anyAndLowest) := by
  intro r
  refine ⟨anyAndLowest_satisfiable, ?_⟩
  rintro ⟨e, s', granted⟩
  have refused : ((r.resolver.createEndpoint default (askFor anyAndLowest)).run.answer
      r.network.view).isOk = false := by
    decide +kernel
  rw [← Lookup.mem_outcomes_singleton_iff.mp granted] at refused
  cases refused

end ControlPlane.Region
