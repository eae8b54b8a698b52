import ControlPlane.Proofs.Directory.Record
import ControlPlane.Proofs.Directory.Tally

/-!
Which addresses a new directory takes. In either of its subnets it is the lowest host address that
no directory takes up, wherever that directory lies: the blocks of different clouds may overlap, and
a text does not tell in which of them an address is meant. Main statements: a request that comes as
far as the register is granted the lowest free addresses, or told which of its subnets is full; and
where no directory that lies elsewhere takes up an address of a subnet, only those that lie there
count.
-/

namespace ControlPlane

def Directory.liesIn (d : Directory) (subnet : String) : Bool :=
  d.place?.any fun p => p.subnets.contains subnet

namespace DirectoryService

variable {view : NetworkView} {s s' : DirectoryService} {at_ : Moment} {used used' : List String}
  {m n : Subnet} {a : Ipv4}

/-- The lowest host address of a subnet that is not used. -/
structure IsLowestFree (used : List String) (n : Subnet) (a : Ipv4) : Prop where
  host : a ∈ n.cidr.hosts
  free : a.text ∉ used
  least : ∀ b ∈ n.cidr.hosts, b.text ∉ used → a.value ≤ b.value

def IsFull (used : List String) (n : Subnet) : Prop := ∀ a ∈ n.cidr.hosts, a.text ∈ used

theorem isFirstFree_iff : IsFirstFree used n a ↔ IsLowestFree used n a := by
  rw [IsFirstFree, ← Cidr.findHost_eq, Cidr.findHost_eq_some_iff]
  simp only [Bool.not_eq_true', List.contains_eq_mem, decide_eq_false_iff_not]
  refine ⟨?_, fun h => ⟨h.host, h.free, h.least⟩⟩
  rintro ⟨host, free, least⟩
  exact ⟨host, free, least⟩

theorem isFull_of_allocate {ns : List Subnet} {e : DirectoryFault}
    (failed : allocate used ns = .error e) :
    ∃ n ∈ ns, e = .noFreeAddress n.id ∧ IsFull used n := by
  induction ns with
  | nil => cases failed
  | cons n rest ih =>
    rw [allocate] at failed
    cases found : n.cidr.findHost fun a => !used.contains a.text with
    | none =>
      rw [found] at failed
      cases failed
      refine ⟨n, List.mem_cons_self, rfl, ?_⟩
      intro a ha
      simpa using Cidr.findHost_eq_none_iff.mp found a ha
    | some a =>
      rw [found] at failed
      obtain ⟨k, hk, named, full⟩ := ih (map_eq_error_iff.mp failed)
      exact ⟨k, List.mem_cons_of_mem _ hk, named, full⟩

section Congr

variable (same : ∀ a ∈ n.cidr.hosts, a.text ∈ used ↔ a.text ∈ used')

include same

theorem IsLowestFree.congr (h : IsLowestFree used n a) : IsLowestFree used' n a where
  host := h.host
  free := mt (same a h.host).mpr h.free
  least := fun b hb free => h.least b hb (mt (same b hb).mp free)

theorem IsFull.congr (h : IsFull used n) : IsFull used' n :=
  fun a ha => (same a ha).mp (h a ha)

end Congr

def usedIn (s : DirectoryService) (subnet : String) : List String :=
  (s.directories.records.filter (·.liesIn subnet)).flatMap Directory.occupied

/-- No directory that lies elsewhere takes up a host address of the subnet. -/
def Secluded (s : DirectoryService) (n : Subnet) : Prop :=
  ∀ d ∈ s.directories.records, d.liesIn n.id = false → ∀ a ∈ n.cidr.hosts, a.text ∉ d.occupied

instance : Decidable (s.Secluded n) :=
  inferInstanceAs (Decidable (∀ d ∈ s.directories.records, d.liesIn n.id = false →
    ∀ a ∈ n.cidr.hosts, a.text ∉ d.occupied))

theorem Secluded.mem_used_iff (h : s.Secluded n) (host : a ∈ n.cidr.hosts) :
    a.text ∈ s.usedAddresses ↔ a.text ∈ s.usedIn n.id := by
  simp only [usedAddresses, usedIn, List.mem_flatMap, List.mem_filter]
  refine ⟨?_, ?_⟩
  · intro ⟨d, hd, occupied⟩
    cases lies : d.liesIn n.id with
    | true => exact ⟨d, ⟨hd, lies⟩, occupied⟩
    | false => exact absurd occupied (h d hd lies a host)
  · intro ⟨d, ⟨hd, _⟩, occupied⟩
    exact ⟨d, hd, occupied⟩

/-- A request for a directory in two subnets that passes all that comes before the register. -/
structure Enters (s : DirectoryService) (view : NetworkView) (action : String) (bag : Json)
    (d : DirectoryDraft) (m n : Subnet) : Prop where
  drafted : draftOf? action bag = some d
  accepted : d.accept = .ok ()
  located : (locate d.vpc d.subnets).run.answer view = .ok [m, n]
  room : s.count d.type < s.quotas.limit d.type
  few : d.tags.length ≤ maxTags

/-- How a request for a directory in two subnets is answered, given which addresses count as used:
there is one directory more, which has the lowest free address of each subnet, or one of the subnets
is full and named. -/
structure Allocates (s : DirectoryService) (m n : Subnet) (used : Subnet → List String)
    (answer : Except ServiceError (Json × DirectoryService)) : Prop where
  granted : ∀ j s', answer = .ok (j, s') → ∃ new a b,
    s'.directories.records = s.directories.records ++ [new] ∧ j = idAnswer.encode new.id ∧
      new.place?.map (·.subnets) = some [m.id, n.id] ∧ new.occupied = [a.text, b.text] ∧
      IsLowestFree (used m) m a ∧ IsLowestFree (used n) n b
  refused : ∀ e, answer = .error e → ∃ k ∈ [m, n],
    e.message = "Insufficient free addresses in subnet " ++ k.id ++ "." ∧ IsFull (used k) k

variable {action : String} {bag : Json} {d : DirectoryDraft}

theorem Enters.serve_eq (h : Enters s view action bag d m n) (at_ : Moment) :
    (operations.serve s at_ action bag).answer view = answered (s.register at_ d [m, n]) := by
  have room : s.requireRoom d.type = .ok () := requireRoom_eq_ok_iff.mpr h.room
  have few : requireFewTags d.tags = .ok () := requireFewTags_eq_ok_iff.mpr h.few
  rw [serve_of_draftOf? at_ h.drafted, answer_of_located at_ h.accepted h.located, room, few]
  rfl

theorem allocates_register (s : DirectoryService) (at_ : Moment) (d : DirectoryDraft)
    (m n : Subnet) :
    Allocates s m n (fun _ => s.usedAddresses) (answered (s.register at_ d [m, n])) where
  granted := by
    intro j s' granted
    obtain ⟨⟨id, s'⟩, registered, same⟩ := map_eq_ok_iff.mp (mapError_eq_ok_iff.mp granted)
    cases same
    obtain ⟨texts, allocated, rfl, rfl⟩ := register_eq_ok_iff.mp registered
    obtain ⟨a, b, first, second, rfl⟩ := exists_of_allocate_pair allocated
    refine ⟨_, a, b, Registry.records_insert_of_not_contains (Identifier.contains_fresh _ _ _ _),
      rfl, ?_, occupied_build .., isFirstFree_iff.mp first, isFirstFree_iff.mp second⟩
    rw [place?_build]
    rfl
  refused := by
    intro e refused
    cases allocated : allocate s.usedAddresses [m, n] with
    | error fault =>
      rw [register, allocated] at refused
      cases refused
      obtain ⟨k, hk, rfl, full⟩ := isFull_of_allocate allocated
      exact ⟨k, hk, rfl, full⟩
    | ok texts =>
      rw [register, allocated] at refused
      cases refused

theorem Allocates.secluded {answer : Except ServiceError (Json × DirectoryService)}
    (h : Allocates s m n (fun _ => s.usedAddresses) answer)
    (secluded : ∀ k ∈ [m, n], s.Secluded k) : Allocates s m n (fun k => s.usedIn k.id) answer where
  granted := by
    intro j s' granted
    obtain ⟨new, a, b, records, told, place, occupied, first, second⟩ := h.granted j s' granted
    have first' := first.congr fun _ => (secluded m (by simp)).mem_used_iff
    have second' := second.congr fun _ => (secluded n (by simp)).mem_used_iff
    exact ⟨new, a, b, records, told, place, occupied, first', second'⟩
  refused := by
    intro e refused
    obtain ⟨k, hk, message, full⟩ := h.refused e refused
    exact ⟨k, hk, message, full.congr fun _ => (secluded k hk).mem_used_iff⟩

end DirectoryService

end ControlPlane
