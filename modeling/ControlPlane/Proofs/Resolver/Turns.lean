import ControlPlane.Proofs.Network.Change
import ControlPlane.Proofs.Resolver.Change
import Mathlib.Data.List.Perm.Basic

/-!
The order of the addresses that a request for an endpoint asks for. They are given out one after the
other: a wish without an address takes the lowest that is free in its subnet, which may be one that
is named further on. Main statements: wishes that can all be met are met in their order if none that
names an address comes too late, which is seen by counting; and those that name an address first
come in time.
-/

namespace ControlPlane

namespace ResolverService

variable {net : NetworkService} {s : ResolverService} {at_ : Moment}
  {taken : List (String × String)} {n : Subnet} {a b : Ipv4} {q : AddressRequest}
  {requests rest : List AddressRequest}

def freeHosts (taken : List (String × String)) (n : Subnet) : List Ipv4 :=
  n.cidr.hosts.filter fun a => !taken.contains (n.id, a.text)

theorem mem_freeHosts_iff : a ∈ freeHosts taken n ↔ a ∈ n.cidr.hosts ∧ (n.id, a.text) ∉ taken := by
  simp [freeHosts]

theorem nodup_freeHosts (taken : List (String × String)) (n : Subnet) :
    (freeHosts taken n).Nodup :=
  n.cidr.nodup_hosts.filter _

theorem freeHosts_cons_of_ne {id ip : String} (other : n.id ≠ id) :
    freeHosts ((id, ip) :: taken) n = freeHosts taken n := by
  simp [freeHosts, other]

theorem freeHosts_cons (n : Subnet) (a : Ipv4) :
    freeHosts ((n.id, a.text) :: taken) n = (freeHosts taken n).filter (· != a) := by
  rw [freeHosts, freeHosts, List.filter_filter]
  apply List.filter_congr
  intro b _
  by_cases same : b = a
  · simp [same]
  · have texts : b.text ≠ a.text := Ipv4.text_injective.ne same
    simp [same, texts]

theorem freeHosts_perm (free : a ∈ freeHosts taken n) :
    (freeHosts taken n).Perm (a :: freeHosts ((n.id, a.text) :: taken) n) := by
  rw [freeHosts_cons, ← (nodup_freeHosts taken n).erase_eq_filter a]
  exact List.perm_cons_erase free

theorem countP_freeHosts_cons (p : Ipv4 → Bool) (free : a ∈ freeHosts taken n) :
    (freeHosts taken n).countP p =
      (freeHosts ((n.id, a.text) :: taken) n).countP p + if p a = true then 1 else 0 := by
  rw [(freeHosts_perm free).countP_eq, List.countP_cons]

/-! ### One wish -/

/-- The address that a wish for an address in a subnet gets: the one it names, if it is free, or
else the lowest of all that are. -/
structure Gets (taken : List (String × String)) (n : Subnet) (wanted : Option String) (a : Ipv4) :
    Prop where
  free : a ∈ freeHosts taken n
  named : ∀ ip, wanted = some ip → ip = a.text
  least : wanted = none → ∀ b ∈ freeHosts taken n, a.value ≤ b.value

theorem gets_some_iff {ip : String} :
    Gets taken n (some ip) a ↔ a ∈ freeHosts taken n ∧ ip = a.text := by
  refine ⟨fun gets => ⟨gets.free, gets.named ip rfl⟩, ?_⟩
  intro ⟨free, text⟩
  exact ⟨free, fun _ told => Option.some.inj told ▸ text, fun none => nomatch none⟩

theorem gets_none_iff :
    Gets taken n none a ↔
      (n.cidr.findHost fun a => !taken.contains (n.id, a.text)) = some a := by
  rw [Cidr.findHost_eq_some_iff]
  simp only [Bool.not_eq_true', List.contains_eq_mem, decide_eq_false_iff_not]
  refine ⟨?_, ?_⟩
  · intro gets
    obtain ⟨host, free⟩ := mem_freeHosts_iff.mp gets.free
    refine ⟨host, free, ?_⟩
    intro b host_b free_b
    exact gets.least rfl b (mem_freeHosts_iff.mpr ⟨host_b, free_b⟩)
  · intro ⟨host, free, least⟩
    refine ⟨mem_freeHosts_iff.mpr ⟨host, free⟩, ?_, ?_⟩
    · intro ip told
      cases told
    · intro _ b hb
      obtain ⟨host_b, free_b⟩ := mem_freeHosts_iff.mp hb
      exact least b host_b free_b

theorem settle_eq_ok_iff_gets {wanted : Option String} {chosen : String} :
    settle taken n wanted = .ok chosen ↔ ∃ a, Gets taken n wanted a ∧ chosen = a.text := by
  rw [settle_eq_ok_iff]
  cases wanted with
  | some ip =>
    simp only [chooseAddress_some_eq_ok_iff, gets_some_iff, mem_freeHosts_iff]
    refine ⟨?_, ?_⟩
    · rintro ⟨⟨⟨a, parsed, host⟩, rfl⟩, free⟩
      have text := Ipv4.parse?_eq_some_iff.mp parsed
      exact ⟨a, ⟨⟨Cidr.mem_hosts_iff.mpr host, text ▸ free⟩, text⟩, text⟩
    · rintro ⟨a, ⟨⟨host, free⟩, rfl⟩, rfl⟩
      exact ⟨⟨⟨a, Ipv4.parse?_text a, Cidr.mem_hosts_iff.mp host⟩, rfl⟩, free⟩
  | none =>
    simp only [chooseAddress, gets_none_iff]
    cases found : n.cidr.findHost fun a => !taken.contains (n.id, a.text) with
    | none => simp
    | some a =>
      have free := (mem_freeHosts_iff.mp (gets_none_iff.mpr found).free).2
      simp only [Except.ok.injEq, Option.some.injEq, exists_eq_left']
      refine ⟨fun given => given.1.symm, ?_⟩
      rintro rfl
      exact ⟨rfl, free⟩

theorem Gets.unique {wanted : Option String} (ha : Gets taken n wanted a)
    (hb : Gets taken n wanted b) : a = b := by
  cases wanted with
  | some ip => exact Ipv4.text_injective ((ha.named ip rfl).symm.trans (hb.named ip rfl))
  | none =>
    exact Ipv4.ext (Nat.le_antisymm (ha.least rfl b hb.free) (hb.least rfl a ha.free))

theorem exists_gets_none (free : a ∈ freeHosts taken n) : ∃ a, Gets taken n none a := by
  simp only [gets_none_iff]
  rw [← Option.isSome_iff_exists, Cidr.findHost_eq, List.find?_isSome]
  obtain ⟨host, untaken⟩ := mem_freeHosts_iff.mp free
  exact ⟨a, host, by simpa using untaken⟩

def isNamed (requests : List AddressRequest) (subnet : String) (a : Ipv4) : Bool :=
  requests.any fun q => q.subnet == subnet && q.ip == some a.text

/-- All wishes could be met together: their subnets are there, the addresses that they name are
free and different, and each subnet has as many further free hosts as it has wishes that name no
address. -/
structure Satisfiable (net : NetworkService) (taken : List (String × String))
    (requests : List AddressRequest) : Prop where
  known : ∀ q ∈ requests, (net.subnets.get? q.subnet).isSome = true
  free : ∀ q ∈ requests, ∀ n ∈ net.subnets.get? q.subnet, ∀ ip ∈ q.ip,
    ∃ a ∈ freeHosts taken n, ip = a.text
  apart : requests.Pairwise fun p q => p.subnet = q.subnet → p.ip ≠ none → p.ip ≠ q.ip
  enough : ∀ q ∈ requests, ∀ n ∈ net.subnets.get? q.subnet,
    (requests.countP fun p => p.subnet == q.subnet && p.ip == none) ≤
      (freeHosts taken n).countP fun a => !isNamed requests q.subnet a

instance : Decidable (Satisfiable net taken requests) :=
  decidable_of_iff
    ((∀ q ∈ requests, (net.subnets.get? q.subnet).isSome = true) ∧
      (∀ q ∈ requests, ∀ n ∈ net.subnets.get? q.subnet, ∀ ip ∈ q.ip,
        ∃ a ∈ freeHosts taken n, ip = a.text) ∧
      (requests.Pairwise fun p q => p.subnet = q.subnet → p.ip ≠ none → p.ip ≠ q.ip) ∧
      ∀ q ∈ requests, ∀ n ∈ net.subnets.get? q.subnet,
        (requests.countP fun p => p.subnet == q.subnet && p.ip == none) ≤
          (freeHosts taken n).countP fun a => !isNamed requests q.subnet a)
    ⟨fun ⟨known, free, apart, enough⟩ => ⟨known, free, apart, enough⟩,
      fun h => ⟨h.known, h.free, h.apart, h.enough⟩⟩

def Met (net : NetworkService) (taken : List (String × String)) (requests : List AddressRequest) :
    Prop :=
  ∃ assigned, Lookup.Succeeds {net.view} (assign taken requests) assigned

/-- A wish gets an address below this one as long as this one is free. -/
def goesBelow (a : Ipv4) (q : AddressRequest) : Bool :=
  match q.ip with
  | none => true
  | some ip => (Ipv4.parse? ip).any fun b => b.value < a.value

/-- No wish for an address comes too late: below the address that it names there are as many free
hosts as wishes before it that go there. -/
def InTurn (net : NetworkService) (taken : List (String × String))
    (requests : List AddressRequest) : Prop :=
  ∀ before q after, requests = before ++ q :: after → ∀ n ∈ net.subnets.get? q.subnet,
    ∀ a, q.ip = some a.text →
      (before.countP fun p => p.subnet == q.subnet && goesBelow a p) ≤
        (freeHosts taken n).countP fun b => b.value < a.value

theorem met_nil : Met net taken [] := ⟨[], succeeds_assign_nil_iff.mpr rfl⟩

theorem met_cons_iff :
    Met net taken (q :: rest) ↔
      ∃ n ∈ net.subnets.get? q.subnet, ∃ a, Gets taken n q.ip a ∧
        Met net ((n.id, a.text) :: taken) rest := by
  simp only [Met, succeeds_assign_cons_iff, Set.mem_singleton_iff, exists_eq_left,
    settle_eq_ok_iff_gets, NetworkService.view, NetworkService.subnet_eq_ok_iff, Option.mem_def]
  refine ⟨?_, ?_⟩
  · rintro ⟨_, n, _, assigned, found, ⟨a, gets, rfl⟩, others, -⟩
    exact ⟨n, found, a, gets, assigned, others⟩
  · rintro ⟨n, found, a, gets, assigned, others⟩
    exact ⟨_, n, _, assigned, found, ⟨a, gets, rfl⟩, others, rfl⟩

theorem not_met_of_taken (hq : q ∈ requests) (found : net.subnets.get? q.subnet = some n)
    (wanted : q.ip = some a.text) (held : (n.id, a.text) ∈ taken) : ¬Met net taken requests := by
  induction requests generalizing taken with
  | nil => cases hq
  | cons p rest ih =>
    rw [met_cons_iff]
    rintro ⟨m, there, b, gets, others⟩
    rcases List.mem_cons.mp hq with rfl | hq
    · have same : m = n := Option.some.inj (there.symm.trans found)
      have text := gets.named _ wanted
      have free := (mem_freeHosts_iff.mp gets.free).2
      rw [same, ← text] at free
      exact free held
    · exact ih hq (List.mem_cons_of_mem _ held) others

/-- Of some wishes that could be met, the first gets an address that no other one names. -/
structure Yields (net : NetworkService) (taken : List (String × String)) (q : AddressRequest)
    (rest : List AddressRequest) (n : Subnet) (a : Ipv4) : Prop where
  sat : Satisfiable net taken (q :: rest)
  found : net.subnets.get? q.subnet = some n
  gets : Gets taken n q.ip a
  unnamed : ∀ p ∈ rest, p.subnet = q.subnet → p.ip ≠ some a.text

theorem Satisfiable.exists_gets (sat : Satisfiable net taken (q :: rest))
    (found : net.subnets.get? q.subnet = some n) : ∃ a, Gets taken n q.ip a := by
  cases wanted : q.ip with
  | some ip =>
    obtain ⟨a, free, text⟩ := sat.free q List.mem_cons_self n found ip wanted
    exact ⟨a, gets_some_iff.mpr ⟨free, text⟩⟩
  | none =>
    have enough := sat.enough q List.mem_cons_self n found
    rw [List.countP_cons_of_pos (by simp [wanted])] at enough
    obtain ⟨a, free, -⟩ := List.countP_pos_iff.mp (Nat.lt_of_lt_of_le (Nat.succ_pos _) enough)
    exact exists_gets_none free

section Yields

variable {p : AddressRequest} {m : Subnet} (h : Yields net taken q rest n a)

include h

theorem Yields.freeHosts_eq (there : net.subnets.get? p.subnet = some m)
    (other : p.subnet ≠ q.subnet) :
    freeHosts ((n.id, a.text) :: taken) m = freeHosts taken m := by
  have id_n : n.id = q.subnet := Registry.key_of_get? h.found
  have id_m : m.id = p.subnet := Registry.key_of_get? there
  exact freeHosts_cons_of_ne (by rw [id_n, id_m]; exact other)

theorem Yields.goesBelow_eq (hp : p ∈ rest) (same : p.subnet = q.subnet)
    (wanted : p.ip = some b.text) : goesBelow b q = decide (a.value < b.value) := by
  rw [goesBelow]
  cases given : q.ip with
  | some ip =>
    have text := h.gets.named ip given
    simp [text, Ipv4.parse?_text]
  | none =>
    have found : net.subnets.get? p.subnet = some n := same ▸ h.found
    obtain ⟨c, free, text⟩ :=
      h.sat.free p (List.mem_cons_of_mem _ hp) n found b.text wanted
    have least := h.gets.least given c free
    rw [Ipv4.text_injective text]
    have other : a ≠ c := by
      rintro rfl
      exact h.unnamed p hp same (wanted.trans (congrArg some text))
    have values : a.value ≠ c.value := fun equal => other (Ipv4.ext equal)
    simp only [true_eq_decide_iff]
    omega

theorem Yields.countP_le_iff (hp : p ∈ rest) (there : net.subnets.get? p.subnet = some m)
    (wanted : p.ip = some b.text) (before : List AddressRequest) :
    ((q :: before).countP fun r => r.subnet == p.subnet && goesBelow b r) ≤
        ((freeHosts taken m).countP fun c => c.value < b.value) ↔
      (before.countP fun r => r.subnet == p.subnet && goesBelow b r) ≤
        (freeHosts ((n.id, a.text) :: taken) m).countP fun c => c.value < b.value := by
  by_cases same : p.subnet = q.subnet
  · have here : m = n := Option.some.inj (there.symm.trans (same ▸ h.found))
    rw [here, List.countP_cons, countP_freeHosts_cons _ h.gets.free, same, beq_self_eq_true,
      Bool.true_and, h.goesBelow_eq hp same wanted]
    exact Nat.add_le_add_iff_right
  · rw [h.freeHosts_eq there same, List.countP_cons_of_neg (by simp [Ne.symm same])]

theorem Yields.isNamed_self : isNamed (q :: rest) q.subnet a = (q.ip != none) := by
  have others : isNamed rest q.subnet a = false := by
    simp only [isNamed, List.any_eq_false, Bool.and_eq_true, beq_iff_eq]
    intro p hp ⟨same, wanted⟩
    exact h.unnamed p hp same wanted
  rw [isNamed] at others ⊢
  rw [List.any_cons, others, Bool.or_false, beq_self_eq_true, Bool.true_and]
  cases given : q.ip with
  | none => rfl
  | some ip =>
    rw [h.gets.named ip given]
    simp

theorem Yields.isNamed_of_ne {subnet : String} (apart : subnet ≠ q.subnet ∨ b ≠ a) :
    isNamed (q :: rest) subnet b = isNamed rest subnet b := by
  have first : (q.subnet == subnet && q.ip == some b.text) = false := by
    simp only [Bool.and_eq_false_imp, beq_iff_eq, beq_eq_false_iff_ne]
    rintro rfl wanted
    have text := h.gets.named b.text wanted
    exact apart.elim (fun other => other rfl) fun other => other (Ipv4.text_injective text)
  rw [isNamed, List.any_cons, first, Bool.false_or, isNamed]

theorem Yields.enough (hp : p ∈ rest) (there : net.subnets.get? p.subnet = some m) :
    (rest.countP fun r => r.subnet == p.subnet && r.ip == none) ≤
      (freeHosts ((n.id, a.text) :: taken) m).countP fun b => !isNamed rest p.subnet b := by
  have enough := h.sat.enough p (List.mem_cons_of_mem _ hp) m there
  by_cases same : p.subnet = q.subnet
  · have here : m = n := Option.some.inj (there.symm.trans (same ▸ h.found))
    have others : ((freeHosts ((n.id, a.text) :: taken) n).countP fun b =>
        !isNamed (q :: rest) q.subnet b) =
          (freeHosts ((n.id, a.text) :: taken) n).countP fun b => !isNamed rest q.subnet b := by
      apply List.countP_congr
      intro b hb
      have differ : b ≠ a := by
        rintro rfl
        exact (mem_freeHosts_iff.mp hb).2 List.mem_cons_self
      rw [h.isNamed_of_ne (Or.inr differ)]
    rw [here, same, List.countP_cons, countP_freeHosts_cons _ h.gets.free, others, h.isNamed_self,
      beq_self_eq_true, Bool.true_and] at enough
    rw [here, same]
    cases given : q.ip with
    | none => simpa [given] using enough
    | some ip => simpa [given] using enough
  · rw [h.freeHosts_eq there same]
    have others : ∀ b, isNamed (q :: rest) p.subnet b = isNamed rest p.subnet b :=
      fun b => h.isNamed_of_ne (Or.inl same)
    rw [List.countP_cons_of_neg (by simp [Ne.symm same])] at enough
    simpa only [others] using enough

theorem Yields.satisfiable : Satisfiable net ((n.id, a.text) :: taken) rest where
  known := fun p hp => h.sat.known p (List.mem_cons_of_mem _ hp)
  free := by
    intro p hp m there ip wanted
    obtain ⟨b, free, text⟩ := h.sat.free p (List.mem_cons_of_mem _ hp) m there ip wanted
    obtain ⟨host, untaken⟩ := mem_freeHosts_iff.mp free
    refine ⟨b, mem_freeHosts_iff.mpr ⟨host, ?_⟩, text⟩
    intro hm
    rcases List.mem_cons.mp hm with equal | hm
    · have same : p.subnet = q.subnet := by
        rw [← Registry.key_of_get? there, ← Registry.key_of_get? h.found]
        exact congrArg Prod.fst equal
      have texts : b.text = a.text := congrArg Prod.snd equal
      exact h.unnamed p hp same (wanted.trans (congrArg some (text.trans texts)))
    · exact untaken hm
  apart := h.sat.apart.of_cons
  enough := fun p hp m there => h.enough hp there

theorem Yields.inTurn_iff :
    InTurn net taken (q :: rest) ↔ InTurn net ((n.id, a.text) :: taken) rest := by
  refine ⟨?_, ?_⟩
  · intro turn before p after split m there b wanted
    have hp : p ∈ rest := split ▸ List.mem_append_right _ List.mem_cons_self
    refine (h.countP_le_iff hp there wanted before).mp ?_
    exact turn (q :: before) p after (congrArg (q :: ·) split) m there b wanted
  · intro turn before p after split m there b wanted
    rcases List.cons_eq_append_iff.mp split with ⟨rfl, -⟩ | ⟨since, rfl, others⟩
    · exact Nat.zero_le _
    · have hp : p ∈ rest := others ▸ List.mem_append_right _ List.mem_cons_self
      refine (h.countP_le_iff hp there wanted since).mpr ?_
      exact turn since p after others m there b wanted

end Yields

/-! ### All wishes -/

theorem Gets.met_cons_iff (gets : Gets taken n q.ip a)
    (found : net.subnets.get? q.subnet = some n) :
    Met net taken (q :: rest) ↔ Met net ((n.id, a.text) :: taken) rest := by
  rw [ResolverService.met_cons_iff]
  refine ⟨?_, fun others => ⟨n, found, a, gets, others⟩⟩
  rintro ⟨m, there, b, given, others⟩
  obtain rfl : m = n := Option.some.inj (there.symm.trans found)
  exact given.unique gets ▸ others

theorem not_inTurn_of_named (found : net.subnets.get? q.subnet = some n)
    (least : ∀ b ∈ freeHosts taken n, a.value ≤ b.value) (bare : q.ip = none)
    {p : AddressRequest} (hp : p ∈ rest) (same : p.subnet = q.subnet)
    (wanted : p.ip = some a.text) : ¬InTurn net taken (q :: rest) := by
  intro turn
  obtain ⟨before, after, rfl⟩ := List.append_of_mem hp
  have few := turn (q :: before) p after rfl n (same ▸ found) a wanted
  have none_below : ((freeHosts taken n).countP fun b => b.value < a.value) = 0 := by
    rw [List.countP_eq_zero]
    intro b hb below
    exact absurd (least b hb) (Nat.not_le.mpr (of_decide_eq_true below))
  rw [none_below, List.countP_cons_of_pos (by simp [same, goesBelow, bare])] at few
  exact Nat.not_succ_le_zero _ few

theorem Satisfiable.unnamed (sat : Satisfiable net taken (q :: rest)) (gets : Gets taken n q.ip a)
    (named : q.ip ≠ none) : ∀ p ∈ rest, p.subnet = q.subnet → p.ip ≠ some a.text := by
  intro p hp same wanted
  obtain ⟨ip, given⟩ := Option.ne_none_iff_exists'.mp named
  have apart := List.rel_of_pairwise_cons sat.apart hp same.symm named
  exact apart (by rw [given, gets.named ip given, wanted])

/-- Wishes that could all be met are met in their order exactly if each has its turn in time. -/
theorem Satisfiable.met_iff (sat : Satisfiable net taken requests) :
    Met net taken requests ↔ InTurn net taken requests := by
  induction requests generalizing taken with
  | nil =>
    refine ⟨?_, fun _ => met_nil⟩
    intro _ before q after split
    cases before <;> cases split
  | cons q rest ih =>
    obtain ⟨n, found⟩ := Option.isSome_iff_exists.mp (sat.known q List.mem_cons_self)
    obtain ⟨a, gets⟩ := sat.exists_gets found
    by_cases unnamed : ∀ p ∈ rest, p.subnet = q.subnet → p.ip ≠ some a.text
    · have yields : Yields net taken q rest n a := ⟨sat, found, gets, unnamed⟩
      rw [gets.met_cons_iff found, yields.inTurn_iff]
      exact ih yields.satisfiable
    · push Not at unnamed
      obtain ⟨p, hp, same, wanted⟩ := unnamed
      have bare : q.ip = none := by
        by_contra named
        exact sat.unnamed gets named p hp same wanted
      have lost := not_met_of_taken hp (same ▸ found) wanted (List.mem_cons_self (l := taken))
      rw [gets.met_cons_iff found]
      exact iff_of_false lost (not_inTurn_of_named found (gets.least bare) bare hp same wanted)

/-- In each subnet the wishes that name an address stand before those that do not. -/
def NamedFirst (requests : List AddressRequest) : Prop :=
  requests.Pairwise fun p q => p.subnet = q.subnet → p.ip = none → q.ip = none

instance : Decidable (NamedFirst requests) := inferInstanceAs (Decidable (List.Pairwise _ _))

theorem Satisfiable.met_of_namedFirst (sat : Satisfiable net taken requests)
    (first : NamedFirst requests) : Met net taken requests := by
  induction requests generalizing taken with
  | nil => exact met_nil
  | cons q rest ih =>
    obtain ⟨n, found⟩ := Option.isSome_iff_exists.mp (sat.known q List.mem_cons_self)
    obtain ⟨a, gets⟩ := sat.exists_gets found
    have unnamed : ∀ p ∈ rest, p.subnet = q.subnet → p.ip ≠ some a.text := by
      by_cases bare : q.ip = none
      · intro p hp same wanted
        have later := List.rel_of_pairwise_cons first hp same.symm bare
        exact Option.some_ne_none _ (wanted.symm.trans later)
      · exact sat.unnamed gets bare
    have yields : Yields net taken q rest n a := ⟨sat, found, gets, unnamed⟩
    rw [gets.met_cons_iff found]
    exact ih yields.satisfiable first.of_cons

def Unmixed (requests : List AddressRequest) : Prop :=
  ∀ p ∈ requests, ∀ q ∈ requests, p.subnet = q.subnet → p.ip = none → q.ip = none

theorem Unmixed.namedFirst {order : List AddressRequest} (h : Unmixed requests)
    (same : order.Perm requests) : NamedFirst order :=
  List.Pairwise.imp_of_mem (fun hp hq _ => h _ (same.subset hp) _ (same.subset hq))
    (List.pairwise_of_forall fun _ _ => trivial)

theorem Satisfiable.perm {order : List AddressRequest} (sat : Satisfiable net taken requests)
    (same : order.Perm requests) : Satisfiable net taken order where
  known := fun q hq => sat.known q (same.mem_iff.mp hq)
  free := fun q hq => sat.free q (same.mem_iff.mp hq)
  apart := by
    refine (same.pairwise_iff ?_).mpr sat.apart
    intro p q apart subnet named equal
    exact apart subnet.symm (equal ▸ named) equal.symm
  enough := by
    intro q hq n found
    have named : ∀ b, isNamed order q.subnet b = isNamed requests q.subnet b := fun b =>
      same.any_eq
    simp only [named, same.countP_eq]
    exact sat.enough q (same.mem_iff.mp hq) n found

theorem exists_namedFirst (requests : List AddressRequest) :
    ∃ order, order.Perm requests ∧ NamedFirst order := by
  refine ⟨requests.filter (·.ip.isSome) ++ requests.filter (!·.ip.isSome),
    List.filter_append_perm _ _, ?_⟩
  rw [NamedFirst, List.pairwise_append]
  refine ⟨?_, ?_, ?_⟩
  · rw [List.pairwise_filter]
    refine List.pairwise_of_forall fun p q named _ _ bare => ?_
    simp [bare] at named
  · rw [List.pairwise_filter]
    exact List.pairwise_of_forall fun _ _ _ bare _ _ => by simpa using bare
  · intro p hp q _ _ bare
    simp [bare] at hp

/-! ### Endpoints -/

/-- A request for an endpoint passes all checks but those of its addresses. -/
structure Admits (s : ResolverService) (net : NetworkService) (input : CreateEndpoint) : Prop where
  accepted : s.acceptEndpoint input = .ok ()
  room : s.endpoints.size < s.quotas.endpoints
  many : minAddresses ≤ input.addresses.length
  groups : Lookup.Succeeds {net.view} (acceptGroups input.groups) ()
  new : ∀ e ∈ s.endpoints.records, e.requestId ≠ input.requestId

def Creates (s : ResolverService) (net : NetworkService) (at_ : Moment) (input : CreateEndpoint) :
    Prop :=
  ∃ e s', Lookup.Succeeds {net.view} (s.createEndpoint at_ input) (e, s')

theorem Admits.creates_iff {input : CreateEndpoint} (h : Admits s net input) :
    Creates s net at_ input ↔ Met net s.heldAddresses input.addresses := by
  simp only [Creates, succeeds_createEndpoint_iff]
  refine ⟨?_, ?_⟩
  · rintro ⟨e, s', -, -, -, ⟨assigned, given, -⟩, -⟩
    exact ⟨assigned, given⟩
  · rintro ⟨assigned, given⟩
    exact ⟨_, _, h.accepted, h.room, h.many, ⟨assigned, given, rfl⟩, h.groups, h.new⟩

theorem Admits.perm {input : CreateEndpoint} {order : List AddressRequest}
    (h : Admits s net input) (same : order.Perm input.addresses) :
    Admits s net { input with addresses := order } where
  accepted := by
    obtain ⟨checked, tags⟩ := acceptEndpoint_eq_ok_iff.mp h.accepted
    have passed := runChecks_eq_ok_iff.mp checked
    have few := length_addresses_of_checks checked
    refine acceptEndpoint_eq_ok_iff.mpr ⟨runChecks_eq_ok_iff.mpr ?_, tags⟩
    simp only [ResolverConstraint.endpointChecks, List.forall_mem_append, List.forall_mem_cons,
      List.forall_mem_map] at passed ⊢
    obtain ⟨⟨⟨⟨id, direction, -, none⟩, name⟩, groups⟩, subnets⟩ := passed
    refine ⟨⟨⟨⟨id, direction, ?_, none⟩, name⟩, groups⟩, fun q hq => subnets q (same.subset hq)⟩
    rw [Check.ofJson, Rule.itemsAtMost, Rule.requires_eq_none_iff, decide_eq_true_eq]
    exact same.length_eq.trans_le few
  room := h.room
  many := same.length_eq.symm ▸ h.many
  groups := h.groups
  new := h.new

end ResolverService

end ControlPlane
