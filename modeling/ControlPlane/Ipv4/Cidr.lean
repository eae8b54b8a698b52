import ControlPlane.Ipv4.Address

/-!
CIDR blocks: an address and the length of the prefix that it shares with all addresses of the
block. The address may have bits beyond the prefix. A block is read as an address alone, which is a
block of one address, or with a slash and either the length of the prefix, in which one plus sign
and leading zeros are allowed, or a netmask.

A host address of a block is any of its addresses but the first four and the last.
-/

namespace ControlPlane

structure Cidr where
  address : Ipv4
  prefixLength : Nat
  le : prefixLength ≤ 32
  deriving Repr, DecidableEq

namespace Cidr

def size (c : Cidr) : Nat := 2 ^ (32 - c.prefixLength)

def network (c : Cidr) : Nat := c.address.value / c.size * c.size

def broadcast (c : Cidr) : Nat := c.network + c.size - 1

def contains (c : Cidr) (n : Nat) : Bool := c.network ≤ n && n ≤ c.broadcast

def text (c : Cidr) : String := c.address.text ++ "/" ++ toString c.prefixLength

def netmask (length : Nat) : Nat := 2 ^ 32 - 2 ^ (32 - length)

def prefixOfNetmask (mask : Ipv4) : Option Nat :=
  (List.range 33).find? fun length => netmask length == mask.value

/-- A netmask, if the text is an address at all, or else the length itself. -/
def readPrefix (cs : List Char) : Option Nat :=
  match Ipv4.parseChars cs with
  | some mask => prefixOfNetmask mask
  | none => Text.readBounded Text.greatestWord8 (String.ofList cs)

def ofParts (address : Option Ipv4) (prefixLength : Option Nat) : Option Cidr :=
  match address, prefixLength with
  | some a, some p => if h : p ≤ 32 then some ⟨a, p, h⟩ else none
  | _, _ => none

def parse? (s : String) : Option Cidr :=
  match Text.splitAt '/' s.toList with
  | [address] => ofParts (Ipv4.parseChars address) (some 32)
  | [address, length] => ofParts (Ipv4.parseChars address) (readPrefix length)
  | _ => none

theorem size_pos (c : Cidr) : 0 < c.size := Nat.pow_pos (by decide)

theorem size_le (c : Cidr) : c.size ≤ 2 ^ 32 := Nat.pow_le_pow_right (by decide) (by omega)

theorem network_add_size_le (c : Cidr) : c.network + c.size ≤ 2 ^ 32 := by
  have hd : c.size ∣ 2 ^ 32 := Nat.pow_dvd_pow 2 (by omega)
  obtain ⟨k, hk⟩ := hd
  have hlt : c.address.value / c.size < k := by
    rw [Nat.div_lt_iff_lt_mul c.size_pos, Nat.mul_comm, ← hk]
    exact c.address.lt
  have := Nat.mul_le_mul_right c.size hlt
  rw [Nat.mul_comm k, ← hk, Nat.succ_mul] at this
  exact this

theorem contains_iff {c : Cidr} {n : Nat} :
    c.contains n = true ↔ c.network ≤ n ∧ n < c.network + c.size := by
  have := c.size_pos
  simp only [contains, Bool.and_eq_true, decide_eq_true_eq]
  unfold broadcast
  omega

def isHost (c : Cidr) (a : Ipv4) : Bool :=
  c.contains a.value && (3 < a.value - c.network) && a.value != c.broadcast

def addresses (c : Cidr) : List Ipv4 :=
  (List.range c.size).map fun i => Ipv4.ofNat (c.network + i)

def hosts (c : Cidr) : List Ipv4 := c.addresses.filter c.isHost

def findFrom (p : Ipv4 → Bool) : Nat → Nat → Option Ipv4
  | _, 0 => none
  | start, count + 1 =>
    if p (Ipv4.ofNat start) then some (Ipv4.ofNat start) else findFrom p (start + 1) count

/-- The first host address of the block of which `p` holds, found without listing the block. -/
def findHost (c : Cidr) (p : Ipv4 → Bool) : Option Ipv4 :=
  findFrom (fun a => c.isHost a && p a) c.network c.size

theorem findFrom_eq (p : Ipv4 → Bool) (start count : Nat) :
    findFrom p start count =
      ((List.range count).map fun i => Ipv4.ofNat (start + i)).find? p := by
  induction count generalizing start with
  | zero => rfl
  | succ count ih =>
    rw [findFrom, List.range_succ_eq_map, List.map_cons, List.map_map, List.find?_cons, ih]
    have shift : ((fun i => Ipv4.ofNat (start + i)) ∘ Nat.succ) =
        fun i => Ipv4.ofNat (start + 1 + i) := by
      funext i
      simp only [Function.comp_apply]
      congr 1
      omega
    rw [shift]
    simp only [Nat.add_zero]
    cases p (Ipv4.ofNat start) <;> rfl

theorem findHost_eq (c : Cidr) (p : Ipv4 → Bool) : c.findHost p = c.hosts.find? p := by
  rw [findHost, findFrom_eq, hosts, addresses, List.find?_filter]
  congr 1
  funext a
  simp

end Cidr

end ControlPlane
