import ControlPlane.Json.Record
import ControlPlane.Proofs.Success

/-!
Where a record reads one of its members from: the member of that name in an object, and in a list of
values the one that stands where the member was declared. A record that reads a text there reads
any other text there just as well, and all else as before.
-/

namespace ControlPlane

namespace Json

def replacedMembers (name : String) (value : Json) (members : List (String × Json)) :
    List (String × Json) :=
  members.map fun m => if m.1 = name then (m.1, value) else m

/-- A bag with another value in the place of a member that is declared at a position. -/
def replaced (name : String) (position : Nat) (value : Json) : Json → Json
  | .obj members => .obj (replacedMembers name value members)
  | .arr items => .arr (items.set position value)
  | j => j

def placed? (name : String) (position : Nat) : Json → Option Json
  | .obj members => member? name members
  | .arr items => items[position]?
  | _ => none

variable {name key : String} {value : Json} {members : List (String × Json)}

theorem member?_replacedMembers :
    member? key (replacedMembers name value members) =
      if key = name then (member? key members).map fun _ => value else member? key members := by
  have same : ((fun m : String × Json => m.1 == key) ∘
      fun m => if m.1 = name then (m.1, value) else m) = fun m => m.1 == key := by
    funext m
    simp only [Function.comp_apply]
    split
    · rfl
    · rfl
  simp only [member?, Entries.get?, replacedMembers, List.find?_map, same]
  cases found : members.find? (·.1 == key) with
  | none => simp
  | some m =>
    have named : m.1 = key := by simpa using List.find?_some found
    by_cases here : key = name <;> simp [named, here]

end Json

/-! ### Members -/

namespace Member

variable {β : Type}

/-- What a member reads from its place, which may be empty. -/
def Reads (m : Member β) (b : β) : Option Json → Prop
  | some j => m.read j = .ok b
  | none => m.absent = some b

theorem Reads.eq_str {key u : String} {o : Option Json} (h : (Member.required key .text).Reads u o) :
    o = some (.str u) := by
  cases o with
  | none => cases h
  | some j =>
    cases j with
    | str w =>
      cases h
      rfl
    | _ => cases h

end Member

namespace Record

variable {σ α β : Type} {r : Record σ (β → α)} {m : Member β} {get : σ → β}

theorem ofMembers_member_eq_ok_iff {members : List (String × Json)} {a : α} :
    (r.member m get).ofMembers members = .ok a ↔
      ∃ f b, r.ofMembers members = .ok f ∧ m.Reads b (Json.member? m.name members) ∧ f b = a := by
  simp only [member]
  cases r.ofMembers members with
  | error e => simp
  | ok f =>
    cases Json.member? m.name members with
    | some j => simp [Member.Reads, map_eq_ok_iff]
    | none => cases absent : m.absent <;> simp [Member.Reads, absent]

theorem ofItems_member_eq_ok_iff {items left : List Json} {a : α} :
    (r.member m get).ofItems items = .ok (a, left) ↔
      ∃ f b rest, r.ofItems items = .ok (f, rest) ∧ m.Reads b rest.head? ∧ f b = a ∧
        rest.tail = left := by
  simp only [member]
  cases r.ofItems items with
  | error e => simp
  | ok result =>
    obtain ⟨f, rest⟩ := result
    cases rest with
    | cons j rest => simp [Member.Reads, map_eq_ok_iff]
    | nil => cases absent : m.absent <;> simp [Member.Reads, absent]

theorem checkMembers_cons_eq_ok_iff {r : Record σ α} {seen : List String} {key : String} {j : Json}
    {rest : List (String × Json)} :
    r.checkMembers seen ((key, j) :: rest) = .ok () ↔
      (key ∈ r.names → key ∉ seen ∧ r.check key j = .ok ()) ∧
        r.checkMembers (if key ∈ r.names then key :: seen else seen) rest = .ok () := by
  rw [checkMembers]
  by_cases known : key ∈ r.names
  · by_cases again : key ∈ seen
    · simp [known, again]
    · cases checked : r.check key j with
      | error e => simp [known, again]
      | ok u => simp [known, again]
  · simp [known]

theorem decode_obj_eq_ok_iff {r : Record σ α} {members : List (String × Json)} {a : α} :
    r.decode (.obj members) = .ok a ↔
      r.checkMembers [] members = .ok () ∧ r.ofMembers members = .ok a := by
  rw [decode]
  cases r.checkMembers [] members <;> simp

theorem decode_arr_eq_ok_iff {r : Record σ α} {items : List Json} {a : α} :
    r.decode (.arr items) = .ok a ↔ r.ofItems items = .ok (a, []) := by
  rw [decode]
  cases r.ofItems items with
  | error e => simp
  | ok result =>
    obtain ⟨b, _ | ⟨j, rest⟩⟩ := result
    · simp
    · simp

/-- What the record has read so far has the property, and comes from other places than that of the
name and the position. -/
structure Before (name : String) (position : Nat) (p : α → Prop) (r : Record σ α) : Prop where
  members : ∀ members a, r.ofMembers members = .ok a →
    p a ∧ ∀ value, r.ofMembers (Json.replacedMembers name value members) = .ok a
  items : ∀ items a left, r.ofItems items = .ok (a, left) →
    p a ∧ left = items.drop position ∧ ∀ value later, position ≤ later →
      r.ofItems (items.set later value) = .ok (a, (items.set later value).drop position)

variable {name : String} {position : Nat}

theorem Before.start {a : α} {p : α → Prop} (h : p a) :
    Before name 0 p (Record.start a : Record σ α) where
  members := by
    intro members b made
    cases made
    exact ⟨h, fun _ => rfl⟩
  items := by
    intro items b left made
    cases made
    exact ⟨h, rfl, fun _ _ _ => rfl⟩

theorem Before.member {p : α → Prop} (h : Before name position (fun f => ∀ b, p (f b)) r)
    (other : m.name ≠ name) (get : σ → β) : Before name (position + 1) p (r.member m get) where
  members := by
    intro members a made
    obtain ⟨f, b, first, reads, rfl⟩ := ofMembers_member_eq_ok_iff.mp made
    obtain ⟨holds, again⟩ := h.members members f first
    refine ⟨holds b, fun value => ofMembers_member_eq_ok_iff.mpr ⟨f, b, again value, ?_, rfl⟩⟩
    rw [Json.member?_replacedMembers, if_neg other]
    exact reads
  items := by
    intro items a left made
    obtain ⟨f, b, rest, first, reads, rfl, rfl⟩ := ofItems_member_eq_ok_iff.mp made
    obtain ⟨holds, rfl, again⟩ := h.items items f rest first
    refine ⟨holds b, List.tail_drop, fun value later beyond => ?_⟩
    have apart : later ≠ position := Nat.ne_of_gt beyond
    refine ofItems_member_eq_ok_iff.mpr
      ⟨f, b, _, again value later (Nat.le_of_succ_le beyond), ?_, rfl, List.tail_drop⟩
    rw [List.head?_drop, List.getElem?_set_ne apart, ← List.head?_drop]
    exact reads

/-- The record has read the place: `q` tells what it has made of a text that stands there, or of
anything else. -/
structure Finds (name : String) (position : Nat) (q : Option String → α → Prop)
    (r : Record σ α) : Prop where
  check : ∀ u, r.check name (.str u) = .ok ()
  members : ∀ members a, r.ofMembers members = .ok a → q none a ∨
    ∃ w, Json.member? name members = some (.str w) ∧ q (some w) a ∧
      ∀ u, ∃ b, r.ofMembers (Json.replacedMembers name (.str u) members) = .ok b ∧ q (some u) b
  items : ∀ items a left, r.ofItems items = .ok (a, left) → q none a ∨
    ∃ w, items[position]? = some (.str w) ∧ q (some w) a ∧
      ∀ u, ∃ b, r.ofItems (items.set position (.str u)) = .ok (b, left) ∧ q (some u) b

structure Tells (m : Member β) (value : String → β) (p : (β → α) → Prop)
    (q : Option String → α → Prop) : Prop where
  read : ∀ u, m.read (.str u) = .ok (value u)
  text : ∀ f, p f → ∀ w, q (some w) (f (value w))
  other : ∀ f, p f → ∀ b o, m.Reads b o → (∀ w, o ≠ some (.str w)) → q none (f b)

theorem tells_required {key : String} {q : Option String → α → Prop} :
    Tells (.required key .text) id (fun f => ∀ w, q (some w) (f w)) q where
  read := fun _ => rfl
  text := fun _ holds w => holds w
  other := by
    intro f _ b o reads none
    cases o with
    | none => cases reads
    | some j =>
      cases j with
      | str w => exact absurd rfl (none w)
      | _ => cases reads

theorem tells_optional {key : String} {q : Option String → α → Prop} :
    Tells (.optional key .text) some (fun f => ∀ o, q o (f o)) q where
  read := fun _ => rfl
  text := fun _ holds w => holds (some w)
  other := by
    intro f holds b o reads none
    cases o with
    | none =>
      cases reads
      exact holds _
    | some j =>
      cases j with
      | str w => exact absurd rfl (none w)
      | null =>
        cases reads
        exact holds _
      | _ => cases reads

theorem Before.finds {p : (β → α) → Prop} {q : Option String → α → Prop} {value : String → β}
    (h : Before m.name position p r) (tells : Tells m value p q) (get : σ → β) :
    Finds m.name position q (r.member m get) where
  check := by
    intro u
    simp only [Record.member, if_true, tells.read]
    rfl
  members := by
    intro members a made
    obtain ⟨f, b, first, reads, rfl⟩ := ofMembers_member_eq_ok_iff.mp made
    obtain ⟨holds, again⟩ := h.members members f first
    by_cases text : ∃ w, Json.member? m.name members = some (.str w)
    · obtain ⟨w, stands⟩ := text
      rw [stands] at reads
      cases (tells.read w).symm.trans reads
      refine Or.inr ⟨w, stands, tells.text f holds w, fun u => ?_⟩
      refine ⟨f (value u), ?_, tells.text f holds u⟩
      refine ofMembers_member_eq_ok_iff.mpr ⟨f, value u, again _, ?_, rfl⟩
      rw [Json.member?_replacedMembers, if_pos rfl, stands]
      exact tells.read u
    · exact Or.inl (tells.other f holds b _ reads (not_exists.mp text))
  items := by
    intro items a left made
    obtain ⟨f, b, rest, first, reads, rfl, rfl⟩ := ofItems_member_eq_ok_iff.mp made
    obtain ⟨holds, rfl, again⟩ := h.items items f rest first
    rw [List.head?_drop] at reads
    by_cases text : ∃ w, items[position]? = some (.str w)
    · obtain ⟨w, stands⟩ := text
      rw [stands] at reads
      cases (tells.read w).symm.trans reads
      refine Or.inr ⟨w, stands, tells.text f holds w, fun u => ?_⟩
      refine ⟨f (value u), ?_, tells.text f holds u⟩
      refine ofItems_member_eq_ok_iff.mpr
        ⟨f, value u, _, again _ position (Nat.le_refl _), ?_, rfl, ?_⟩
      · have inside := (List.getElem?_eq_some_iff.mp stands).1
        rw [List.head?_drop, List.getElem?_set_self inside]
        exact tells.read u
      · rw [List.tail_drop, List.tail_drop, List.drop_set_of_lt (Nat.lt_succ_self _)]
    · exact Or.inl (tells.other f holds b _ reads (not_exists.mp text))

theorem Finds.member {q : Option String → α → Prop}
    (h : Finds name position (fun o f => ∀ b, q o (f b)) r) (other : m.name ≠ name) (get : σ → β) :
    Finds name position q (r.member m get) where
  check := by
    intro u
    simp only [Record.member, if_neg (Ne.symm other), h.check u]
  members := by
    intro members a made
    obtain ⟨f, b, first, reads, rfl⟩ := ofMembers_member_eq_ok_iff.mp made
    rcases h.members members f first with none | ⟨w, stands, holds, again⟩
    · exact Or.inl (none b)
    · refine Or.inr ⟨w, stands, holds b, fun u => ?_⟩
      obtain ⟨g, first', holds'⟩ := again u
      refine ⟨g b, ofMembers_member_eq_ok_iff.mpr ⟨g, b, first', ?_, rfl⟩, holds' b⟩
      rw [Json.member?_replacedMembers, if_neg other]
      exact reads
  items := by
    intro items a left made
    obtain ⟨f, b, rest, first, reads, rfl, rfl⟩ := ofItems_member_eq_ok_iff.mp made
    rcases h.items items f rest first with none | ⟨w, stands, holds, again⟩
    · exact Or.inl (none b)
    · refine Or.inr ⟨w, stands, holds b, fun u => ?_⟩
      obtain ⟨g, first', holds'⟩ := again u
      exact ⟨g b, ofItems_member_eq_ok_iff.mpr ⟨g, b, rest, first', reads, rfl, rfl⟩, holds' b⟩

/-! ### Bags -/

theorem Finds.checkMembers {q : Option String → α → Prop} {r : Record σ α}
    (h : Finds name position q r) (u : String) {seen : List String}
    {members : List (String × Json)} (checked : r.checkMembers seen members = .ok ()) :
    r.checkMembers seen (Json.replacedMembers name (.str u) members) = .ok () := by
  induction members generalizing seen with
  | nil => rfl
  | cons first rest ih =>
    obtain ⟨key, j⟩ := first
    obtain ⟨good, others⟩ := checkMembers_cons_eq_ok_iff.mp checked
    rw [Json.replacedMembers, List.map_cons, ← Json.replacedMembers]
    by_cases here : key = name
    · rw [if_pos here]
      exact checkMembers_cons_eq_ok_iff.mpr
        ⟨fun known => ⟨(good known).1, here ▸ h.check u⟩, ih others⟩
    · rw [if_neg here]
      exact checkMembers_cons_eq_ok_iff.mpr ⟨good, ih others⟩

theorem Finds.decodeBag {q : Option String → α → Prop} {r : Record α α}
    (h : Finds name position q r) {bag : Json} {a : α} (read : r.codec.decodeBag bag = .ok a) :
    q none a ∨ ∃ w, bag.placed? name position = some (.str w) ∧ q (some w) a ∧
      ∀ u, ∃ b, r.codec.decodeBag (Json.replaced name position (.str u) bag) = .ok b ∧
        q (some u) b := by
  cases bag with
  | null =>
    have empty : r.decode (.obj []) = .ok a := read
    obtain ⟨-, made⟩ := decode_obj_eq_ok_iff.mp empty
    rcases h.members [] a made with none | ⟨w, stands, -⟩
    · exact Or.inl none
    · cases stands
  | obj members =>
    obtain ⟨checked, made⟩ := decode_obj_eq_ok_iff.mp read
    rcases h.members members a made with none | ⟨w, stands, holds, again⟩
    · exact Or.inl none
    · refine Or.inr ⟨w, stands, holds, fun u => ?_⟩
      obtain ⟨b, made', holds'⟩ := again u
      exact ⟨b, decode_obj_eq_ok_iff.mpr ⟨h.checkMembers u checked, made'⟩, holds'⟩
  | arr items =>
    rcases h.items items a [] (decode_arr_eq_ok_iff.mp read) with none | ⟨w, stands, holds, again⟩
    · exact Or.inl none
    · refine Or.inr ⟨w, stands, holds, fun u => ?_⟩
      obtain ⟨b, made', holds'⟩ := again u
      exact ⟨b, decode_arr_eq_ok_iff.mpr made', holds'⟩
  | bool b => cases read
  | int n => cases read
  | float x => cases read
  | str t => cases read

/-- What the record has made of its first `n` members has the property with regard to the places
that these were read from. -/
structure Made (n : Nat) (p : (String → Nat → Option Json) → α → Prop) (r : Record σ α) : Prop where
  members : ∀ members a, r.ofMembers members = .ok a →
    p (fun name _ => Json.member? name members) a
  items : ∀ items a left, r.ofItems items = .ok (a, left) →
    left = items.drop n ∧ p (fun _ position => items[position]?) a

theorem Made.start {a : α} {p : (String → Nat → Option Json) → α → Prop} (h : ∀ place, p place a) :
    Made 0 p (Record.start a : Record σ α) where
  members := by
    intro members b made
    cases made
    exact h _
  items := by
    intro items b left made
    cases made
    exact ⟨rfl, h _⟩

theorem Made.member {n : Nat} {p : (String → Nat → Option Json) → α → Prop}
    (h : Made n (fun place f => ∀ b, m.Reads b (place m.name n) → p place (f b)) r) :
    Made (n + 1) p (r.member m get) where
  members := by
    intro members a made
    obtain ⟨f, b, first, reads, rfl⟩ := ofMembers_member_eq_ok_iff.mp made
    exact h.members members f first b reads
  items := by
    intro items a left made
    obtain ⟨f, b, rest, first, reads, rfl, rfl⟩ := ofItems_member_eq_ok_iff.mp made
    obtain ⟨rfl, holds⟩ := h.items items f rest first
    rw [List.head?_drop] at reads
    exact ⟨List.tail_drop, holds b reads⟩

theorem Made.decodeBag {n : Nat} {p : (String → Nat → Option Json) → α → Prop} {r : Record α α}
    (h : Made n p r) {bag : Json} {a : α} (read : r.codec.decodeBag bag = .ok a) :
    p (fun name position => bag.placed? name position) a := by
  cases bag with
  | null =>
    have empty : r.decode (.obj []) = .ok a := read
    exact h.members [] a (decode_obj_eq_ok_iff.mp empty).2
  | obj members => exact h.members members a (decode_obj_eq_ok_iff.mp read).2
  | arr items => exact (h.items items a [] (decode_arr_eq_ok_iff.mp read)).2
  | bool b => cases read
  | int n => cases read
  | float x => cases read
  | str t => cases read

/-! ### Another text -/

/-- With another text in the place the record reads or refuses what it did, and `swap` tells what has
become of what it read. -/
structure Swaps (name : String) (position : Nat) (swap : String → α → α) (r : Record σ α) :
    Prop where
  check : ∀ u, r.check name (.str u) = .ok ()
  members : ∀ members w u, Json.member? name members = some (.str w) →
    r.ofMembers (Json.replacedMembers name (.str u) members) = (r.ofMembers members).map (swap u)
  items : ∀ items w u, items[position]? = some (.str w) →
    r.ofItems (items.set position (.str u)) =
      (r.ofItems items).map fun read => (swap u read.1, read.2)

theorem Swaps.first {a : String → α} {swap : String → α → α} (h : ∀ w u, swap u (a w) = a u)
    (name : String) (get : σ → String) :
    Swaps name 0 swap ((Record.start a).required name .text get) where
  check := by
    intro u
    simp only [Record.required, Record.member, Member.required, if_true]
    rfl
  members := by
    intro members w u stands
    simp only [Record.required, Record.member, Member.required, Record.start,
      Json.member?_replacedMembers, stands, if_true, Option.map_some]
    exact congrArg Except.ok (h w u).symm
  items := by
    intro items w u stands
    obtain ⟨rest, rfl⟩ : ∃ rest, items = .str w :: rest := by
      cases items with
      | nil => cases stands
      | cons j rest => exact ⟨rest, congrArg (· :: rest) (Option.some.inj stands)⟩
    exact congrArg (fun b => Except.ok (b, rest)) (h w u).symm

theorem Swaps.member {swap : String → α → α}
    (h : Swaps name position (fun u f b => swap u (f b)) r) (other : m.name ≠ name) (get : σ → β) :
    Swaps name position swap (r.member m get) where
  check := by
    intro u
    simp only [Record.member, if_neg (Ne.symm other), h.check u]
  members := by
    intro members w u stands
    simp only [Record.member, h.members members w u stands, Json.member?_replacedMembers,
      if_neg other]
    cases r.ofMembers members with
    | error e => rfl
    | ok f =>
      cases Json.member? m.name members with
      | some j => cases read : m.read j <;> simp [Except.map, read]
      | none => cases m.absent <;> simp [Except.map]
  items := by
    intro items w u stands
    simp only [Record.member, h.items items w u stands]
    cases r.ofItems items with
    | error e => rfl
    | ok read =>
      obtain ⟨f, _ | ⟨j, rest⟩⟩ := read
      · cases m.absent <;> simp [Except.map]
      · cases read : m.read j <;> simp [Except.map, read]

theorem Swaps.checkMembers {swap : String → α → α} {r : Record σ α}
    (h : Swaps name position swap r) {w : String} (u : String) {seen : List String}
    {members : List (String × Json)}
    (stands : name ∈ r.names → name ∈ seen ∨ Json.member? name members = some (.str w)) :
    r.checkMembers seen (Json.replacedMembers name (.str u) members) =
      r.checkMembers seen members := by
  induction members generalizing seen with
  | nil => rfl
  | cons first rest ih =>
    obtain ⟨key, j⟩ := first
    rw [Json.replacedMembers, List.map_cons, ← Json.replacedMembers]
    by_cases here : key = name
    · subst here
      rw [if_pos rfl, Record.checkMembers, Record.checkMembers]
      by_cases known : key ∈ r.names
      · by_cases again : key ∈ seen
        · simp only [known, again, if_true]
        · have text : j = .str w := by simpa [Json.member?, Entries.get?, again] using stands known
          rw [text, h.check u, h.check w, ih fun _ => Or.inl List.mem_cons_self]
          simp only [known, again, if_true, if_false]
      · rw [if_neg known, if_neg known, ih fun k => absurd k known]
    · have later : name ∈ r.names → name ∈ seen ∨ Json.member? name rest = some (.str w) := by
        simpa [Json.member?, Entries.get?, here] using stands
      rw [if_neg here, Record.checkMembers, Record.checkMembers, ih later,
        ih fun known => (later known).imp_left (List.mem_cons_of_mem key)]

theorem Swaps.decodeBag {swap : String → α → α} {r : Record α α} (h : Swaps name position swap r)
    {bag : Json} {w : String} (stands : bag.placed? name position = some (.str w)) (u : String) :
    r.codec.decodeBag (Json.replaced name position (.str u) bag) =
      (r.codec.decodeBag bag).map (swap u) := by
  cases bag with
  | obj members =>
    have checked : r.checkMembers [] (Json.replacedMembers name (.str u) members) =
        r.checkMembers [] members := h.checkMembers u fun _ => Or.inr stands
    have read : r.decode (.obj (Json.replacedMembers name (.str u) members)) =
        (r.decode (.obj members)).map (swap u) := by
      rw [Record.decode, Record.decode, checked, h.members members w u stands]
      cases r.checkMembers [] members <;> rfl
    exact read
  | arr items =>
    have read : r.decode (.arr (items.set position (.str u))) =
        (r.decode (.arr items)).map (swap u) := by
      rw [Record.decode, Record.decode, h.items items w u stands]
      cases r.ofItems items with
      | error e => rfl
      | ok made =>
        obtain ⟨a, _ | ⟨j, rest⟩⟩ := made
        · rfl
        · rfl
    exact read
  | null => cases stands
  | bool b => cases stands
  | int n => cases stands
  | float x => cases stands
  | str t => cases stands

end Record

end ControlPlane
