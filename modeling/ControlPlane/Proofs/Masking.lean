import ControlPlane.RequestLog

/-!
What masking hides and what it keeps. A place in a value is reached step by step, from a list to one
of its items and from an object to one of its members; what shows at a place is the value there
without what is in it. Main statement: the masked form of a value is the one value that shows the
same at every place to which no secret name leads, and holds the mask wherever such a place has a
secret member. So two values are masked alike exactly if they differ in nothing but secrets.
-/

namespace ControlPlane

namespace Entries

variable {α β : Type} (f : String → α → β)

theorem insert_map (k : String) (v : α) (m : List (String × α)) :
    insert k (f k v) (m.map fun e => (e.1, f e.1 e.2)) =
      (insert k v m).map fun e => (e.1, f e.1 e.2) := by
  induction m with
  | nil => rfl
  | cons head rest ih =>
    rw [List.map_cons, insert, insert, ih]
    split
    · rfl
    · split
      · rfl
      · rfl

theorem ofList_map (kvs : List (String × α)) :
    ofList (kvs.map fun e => (e.1, f e.1 e.2)) = (ofList kvs).map fun e => (e.1, f e.1 e.2) := by
  have fold : ∀ m : List (String × α),
      (kvs.map fun e => (e.1, f e.1 e.2)).foldl (fun m kv => insert kv.1 kv.2 m)
          (m.map fun e => (e.1, f e.1 e.2)) =
        (kvs.foldl (fun m kv => insert kv.1 kv.2 m) m).map fun e => (e.1, f e.1 e.2) := by
    induction kvs with
    | nil => exact fun _ => rfl
    | cons kv rest ih =>
      intro m
      rw [List.map_cons, List.foldl_cons, List.foldl_cons, insert_map, ih]
  exact fold []

end Entries

namespace Json

/-- From a list to an item, or from an object to a member, told by its position and its name. -/
inductive Step where
  | item (n : Nat)
  | member (n : Nat) (name : String)

def child? : Step → Json → Option Json
  | .item n, .arr items => items[n]?
  | .member n name, .obj members => (members[n]?.filter (·.1 == name)).map (·.2)
  | _, _ => none

def reach? : List Step → Json → Option Json
  | [], j => some j
  | s :: place, j => (j.child? s).bind (reach? place)

/-- A value without what is in it: a leaf as it is, a list by its length, an object by its names. -/
def outline : Json → Json
  | .arr items => .arr (items.map fun _ => .null)
  | .obj members => .obj (members.map fun m => (m.1, .null))
  | j => j

def shownAt (j : Json) (place : List Step) : Option Json := (j.reach? place).map outline

theorem reach?_singleton (j : Json) (s : Step) : j.reach? [s] = j.child? s := by
  rw [reach?]
  cases j.child? s with
  | none => rfl
  | some c => rfl

theorem reach?_concat (j : Json) (place : List Step) (s : Step) :
    j.reach? (place ++ [s]) = (j.reach? place).bind (child? s) := by
  induction place generalizing j with
  | nil => exact j.reach?_singleton s
  | cons t place ih =>
    rw [List.cons_append, reach?, reach?, Option.bind_assoc]
    exact Option.bind_congr fun c _ => ih c

theorem child?_map_members (f : String → Json → Json) (members : List (String × Json)) (n : Nat)
    (name : String) :
    (Json.obj (members.map fun m => (m.1, f m.1 m.2))).child? (.member n name) =
      ((Json.obj members).child? (.member n name)).map (f name) := by
  rw [child?, child?, List.getElem?_map]
  cases members[n]? with
  | none => rfl
  | some m => by_cases same : m.1 = name <;> simp [Option.filter, same]

theorem child?_outline (j : Json) (s : Step) :
    j.outline.child? s = (j.child? s).map fun _ => .null := by
  cases j with
  | arr items =>
    cases s with
    | item n => rw [outline, child?, child?, List.getElem?_map]
    | member n name => rfl
  | obj members =>
    cases s with
    | item n => rfl
    | member n name => exact child?_map_members (fun _ _ => .null) members n name
  | _ => cases s <;> rfl

theorem map_reach?_concat (j x : Json) (place : List Step) (s : Step) :
    ((j.reach? (place ++ [s])).map fun _ => x) =
      ((j.shownAt place).bind (child? s)).map fun _ => x := by
  rw [reach?_concat, shownAt, Option.bind_map]
  cases j.reach? place with
  | none => rfl
  | some c =>
    rw [Option.bind_some, Option.bind_some, Function.comp_apply, child?_outline, Option.map_map]
    rfl

theorem child?_member_iff {members : List (String × Json)} {n : Nat} {name : String} {c : Json} :
    (Json.obj members).child? (.member n name) = some c ↔ members[n]? = some (name, c) := by
  rw [child?]
  cases members[n]? with
  | none => simp
  | some m =>
    obtain ⟨known, j⟩ := m
    by_cases same : known = name <;> simp [Option.filter, same]

theorem eq_of_outline_eq {p q : Json} (same : p.outline = q.outline)
    (within : ∀ s, p.child? s = q.child? s) : p = q := by
  cases p with
  | arr items =>
    cases q with
    | arr others =>
      congr 1
      exact List.ext_getElem? fun n => within (.item n)
    | _ => cases same
  | obj members =>
    cases q with
    | obj others =>
      congr 1
      refine List.ext_getElem? fun n => Option.ext fun m => ?_
      rw [← child?_member_iff, ← child?_member_iff, within]
    | _ => cases same
  | _ =>
    cases q <;> cases same
    rfl

theorem sizeOf_lt_of_child? {j c : Json} {s : Step} (h : j.child? s = some c) :
    sizeOf c < sizeOf j := by
  cases j with
  | arr items =>
    cases s with
    | item n =>
      have smaller := List.sizeOf_lt_of_mem (List.mem_of_getElem? h)
      simp only [arr.sizeOf_spec]
      omega
    | member n name => cases h
  | obj members =>
    cases s with
    | item n => cases h
    | member n name =>
      have smaller := List.sizeOf_lt_of_mem (List.mem_of_getElem? (child?_member_iff.mp h))
      simp only [Prod.mk.sizeOf_spec] at smaller
      simp only [obj.sizeOf_spec]
      omega
  | _ => cases s <;> cases h

/-- What passes from all that is in a value to the value itself holds of every value. -/
theorem child_induction {motive : Json → Prop}
    (step : ∀ j, (∀ s c, j.child? s = some c → motive c) → motive j) (j : Json) : motive j := by
  induction size : sizeOf j using Nat.strongRecOn generalizing j with
  | ind n ih =>
    subst size
    exact step j fun s c h => ih (sizeOf c) (sizeOf_lt_of_child? h) c rfl

end Json

namespace RequestLog

open Json

theorem isSecretName_iff {name : String} :
    isSecretName name = true ↔
      Text.foldCase name = "password".toList ∨ "Password".toList <:+ name.toList := by
  have lower : Text.foldCase "password" = "password".toList := by decide
  rw [isSecretName, Bool.or_eq_true, Text.equalsIgnoringCase_iff, Text.endsWith_iff, lower]

/-- A step to a member that is called `password` in any case, or something that ends in
`Password`. -/
def IsSecret : Step → Prop
  | .item _ => False
  | .member _ name =>
    Text.foldCase name = "password".toList ∨ "Password".toList <:+ name.toList

/-- No secret name leads to the place. -/
def IsOpen (place : List Step) : Prop := ∀ s ∈ place, ¬IsSecret s

theorem isOpen_nil : IsOpen [] := fun _ h => absurd h List.not_mem_nil

theorem isOpen_cons_iff {s : Step} {place : List Step} :
    IsOpen (s :: place) ↔ ¬IsSecret s ∧ IsOpen place :=
  List.forall_mem_cons

/-- The second value is the first one with the mask for every secret value at an open place, and
with nothing else changed there. -/
structure Veiled (p r : Json) : Prop where
  shown : ∀ place, IsOpen place → r.shownAt place = p.shownAt place
  hidden : ∀ place s, IsOpen place → IsSecret s →
    r.reach? (place ++ [s]) = (p.reach? (place ++ [s])).map fun _ => mask

theorem outline_masked (p : Json) : (masked p).outline = p.outline := by
  cases p with
  | arr items =>
    rw [masked, maskedItems_eq_map, outline, outline, List.map_map]
    rfl
  | obj members =>
    rw [masked, maskedMembers_eq_map, outline, outline, List.map_map]
    rfl
  | _ => rfl

theorem child?_masked_member (members : List (String × Json)) (n : Nat) (name : String) :
    (masked (.obj members)).child? (.member n name) =
      ((Json.obj members).child? (.member n name)).map fun j =>
        if isSecretName name then mask else masked j := by
  rw [masked, maskedMembers_eq_map]
  exact child?_map_members (fun name j => if isSecretName name then mask else masked j) members n
    name

theorem child?_masked_of_secret {s : Step} (secret : IsSecret s) (p : Json) :
    (masked p).child? s = (p.child? s).map fun _ => mask := by
  cases s with
  | item n => exact secret.elim
  | member n name =>
    cases p with
    | obj members =>
      have hidden := isSecretName_iff.mpr secret
      simp only [child?_masked_member, if_pos hidden]
    | _ => rfl

theorem child?_masked_of_open {s : Step} (free : ¬IsSecret s) (p : Json) :
    (masked p).child? s = (p.child? s).map masked := by
  cases s with
  | item n =>
    cases p with
    | arr items => rw [masked, maskedItems_eq_map, child?, child?, List.getElem?_map]
    | _ => rfl
  | member n name =>
    cases p with
    | obj members =>
      have kept := mt isSecretName_iff.mp free
      simp only [child?_masked_member, if_neg kept]
    | _ => rfl

theorem reach?_masked {place : List Step} (free : IsOpen place) (p : Json) :
    (masked p).reach? place = (p.reach? place).map masked := by
  induction place generalizing p with
  | nil => rfl
  | cons s place ih =>
    obtain ⟨first, rest⟩ := isOpen_cons_iff.mp free
    rw [reach?, reach?, child?_masked_of_open first, Option.bind_map, Option.map_bind]
    exact Option.bind_congr fun c _ => ih rest c

theorem shownAt_masked {place : List Step} (free : IsOpen place) (p : Json) :
    (masked p).shownAt place = p.shownAt place := by
  rw [shownAt, shownAt, reach?_masked free, Option.map_map]
  exact congrArg (Option.map · _) (funext outline_masked)

theorem veiled_masked (p : Json) : Veiled p (masked p) where
  shown := fun _ free => shownAt_masked free p
  hidden := by
    intro place s free secret
    rw [reach?_concat, reach?_concat, reach?_masked free, Option.bind_map, Option.map_bind]
    exact Option.bind_congr fun c _ => child?_masked_of_secret secret c

theorem Veiled.child {p r c d : Json} {s : Step} (h : Veiled p r) (free : ¬IsSecret s)
    (old : p.child? s = some c) (new : r.child? s = some d) : Veiled c d where
  shown := by
    intro place rest
    have here := h.shown (s :: place) (isOpen_cons_iff.mpr ⟨free, rest⟩)
    rwa [shownAt, shownAt, reach?, reach?, old, new] at here
  hidden := by
    intro place t rest secret
    have here := h.hidden (s :: place) t (isOpen_cons_iff.mpr ⟨free, rest⟩) secret
    rwa [List.cons_append, reach?, reach?, old, new] at here

/-- There is no other way to put the mask for all secrets and leave the rest. -/
theorem Veiled.eq_masked {p r : Json} (h : Veiled p r) : r = masked p := by
  induction p using child_induction generalizing r with
  | step p ih =>
    refine eq_of_outline_eq ?_ fun s => ?_
    · rw [outline_masked]
      exact Option.some.inj (h.shown [] isOpen_nil)
    · by_cases secret : IsSecret s
      · have here := h.hidden [] s isOpen_nil secret
        rw [List.nil_append, reach?_singleton, reach?_singleton] at here
        rw [here, child?_masked_of_secret secret]
      · have here := h.shown [s] (isOpen_cons_iff.mpr ⟨secret, isOpen_nil⟩)
        rw [shownAt, shownAt, reach?_singleton, reach?_singleton] at here
        rw [child?_masked_of_open secret]
        cases old : p.child? s with
        | none =>
          rw [old, Option.map_none, Option.map_eq_none_iff] at here
          exact here
        | some c =>
          rw [old, Option.map_some, Option.map_eq_some_iff] at here
          obtain ⟨d, new, -⟩ := here
          rw [new, Option.map_some, ih s c old (h.child secret old new)]

theorem veiled_iff {p r : Json} : Veiled p r ↔ r = masked p := by
  refine ⟨Veiled.eq_masked, ?_⟩
  rintro rfl
  exact veiled_masked p

theorem masked_eq_iff_shownAt_eq {p q : Json} :
    masked p = masked q ↔ ∀ place, IsOpen place → p.shownAt place = q.shownAt place := by
  refine ⟨fun same place free => ?_, fun same => ?_⟩
  · rw [← shownAt_masked free p, same, shownAt_masked free q]
  · -- Which secrets there are below a place is told by what shows at it, so both have the same.
    have veiled : Veiled p (masked q) := by
      refine ⟨fun place free => ?_, fun place s free secret => ?_⟩
      · rw [shownAt_masked free, same place free]
      · rw [(veiled_masked q).hidden place s free secret, map_reach?_concat, map_reach?_concat,
          same place free]
    exact veiled.eq_masked.symm

theorem masked_masked (p : Json) : masked (masked p) = masked p := by
  have veiled : Veiled (masked p) (masked p) := by
    refine ⟨fun _ _ => rfl, fun place s free secret => ?_⟩
    rw [(veiled_masked p).hidden place s free secret, Option.map_map]
    rfl
  exact veiled.eq_masked.symm

theorem canonical_masked (p : Json) : (masked p).canonical = masked p.canonical := by
  induction p using child_induction with
  | step p ih =>
    cases p with
    | arr items =>
      rw [masked, canonical, canonical, masked, maskedItems_eq_map, maskedItems_eq_map,
        canonicalItems_eq_map, canonicalItems_eq_map, List.map_map, List.map_map]
      congr 1
      refine List.map_congr_left fun j hj => ?_
      obtain ⟨n, here⟩ := List.mem_iff_getElem?.mp hj
      exact ih (.item n) j here
    | obj members =>
      rw [masked, canonical, canonical, masked, maskedMembers_eq_map, maskedMembers_eq_map,
        canonicalMembers_eq_map, canonicalMembers_eq_map,
        ← Entries.ofList_map fun name j => if isSecretName name then mask else masked j,
        List.map_map, List.map_map]
      congr 2
      refine List.map_congr_left fun m hm => ?_
      obtain ⟨n, here⟩ := List.mem_iff_getElem?.mp hm
      have within := ih (.member n m.1) m.2 (child?_member_iff.mpr here)
      simp only [Function.comp_apply]
      split
      · rfl
      · rw [within]
    | _ => rfl

/-- Masking hides all that is secret and nothing else. The masked form is the only way to put the
mask in the place of each secret and to keep the names, lengths and leaves outside. Two values are
masked alike exactly if they become equal when their secrets are replaced, which is when they show
the same at every place outside. To mask again changes nothing, and the masked form of a value with
its members in order of their names has them in that order. -/
theorem masking_hides_secrets_alone (p q : Json) :
    (∀ r, Veiled p r ↔ r = masked p) ∧
      (masked p = masked q ↔ ∃ r, Veiled p r ∧ Veiled q r) ∧
      (masked p = masked q ↔ ∀ place, IsOpen place → p.shownAt place = q.shownAt place) ∧
      masked (masked p) = masked p ∧
      (masked p).canonical = masked p.canonical := by
  refine ⟨fun r => veiled_iff, ?_, masked_eq_iff_shownAt_eq, masked_masked p, canonical_masked p⟩
  refine ⟨fun same => ⟨masked p, veiled_masked p, veiled_iff.mpr same⟩, ?_⟩
  rintro ⟨r, first, second⟩
  exact first.eq_masked.symm.trans second.eq_masked

example : masked (.obj [("Name", .str "corp"), ("PASSWORD", .obj [("Name", .int 1)]),
    ("Nested", .arr [.obj [("ssoPassword", .str "x"), ("passwords", .null)]])]) =
      .obj [("Name", .str "corp"), ("PASSWORD", mask),
        ("Nested", .arr [.obj [("ssoPassword", mask), ("passwords", .null)]])] := rfl

end RequestLog

end ControlPlane
