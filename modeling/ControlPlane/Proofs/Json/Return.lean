import ControlPlane.Proofs.Json.Member
import ControlPlane.Proofs.Json.Place

/-!
Values that come back. A codec is lawful if it reads all that it writes as what it was; of a codec
that is not, such as that of words, the values that it has read come back all the same. A record
comes back member by member, if no two of its members share a name.

An optional member reads null as no value, so a value in it must not be written as null. A value
that was read there never is.
-/

namespace ControlPlane

namespace Codec

variable {α : Type} {c : Codec α}

/-- What is written for `a` is read as `b`. -/
def Returns (c : Codec α) (a b : α) : Prop := c.decode (c.encode a) = .ok b

/-- Every value comes back, and none is written as null. -/
class Lawful (c : Codec α) : Prop where
  returns : ∀ a, c.Returns a a
  present : ∀ a, c.encode a ≠ .null

/-- Every value that was read comes back, and is written as null only where it was read from it. -/
class Stable (c : Codec α) : Prop where
  returns : ∀ j a, c.decode j = .ok a → c.Returns a a
  present : ∀ j a, c.decode j = .ok a → j ≠ .null → c.encode a ≠ .null

instance [c.Lawful] : c.Stable where
  returns _ a _ := Lawful.returns a
  present _ a _ _ := Lawful.present a

instance : text.Lawful := ⟨faithful_text, fun _ => nofun⟩

instance : flag.Lawful := ⟨faithful_flag, fun _ => nofun⟩

instance : json.Stable where
  returns _ a _ := faithful_json a
  present := by
    intro j a read
    cases read
    exact id

theorem returns_upTo {greatest n : Nat} (h : n ≤ greatest) : (upTo greatest).Returns n n := by
  have inside : (0 : Int) ≤ n ∧ (n : Int) ≤ greatest := ⟨by omega, by omega⟩
  simp only [Returns, upTo, if_pos inside, Int.toNat_natCast]

theorem le_of_decode_upTo {greatest n : Nat} {j : Json} (h : (upTo greatest).decode j = .ok n) :
    n ≤ greatest := by
  cases j with
  | int k =>
    simp only [upTo] at h
    split at h
    · cases h
      omega
    · cases h
  | _ => cases h

instance (greatest : Nat) : (upTo greatest).Stable where
  returns _ _ read := returns_upTo (le_of_decode_upTo read)
  present _ _ _ _ := nofun

instance : word32.Stable := inferInstanceAs (upTo _).Stable

instance : word64.Stable := inferInstanceAs (upTo _).Stable

theorem lawful_ofText {render : α → String} {parse : String → Option α}
    (h : ∀ a, parse (render a) = some a) : (ofText render parse).Lawful where
  returns a := by simp only [Returns, ofText, h]
  present _ := nofun

theorem returns_list {f : α → α} {items : List α} (h : ∀ a ∈ items, c.Returns a (f a)) :
    (list c).Returns items (items.map f) := by
  change decodeItems c (items.map c.encode) = .ok (items.map f)
  induction items with
  | nil => rfl
  | cons a rest ih =>
    have first : c.decode (c.encode a) = .ok (f a) := h a List.mem_cons_self
    simp only [List.map_cons, decodeItems, first]
    rw [ih fun b hb => h b (List.mem_cons_of_mem a hb)]
    rfl

theorem returns_list_self {items : List α} (h : ∀ a ∈ items, c.Returns a a) :
    (list c).Returns items items := by
  have same := returns_list (f := id) h
  rwa [List.map_id] at same

theorem exists_of_decodeItems {read : List Json} {items : List α}
    (h : decodeItems c read = .ok items) : ∀ a ∈ items, ∃ j, c.decode j = .ok a := by
  induction read generalizing items with
  | nil =>
    cases h
    exact fun a ha => absurd ha List.not_mem_nil
  | cons j rest ih =>
    rw [decodeItems] at h
    cases first : c.decode j with
    | error e =>
      rw [first] at h
      cases h
    | ok a =>
      rw [first] at h
      obtain ⟨others, made, rfl⟩ := map_eq_ok_iff.mp h
      intro b hb
      rcases List.mem_cons.mp hb with rfl | hb
      · exact ⟨j, first⟩
      · exact ih made b hb

instance [c.Lawful] : (list c).Lawful where
  returns _ := returns_list_self fun a _ => Lawful.returns a
  present _ := nofun

instance [c.Stable] : (list c).Stable where
  returns := by
    intro j items read
    cases j with
    | arr js =>
      refine returns_list_self fun a ha => ?_
      obtain ⟨j, made⟩ := exists_of_decodeItems read a ha
      exact Stable.returns j a made
    | _ => cases read
  present _ _ _ _ := nofun

theorem decodeTexts_map_str (entries : List (String × String)) :
    decodeTexts (entries.map fun e => (e.1, .str e.2)) = .ok entries := by
  induction entries with
  | nil => rfl
  | cons e rest ih =>
    rw [List.map_cons, decodeTexts, ih]
    rfl

instance : textMap.Lawful where
  returns m := by
    change (decodeTexts (m.entries.map fun e => (e.1, .str e.2))).map TextMap.ofList = .ok m
    rw [decodeTexts_map_str]
    exact congrArg Except.ok m.ofList_entries
  present _ := nofun

/-! ### Bags -/

theorem exists_of_decodeBag {bag : Json} {a : α} (h : c.decodeBag bag = .ok a) :
    ∃ j, j ≠ .null ∧ c.decode j = .ok a := by
  cases bag with
  | null => exact ⟨.obj [], nofun, h⟩
  | _ =>
    refine ⟨_, ?_, h⟩
    exact nofun

theorem decodeBag_of_ne_null {bag : Json} (given : bag ≠ .null) :
    c.decodeBag bag = c.decode bag := by
  cases bag with
  | null => exact absurd rfl given
  | _ => rfl

theorem returns_of_decodeBag [c.Stable] {bag : Json} {a : α} (h : c.decodeBag bag = .ok a) :
    c.Returns a a := by
  obtain ⟨j, -, read⟩ := exists_of_decodeBag h
  exact Stable.returns j a read

theorem decodeBag_encode_of_decodeBag [c.Stable] {bag : Json} {a : α}
    (h : c.decodeBag bag = .ok a) : c.decodeBag (c.encode a) = .ok a := by
  obtain ⟨j, given, read⟩ := exists_of_decodeBag h
  rw [decodeBag_of_ne_null (Stable.present j a read given)]
  exact Stable.returns j a read

end Codec

namespace Member

variable {β : Type} {name : String} {c : Codec β}

def Returns (m : Member β) (b b' : β) : Prop := m.Reads b' (m.write b)

def Stable (m : Member β) : Prop := ∀ b place, m.Reads b place → m.Returns b b

theorem returns_optional {o : Option β} (h : ∀ b ∈ o, c.Returns b b ∧ c.encode b ≠ .null) :
    (Member.optional name c).Returns o o := by
  cases o with
  | none => rfl
  | some b =>
    obtain ⟨returns, present⟩ := h b rfl
    change (Codec.nullable c).decode (c.encode b) = .ok (some b)
    have read : (Codec.nullable c).decode (c.encode b) = (c.decode (c.encode b)).map some := by
      cases written : c.encode b with
      | null => exact absurd written present
      | _ => rfl
    rw [read, show c.decode (c.encode b) = .ok b from returns]
    rfl

theorem returns_nullable {o : Option β} (h : ∀ b ∈ o, c.Returns b b ∧ c.encode b ≠ .null) :
    (Member.nullable name c).Returns o o := by
  cases o with
  | none => rfl
  | some b =>
    have kept : (Member.optional name c).Returns (some b) (some b) := returns_optional h
    exact kept

theorem exists_of_decode_nullable {j : Json} {b : β}
    (h : (Codec.nullable c).decode j = .ok (some b)) : c.decode j = .ok b ∧ j ≠ .null := by
  cases j with
  | null => cases h
  | _ =>
    obtain ⟨b', read, same⟩ := map_eq_ok_iff.mp h
    cases same
    exact ⟨read, nofun⟩

theorem stable_required [c.Stable] : (Member.required name c).Stable := by
  intro b place reads
  cases place with
  | none => cases reads
  | some j => exact Codec.Stable.returns j b reads

theorem stable_defaulted [c.Stable] {value : β} (h : c.Returns value value) :
    (Member.defaulted name c value).Stable := by
  intro b place reads
  cases place with
  | none =>
    cases reads
    exact h
  | some j => exact Codec.Stable.returns j b reads

theorem stable_optional [c.Stable] : (Member.optional name c).Stable := by
  intro o place reads
  refine returns_optional fun b hb => ?_
  cases hb
  cases place with
  | none => cases reads
  | some j =>
    obtain ⟨read, given⟩ := exists_of_decode_nullable reads
    exact ⟨Codec.Stable.returns j b read, Codec.Stable.present j b read given⟩

end Member

/-! ### Records -/

namespace Record

variable {σ τ α β : Type} {r : Record σ (β → α)} {s : σ} {name : String} {c : Codec β}

/-- What the record writes of `s` it reads as `a`, wherever its members stand among others. -/
structure ReadsBack (r : Record σ α) (s : σ) (a : α) : Prop where
  named : ((r.write s).map (·.1)).Sublist r.names
  check : r.names.Nodup → ∀ m ∈ r.write s, r.check m.1 m.2 = .ok ()
  made : r.names.Nodup → ∀ members : List (String × Json),
    (∀ name ∈ r.names, Json.member? name members = Json.member? name (r.write s)) →
      r.ofMembers members = .ok a

namespace ReadsBack

theorem start (a : α) : (Record.start a).ReadsBack s a where
  named := List.Sublist.refl []
  check := fun _ _ h => absurd h List.not_mem_nil
  made := fun _ _ _ => rfl

theorem member_eq_none {α : Type} {r : Record σ α} {a : α} (h : r.ReadsBack s a)
    (unknown : name ∉ r.names) : Json.member? name (r.write s) = none := by
  have absent : (r.write s).find? (·.1 == name) = none := by
    refine List.find?_eq_none.mpr fun m hm same => unknown ?_
    have named : m.1 = name := by simpa using same
    exact named ▸ h.named.subset (List.mem_map_of_mem hm)
  rw [Json.member?, Entries.get?, absent]
  rfl

theorem member {m : Member β} {get : σ → β} {f : β → α} {b : β} (h : r.ReadsBack s f)
    (back : m.Returns (get s) b) : (r.member m get).ReadsBack s (f b) where
  named := by
    have last : (((m.write (get s)).map fun j => (m.name, j)).toList.map (·.1)).Sublist [m.name] := by
      cases m.write (get s) with
      | none => exact List.nil_sublist _
      | some j => exact List.Sublist.refl _
    change ((r.write s ++ _).map (·.1)).Sublist (r.names ++ [m.name])
    rw [List.map_append]
    exact h.named.append last
  check := by
    intro distinct w written
    obtain ⟨before, -, apart⟩ := List.nodup_append.mp distinct
    rcases List.mem_append.mp written with early | last
    · have known : w.1 ∈ r.names := h.named.subset (List.mem_map_of_mem early)
      have other : w.1 ≠ m.name := apart _ known _ (List.mem_singleton_self _)
      change (if w.1 = m.name then _ else r.check w.1 w.2) = _
      rw [if_neg other]
      exact h.check before w early
    · cases value : m.write (get s) with
      | none =>
        rw [value] at last
        cases last
      | some j =>
        rw [value] at last
        rw [Member.Returns, value] at back
        cases List.mem_singleton.mp last
        change (if m.name = m.name then (m.read j).map fun _ => () else _) = _
        rw [if_pos rfl, show m.read j = .ok b from back]
        rfl
  made := by
    intro distinct members agree
    obtain ⟨before, -, apart⟩ := List.nodup_append.mp distinct
    have fresh : m.name ∉ r.names := fun known =>
      apart _ known _ (List.mem_singleton_self _) rfl
    have first : r.ofMembers members = .ok f := by
      refine h.made before members fun name known => ?_
      have other : m.name ≠ name := fun same => fresh (same ▸ known)
      rw [agree name (List.mem_append_left _ known), member?_member, if_neg other, Option.or_none]
    refine ofMembers_member_eq_ok_iff.mpr ⟨f, b, first, ?_, rfl⟩
    have own : m.name ∈ r.names ++ [m.name] := by simp
    rw [agree m.name own, member?_member, h.member_eq_none fresh, Option.none_or, if_pos rfl]
    exact back

theorem hidden {f : β → α} (h : r.ReadsBack s f) (value : β) :
    (r.hidden value).ReadsBack s (f value) where
  named := h.named
  check := h.check
  made := by
    intro distinct members agree
    exact map_eq_ok_iff.mpr ⟨f, h.made distinct members agree, rfl⟩

theorem within {r : Record σ α} {get : τ → σ} {f : α → β} {t : τ} {a : α}
    (h : r.ReadsBack (get t) a) : (r.within get f).ReadsBack t (f a) where
  named := h.named
  check := h.check
  made := by
    intro distinct members agree
    exact map_eq_ok_iff.mpr ⟨a, h.made distinct members agree, rfl⟩

theorem requiredOf {get : σ → β} {f : β → α} {b : β} (h : r.ReadsBack s f)
    (back : c.Returns (get s) b) : (r.required name c get).ReadsBack s (f b) :=
  h.member back

/-! Members whose values always come back need no more to be said of them. -/

variable [c.Lawful]

theorem required {get : σ → β} {f : β → α} (h : r.ReadsBack s f) :
    (r.required name c get).ReadsBack s (f (get s)) :=
  h.member (Codec.Lawful.returns (get s))

theorem defaulted {get : σ → β} {value : β} {f : β → α} (h : r.ReadsBack s f) :
    (r.defaulted name c value get).ReadsBack s (f (get s)) :=
  h.member (Codec.Lawful.returns (get s))

theorem listOrEmpty {r : Record σ (List β → α)} {get : σ → List β} {f : List β → α}
    (h : r.ReadsBack s f) : (r.listOrEmpty name c get).ReadsBack s (f (get s)) :=
  h.member (Codec.Lawful.returns (c := .list c) (get s))

theorem optional {r : Record σ (Option β → α)} {get : σ → Option β} {f : Option β → α}
    (h : r.ReadsBack s f) : (r.optional name c get).ReadsBack s (f (get s)) :=
  h.member (Member.returns_optional fun b _ => ⟨Codec.Lawful.returns b, Codec.Lawful.present b⟩)

theorem nullable {r : Record σ (Option β → α)} {get : σ → Option β} {f : Option β → α}
    (h : r.ReadsBack s f) : (r.nullable name c get).ReadsBack s (f (get s)) :=
  h.member (Member.returns_nullable fun b _ => ⟨Codec.Lawful.returns b, Codec.Lawful.present b⟩)

end ReadsBack

theorem checkMembers_of_check {r : Record σ α} {members : List (String × Json)}
    (distinct : (members.map (·.1)).Nodup) (checked : ∀ m ∈ members, r.check m.1 m.2 = .ok ())
    {seen : List String} (fresh : ∀ m ∈ members, m.1 ∉ seen) :
    r.checkMembers seen members = .ok () := by
  induction members generalizing seen with
  | nil => rfl
  | cons m rest ih =>
    obtain ⟨key, j⟩ := m
    obtain ⟨other, distinct⟩ := List.nodup_cons.mp distinct
    refine checkMembers_cons_eq_ok_iff.mpr ⟨fun _ => ⟨?_, ?_⟩, ?_⟩
    · exact fresh _ List.mem_cons_self
    · exact checked _ List.mem_cons_self
    · refine ih distinct (fun m hm => checked m (List.mem_cons_of_mem _ hm)) fun m hm => ?_
      have unseen : m.1 ∉ seen := fresh m (List.mem_cons_of_mem _ hm)
      split
      · have apart : m.1 ≠ key := fun same => other (List.mem_map.mpr ⟨m, hm, same⟩)
        exact List.not_mem_cons_of_ne_of_not_mem apart unseen
      · exact unseen

theorem returns {r : Record α α} {a b b' : α} (distinct : r.names.Nodup) (h : r.ReadsBack a b)
    (same : b = b') : r.codec.Returns a b' := by
  have written : ((r.write a).map (·.1)).Nodup := distinct.sublist h.named
  refine decode_obj_eq_ok_iff.mpr ⟨?_, ?_⟩
  · exact checkMembers_of_check written (h.check distinct) fun _ _ => List.not_mem_nil
  · rw [h.made distinct _ fun _ _ => rfl, same]

theorem lawful {r : Record α α} (distinct : r.names.Nodup) {f : α → α}
    (h : ∀ a, r.ReadsBack a (f a)) (same : ∀ a, f a = a) : r.codec.Lawful where
  returns a := returns distinct (h a) (same a)
  present _ := nofun

/-! ### What was read -/

structure Gives (r : Record σ α) (p : α → Prop) : Prop where
  members : ∀ members a, r.ofMembers members = .ok a → p a
  items : ∀ items a left, r.ofItems items = .ok (a, left) → p a

namespace Gives

variable {p : α → Prop}

theorem imp {r : Record σ α} {q : α → Prop} (h : r.Gives p) (implies : ∀ a, p a → q a) :
    r.Gives q where
  members members a made := implies a (h.members members a made)
  items items a left made := implies a (h.items items a left made)

theorem start {a : α} (h : p a) : (Record.start a : Record σ α).Gives p where
  members := by
    intro members b made
    cases made
    exact h
  items := by
    intro items b left made
    cases made
    exact h

theorem member {m : Member β} {get : σ → β} (stable : m.Stable)
    (h : r.Gives fun f => ∀ b, m.Returns b b → p (f b)) : (r.member m get).Gives p where
  members := by
    intro members a made
    obtain ⟨f, b, first, reads, rfl⟩ := ofMembers_member_eq_ok_iff.mp made
    exact h.members members f first b (stable b _ reads)
  items := by
    intro items a left made
    obtain ⟨f, b, rest, first, reads, rfl, -⟩ := ofItems_member_eq_ok_iff.mp made
    exact h.items items f rest first b (stable b _ reads)

theorem required {get : σ → β} [c.Stable]
    (h : r.Gives fun f => ∀ b, (Member.required name c).Returns b b → p (f b)) :
    (r.required name c get).Gives p :=
  member Member.stable_required h

theorem defaulted {get : σ → β} {value : β} [c.Stable] (back : c.Returns value value)
    (h : r.Gives fun f => ∀ b, (Member.defaulted name c value).Returns b b → p (f b)) :
    (r.defaulted name c value get).Gives p :=
  member (Member.stable_defaulted back) h

theorem listOrEmpty {r : Record σ (List β → α)} {get : σ → List β} [c.Stable]
    (h : r.Gives fun f => ∀ b, (Member.defaulted name (.list c) []).Returns b b → p (f b)) :
    (r.listOrEmpty name c get).Gives p :=
  defaulted rfl h

theorem optional {r : Record σ (Option β → α)} {get : σ → Option β} [c.Stable]
    (h : r.Gives fun f => ∀ b, (Member.optional name c).Returns b b → p (f b)) :
    (r.optional name c get).Gives p :=
  member Member.stable_optional h

end Gives

theorem prop_of_decode {r : Record σ α} {p : α → Prop} (h : r.Gives p) {j : Json} {a : α}
    (read : r.decode j = .ok a) : p a := by
  cases j with
  | obj members => exact h.members members a (decode_obj_eq_ok_iff.mp read).2
  | arr items => exact h.items items a [] (decode_arr_eq_ok_iff.mp read)
  | _ => cases read

theorem stable {r : Record α α} (distinct : r.names.Nodup) (h : r.Gives fun a => r.ReadsBack a a) :
    r.codec.Stable where
  returns _ _ read := returns distinct (prop_of_decode h read) rfl
  present _ _ _ _ := nofun

end Record

theorem Codec.returns_single {α : Type} {name : String} {c : Codec α} {a b : α}
    (h : c.Returns a b) : (Codec.single name c).Returns a b :=
  Record.returns (List.pairwise_singleton _ name) ((Record.ReadsBack.start id).member h) rfl

instance {α : Type} {name : String} {c : Codec α} [c.Lawful] : (Codec.single name c).Lawful where
  returns a := Codec.returns_single (Codec.Lawful.returns a)
  present _ := nofun

instance : Codec.nothing.Lawful :=
  Record.lawful List.nodup_nil (fun _ => Record.ReadsBack.start ()) fun _ => rfl

instance : Codec.ignored.Lawful where
  returns _ := rfl
  present _ := nofun

end ControlPlane
