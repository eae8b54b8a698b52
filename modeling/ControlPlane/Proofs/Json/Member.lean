import ControlPlane.Json.Record

/-!
Reading single members of JSON values, and which members a record writes. Of a record that grows
member by member, the first one of a name is what is read.
-/

namespace ControlPlane

namespace Json

def at? : List String → Json → Option Json
  | [], j => some j
  | name :: path, .obj members => (member? name members).bind (at? path)
  | _ :: _, _ => none

def text? : Json → Option String
  | .str s => some s
  | _ => none

def textAt? (path : List String) (j : Json) : Option String := (j.at? path).bind text?

def items? : Json → Option (List Json)
  | .arr items => some items
  | _ => none

def only? : Json → Option Json
  | .arr [j] => some j
  | _ => none

@[simp]
theorem text?_str (s : String) : text? (.str s) = some s := rfl

@[simp]
theorem items?_arr (items : List Json) : items? (.arr items) = some items := rfl

theorem at?_singleton (name : String) (members : List (String × Json)) :
    at? [name] (.obj members) = member? name members := by
  rw [at?]
  cases member? name members with
  | none => rfl
  | some j => rfl

theorem at?_cons_of_at? {name : String} {path : List String} {j inner outer : Json}
    (first : outer.at? [name] = some inner) (rest : inner.at? path = some j) :
    outer.at? (name :: path) = some j := by
  cases outer with
  | obj members =>
    rw [at?_singleton] at first
    rw [at?, first]
    exact rest
  | _ => cases first

theorem member?_append (name : String) (xs ys : List (String × Json)) :
    member? name (xs ++ ys) = (member? name xs).or (member? name ys) := by
  simp only [member?, Entries.get?, List.find?_append, Option.map_or]

end Json

namespace Codec

@[simp]
theorem encode_text (t : String) : Codec.text.encode t = .str t := rfl

@[simp]
theorem encode_flag (b : Bool) : Codec.flag.encode b = .bool b := rfl

@[simp]
theorem encode_list {α : Type} (c : Codec α) (items : List α) :
    (Codec.list c).encode items = .arr (items.map c.encode) := rfl

@[simp]
theorem text?_map_encode (t? : Option String) : (t?.map Codec.text.encode).bind Json.text? = t? := by
  cases t? with
  | none => rfl
  | some t => rfl

end Codec

namespace Record

variable {σ τ α β : Type} {name : String}

@[simp]
theorem member?_start {a : α} {s : σ} : Json.member? name ((start a : Record σ α).write s) = none :=
  rfl

@[simp]
theorem member?_member {r : Record σ (β → α)} {m : Member β} {get : σ → β} {s : σ} :
    Json.member? name ((r.member m get).write s) =
      (Json.member? name (r.write s)).or (if m.name = name then m.write (get s) else none) := by
  have last : Json.member? name ((m.write (get s)).map fun j => (m.name, j)).toList =
      if m.name = name then m.write (get s) else none := by
    cases m.write (get s) with
    | none => exact (ite_self _).symm
    | some j => by_cases same : m.name = name <;> simp [Json.member?, Entries.get?, same]
  rw [← last, ← Json.member?_append]
  rfl

@[simp]
theorem member?_required {r : Record σ (β → α)} {key : String} {c : Codec β} {get : σ → β} {s : σ} :
    Json.member? name ((r.required key c get).write s) =
      (Json.member? name (r.write s)).or (if key = name then some (c.encode (get s)) else none) :=
  member?_member

@[simp]
theorem member?_optional {r : Record σ (Option β → α)} {key : String} {c : Codec β}
    {get : σ → Option β} {s : σ} :
    Json.member? name ((r.optional key c get).write s) =
      (Json.member? name (r.write s)).or (if key = name then (get s).map c.encode else none) :=
  member?_member

@[simp]
theorem member?_listUnlessEmpty {r : Record σ (List β → α)} {key : String} {c : Codec β}
    {get : σ → List β} {s : σ} :
    Json.member? name ((r.listUnlessEmpty key c get).write s) =
      (Json.member? name (r.write s)).or
        (if key = name then (Member.omittedWhen key (.list c) [] List.isEmpty).write (get s)
          else none) :=
  member?_member

@[simp]
theorem member?_hidden {r : Record σ (β → α)} {value : β} {s : σ} :
    Json.member? name ((r.hidden value).write s) = Json.member? name (r.write s) :=
  rfl

@[simp]
theorem member?_within {r : Record σ α} {get : τ → σ} {f : α → β} {t : τ} :
    Json.member? name ((r.within get f).write t) = Json.member? name (r.write (get t)) :=
  rfl

/-- What a record writes under a name. -/
theorem at?_encode (r : Record σ σ) (s : σ) :
    Json.at? [name] (r.codec.encode s) = Json.member? name (r.write s) :=
  Json.at?_singleton name _

end Record

theorem Codec.at?_single {α : Type} (name : String) (c : Codec α) (a : α) :
    ((Codec.single name c).encode a).at? [name] = some (c.encode a) := by
  rw [Codec.single, Record.at?_encode]
  simp

theorem Codec.textAt?_single {α : Type} (name : String) {c : Codec α} {a : α} {path : List String}
    {text : String} (h : (c.encode a).textAt? path = some text) :
    ((Codec.single name c).encode a).textAt? (name :: path) = some text := by
  obtain ⟨j, inner, read⟩ := Option.bind_eq_some_iff.mp h
  rw [Json.textAt?, Json.at?_cons_of_at? (Codec.at?_single name c a) inner]
  exact read

end ControlPlane
