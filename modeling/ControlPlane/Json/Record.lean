import ControlPlane.Json.Codec

/-!
Records as JSON objects. A record is described once, member by member in the order of its
declaration, and the description both writes and reads it.

Reading an object goes in two passes. First every member present is read, in the order in which the
object has them, and the first that fails is reported; a member whose name is not in the description
is passed over, and a name that comes twice is a failure. Then, when all are good, the first
required member that is absent is reported by name. A record may also be given as the list of its
members' values in order of declaration; members at the end may be left out if they have a value to
take, and nothing may follow the last.
-/

namespace ControlPlane

/-- One member of a record: how it is written, if at all, how it is read, and the value it takes
when it is absent, if it may be. -/
structure Member (β : Type) where
  name : String
  write : β → Option Json
  read : Json → Except DecodeError β
  absent : Option β

namespace Member

variable {β : Type}

def required (name : String) (c : Codec β) : Member β where
  name := name
  write b := some (c.encode b)
  read := c.decode
  absent := none

/-- Left out when there is no value; null says the same. -/
def optional (name : String) (c : Codec β) : Member (Option β) where
  name := name
  write b := b.map c.encode
  read := (Codec.nullable c).decode
  absent := some none

def nullable (name : String) (c : Codec β) : Member (Option β) where
  name := name
  write b := some ((Codec.nullable c).encode b)
  read := (Codec.nullable c).decode
  absent := some none

def defaulted (name : String) (c : Codec β) (value : β) : Member β where
  name := name
  write b := some (c.encode b)
  read := c.decode
  absent := some value

def omittedWhen (name : String) (c : Codec β) (value : β) (leaveOut : β → Bool) : Member β where
  name := name
  write b := if leaveOut b then none else some (c.encode b)
  read := c.decode
  absent := some value

end Member

/-- A description of some members of a record of type `σ`, which reads them into an `α`. -/
structure Record (σ α : Type) where
  names : List String
  write : σ → List (String × Json)
  check : String → Json → Except DecodeError Unit
  ofMembers : List (String × Json) → Except DecodeError α
  ofItems : List Json → Except DecodeError (α × List Json)

namespace Record

variable {σ α β : Type}

def start (a : α) : Record σ α where
  names := []
  write _ := []
  check _ _ := .ok ()
  ofMembers _ := .ok a
  ofItems items := .ok (a, items)

def member (r : Record σ (β → α)) (m : Member β) (get : σ → β) : Record σ α where
  names := r.names ++ [m.name]
  write s := r.write s ++ ((m.write (get s)).map fun j => (m.name, j)).toList
  check name j := if name = m.name then (m.read j).map fun _ => () else r.check name j
  ofMembers members :=
    match r.ofMembers members with
    | .error e => .error e
    | .ok f =>
      match Json.member? m.name members with
      | some j => (m.read j).map f
      | none =>
        match m.absent with
        | some b => .ok (f b)
        | none => .error (.missingField m.name)
  ofItems items :=
    match r.ofItems items with
    | .error e => .error e
    | .ok (f, j :: rest) => (m.read j).map fun b => (f b, rest)
    | .ok (f, []) =>
      match m.absent with
      | some b => .ok (f b, [])
      | none => .error .malformed

def required (r : Record σ (β → α)) (name : String) (c : Codec β) (get : σ → β) : Record σ α :=
  r.member (.required name c) get

def optional (r : Record σ (Option β → α)) (name : String) (c : Codec β) (get : σ → Option β) :
    Record σ α :=
  r.member (.optional name c) get

def nullable (r : Record σ (Option β → α)) (name : String) (c : Codec β) (get : σ → Option β) :
    Record σ α :=
  r.member (.nullable name c) get

def defaulted (r : Record σ (β → α)) (name : String) (c : Codec β) (value : β) (get : σ → β) :
    Record σ α :=
  r.member (.defaulted name c value) get

def listUnlessEmpty (r : Record σ (List β → α)) (name : String) (c : Codec β)
    (get : σ → List β) : Record σ α :=
  r.member (.omittedWhen name (.list c) [] List.isEmpty) get

def listOrEmpty (r : Record σ (List β → α)) (name : String) (c : Codec β) (get : σ → List β) :
    Record σ α :=
  r.defaulted name (.list c) [] get

/-- A part of the record that is never written, and read as `value`. -/
def hidden (r : Record σ (β → α)) (value : β) : Record σ α where
  names := r.names
  write := r.write
  check := r.check
  ofMembers members := (r.ofMembers members).map fun f => f value
  ofItems items := (r.ofItems items).map fun (f, rest) => (f value, rest)

/-- The members of a part of the record, side by side with its own. -/
def within {τ : Type} (r : Record σ α) (get : τ → σ) (f : α → β) : Record τ β where
  names := r.names
  write t := r.write (get t)
  check := r.check
  ofMembers members := (r.ofMembers members).map f
  ofItems items := (r.ofItems items).map fun (a, rest) => (f a, rest)

def checkMembers (r : Record σ α) :
    List String → List (String × Json) → Except DecodeError Unit
  | _, [] => .ok ()
  | seen, (name, j) :: rest =>
    if name ∈ r.names then
      if name ∈ seen then .error .malformed
      else
        match r.check name j with
        | .error e => .error e
        | .ok () => r.checkMembers (name :: seen) rest
    else r.checkMembers seen rest

def decode (r : Record σ α) : Json → Except DecodeError α
  | .obj members =>
    match r.checkMembers [] members with
    | .error e => .error e
    | .ok () => r.ofMembers members
  | .arr items =>
    match r.ofItems items with
    | .error e => .error e
    | .ok (a, []) => .ok a
    | .ok (_, _ :: _) => .error .malformed
  | _ => .error .malformed

def encode (r : Record σ α) (s : σ) : Json :=
  .obj (r.write s)

def codec (r : Record α α) : Codec α where
  encode := r.encode
  decode := r.decode

end Record

def Codec.single {α : Type} (name : String) (c : Codec α) : Codec α :=
  ((Record.start id).required name c id).codec

def Codec.singleList {α : Type} (name : String) (c : Codec α) : Codec (List α) :=
  ((Record.start id).listOrEmpty name c id).codec

def Codec.nothing : Codec Unit :=
  (Record.start ()).codec

def Codec.ignored : Codec Unit where
  encode _ := .obj []
  decode _ := .ok ()

/-- Reads a bag of parameters; null stands for the empty bag. -/
def Codec.decodeBag {α : Type} (c : Codec α) : Json → Except DecodeError α
  | .null => c.decode (.obj [])
  | bag => c.decode bag

end ControlPlane
