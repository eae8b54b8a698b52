import ControlPlane.Tag.Basic

/-!
The tags of all resources of a service. A resource is known by whatever text the service addresses
it with. Its tags have different keys and stand in the order in which the keys came; writing a key
that is there keeps its place. A resource without tags has no entry, and what happens to one
resource leaves all others as they are.
-/

namespace ControlPlane

def Tag.upsert (tags : List Tag) (t : Tag) : List Tag :=
  if tags.any (·.key == t.key) then tags.map fun u => if u.key = t.key then ⟨u.key, t.value⟩ else u
  else tags ++ [t]

def Tag.upsertAll (tags new : List Tag) : List Tag :=
  new.foldl upsert tags

def Tag.withoutKeys (tags : List Tag) (keys : List String) : List Tag :=
  tags.filter fun t => !keys.contains t.key

/-- How many of the new tags, each counted by itself, have a key that is not there yet. -/
def Tag.addedCount (existing new : List Tag) : Nat :=
  new.countP fun t => !existing.any fun e => e.key == t.key

structure TagStore where
  entries : List (String × List Tag)
  deriving Repr, Inhabited

namespace TagStore

def empty : TagStore := ⟨[]⟩

def tags (s : TagStore) (resource : String) : List Tag :=
  ((s.entries.find? (·.1 == resource)).map (·.2)).getD []

def has (s : TagStore) (resource : String) : Bool :=
  s.entries.any (·.1 == resource)

def count (s : TagStore) (resource : String) : Nat := (s.tags resource).length

def size (s : TagStore) : Nat := s.entries.length

def clear (s : TagStore) (resource : String) : TagStore :=
  ⟨s.entries.filter (·.1 != resource)⟩

def set (s : TagStore) (resource : String) (tags : List Tag) : TagStore :=
  if tags = [] then s.clear resource
  else if s.has resource then
    ⟨s.entries.map fun e => if e.1 = resource then (e.1, tags) else e⟩
  else ⟨s.entries ++ [(resource, tags)]⟩

def tag (s : TagStore) (resource : String) (new : List Tag) : TagStore :=
  if new = [] then s else s.set resource (Tag.upsertAll (s.tags resource) new)

def untag (s : TagStore) (resource : String) (keys : List String) : TagStore :=
  if s.has resource then s.set resource (Tag.withoutKeys (s.tags resource) keys) else s

def tagMap (s : TagStore) (resource : String) : TextMap :=
  TextMap.ofList ((s.tags resource).map fun t => (t.key, t.value))

end TagStore

end ControlPlane
