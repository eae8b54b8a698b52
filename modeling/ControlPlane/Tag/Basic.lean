import ControlPlane.Json.Record
import ControlPlane.Pattern.Basic
import ControlPlane.Text.Category
import ControlPlane.Validation.Findings

/-!
Tags, and what a list of tags given with a request must satisfy: each key has at most 128
characters, all of them letters, numbers, separators or one of `_.:/=+-@`, each value has at most
256, and where there is a limit other than zero the list has no more entries than that, repeated
keys counted each time.
-/

namespace ControlPlane

structure Tag where
  key : String
  value : String
  deriving Repr, DecidableEq

namespace Tag

def record : Record Tag Tag :=
  (Record.start Tag.mk)
    |>.required "Key" .text (·.key)
    |>.defaulted "Value" .text "" (·.value)

def codec : Codec Tag := record.codec

def isKeyChar (c : Char) : Bool :=
  Text.isLetter c || Text.isSeparator c || Text.isNumber c || "_.:/=+-@".toList.contains c

def keyPattern : Pattern :=
  .ofRegex "^([\\p\x7bL\x7d\\p\x7bZ\x7d\\p\x7bN\x7d_.:/=+\\-@]*)$" (.star (.chars isKeyChar))

def checksAt (position : Nat) (t : Tag) : List Check :=
  let member := "tags." ++ toString position ++ ".member."
  [.of (member ++ "key") t.key (.lengthAtMost 128),
    .of (member ++ "key") t.key (.satisfies keyPattern),
    .of (member ++ "value") t.value (.lengthAtMost 256)]

def checksFrom : Nat → List Tag → List Check
  | _, [] => []
  | position, t :: rest => checksAt position t ++ checksFrom (position + 1) rest

def countCheck (tags : List Tag) (limit : Nat) : Check :=
  .of "tags" (tags.map (·.key)) fun _ =>
    if limit > 0 ∧ tags.length > limit then
      some ("have length less than or equal to " ++ toString limit)
    else none

/-- A limit of zero is no limit. -/
def validate (tags : List Tag) (limit : Nat) : Except ValidationError Unit :=
  ControlPlane.validate (checksFrom 1 tags ++ [countCheck tags limit])

def ofMap (m : TextMap) : List Tag :=
  m.entries.map fun e => ⟨e.1, e.2⟩

end Tag

end ControlPlane
