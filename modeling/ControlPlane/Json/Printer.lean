import ControlPlane.Binary64.Shortest
import ControlPlane.Json.Basic
import ControlPlane.Text.Numeral

/-!
Compact JSON text: no blanks, members in the order they have, characters above U+007E as they are.
Inside a string the quote, the backslash and the control characters are escaped, the latter by
their short names where they have one. A number of double precision shows the digits of its shortest
decimal, with a point while its first digit stands between the fifth place after the point and the
sixteenth before it, and else with an exponent that has a sign.
-/

namespace ControlPlane

namespace Decimal

/-- At least one digit stands on either side of the point. -/
def positional (d : Decimal) : String :=
  let places := max 1 (-d.exponent).toNat
  let digits := d.digits * 10 ^ (d.exponent + places).toNat
  toString (digits / 10 ^ places) ++ "." ++ Text.decimalPadded places (digits % 10 ^ places)

/-- One digit stands before the point, and no point where it is the only one. -/
def scientific (d : Decimal) : String :=
  let e := d.leadingExponent
  let mantissa := match Nat.toDigits 10 d.digits with
    | first :: second :: rest => first :: '.' :: second :: rest
    | digits => digits
  String.ofList mantissa ++ "e" ++ (if e < 0 then "-" else "+") ++ toString e.natAbs

def isPositional (d : Decimal) : Bool :=
  -5 ≤ d.leadingExponent && d.leadingExponent < 16

end Decimal

def Binary64.text (x : Binary64) : String :=
  let d := x.shortest
  (if x.negative then "-" else "") ++ if d.isPositional then d.positional else d.scientific

namespace Json

def escapeChar (c : Char) : String :=
  if c = '"' then "\\\""
  else if c = '\\' then "\\\\"
  else if c = '\n' then "\\n"
  else if c = '\r' then "\\r"
  else if c = '\t' then "\\t"
  else if c.toNat = 8 then "\\b"
  else if c.toNat = 12 then "\\f"
  else if c.toNat < 32 then "\\u" ++ Text.hexadecimal 4 c.toNat
  else c.toString

def quote (s : String) : String :=
  "\"" ++ String.join (s.toList.map escapeChar) ++ "\""

mutual

def render : Json → String
  | .null => "null"
  | .bool b => if b then "true" else "false"
  | .int n => toString n
  | .float x => x.text
  | .str s => quote s
  | .arr items => "[" ++ String.intercalate "," (renderItems items) ++ "]"
  | .obj members => "\x7b" ++ String.intercalate "," (renderMembers members) ++ "\x7d"

def renderItems : List Json → List String
  | [] => []
  | j :: rest => render j :: renderItems rest

def renderMembers : List (String × Json) → List String
  | [] => []
  | (name, j) :: rest => (quote name ++ ":" ++ render j) :: renderMembers rest

end

end Json

end ControlPlane
