import ControlPlane.Json.Basic
import ControlPlane.Text.Numeral

/-!
Reading JSON text. A reader returns what it read and the characters after it. The grammar is
strict: blanks are space, tab, line feed and carriage return, a number has no leading zero, a
string holds no bare control character, and nothing but blanks follows the value.

Some values that the grammar allows cannot be held: a string in which half of a surrogate pair is
escaped, an object with such a string for a name, and a number out of range. Each of them is read as
null. `Json.read` keeps members as they are written; `Json.parse` gives the canonical value.

A number without point or exponent is an integer if it is a word of sixty-four bits, signed if it
has a sign; a zero with a sign is none. Any other number is read from as many of its first digits as
make such a word: these are rounded, and what is rounded is scaled by a power of ten.
-/

namespace ControlPlane.Json

def isBlank (c : Char) : Bool :=
  c = ' ' || c = '\t' || c = '\n' || c = '\r'

def skipBlanks (cs : List Char) : List Char :=
  cs.dropWhile isBlank

def hexValue? (c : Char) : Option Nat :=
  if c.isDigit then some (c.toNat - '0'.toNat)
  else if 'a' ≤ c && c ≤ 'f' then some (c.toNat - 'a'.toNat + 10)
  else if 'A' ≤ c && c ≤ 'F' then some (c.toNat - 'A'.toNat + 10)
  else none

def readUnit : List Char → Option (Nat × List Char)
  | a :: b :: c :: d :: rest => do
    let a ← hexValue? a
    let b ← hexValue? b
    let c ← hexValue? c
    let d ← hexValue? d
    pure (((a * 16 + b) * 16 + c) * 16 + d, rest)
  | _ => none

/-- The character of an escape, from just after its `\u`: one unit, or a surrogate pair. Half of a
pair is no character. -/
def readEscapedChar (cs : List Char) : Option (Option Char × List Char) := do
  let (high, rest) ← readUnit cs
  if 0xD800 ≤ high ∧ high < 0xDC00 then
    match rest with
    | '\\' :: 'u' :: after =>
      let (low, after) ← readUnit after
      if 0xDC00 ≤ low ∧ low < 0xE000 then
        pure (some (Char.ofNat (0x10000 + (high - 0xD800) * 0x400 + (low - 0xDC00))), after)
      else pure (none, rest)
    | _ => pure (none, rest)
  else if 0xDC00 ≤ high ∧ high < 0xE000 then pure (none, rest)
  else pure (some (Char.ofNat high), rest)

def shortEscape? (c : Char) : Option Char :=
  if c = '"' ∨ c = '\\' ∨ c = '/' then some c
  else if c = 'b' then some (Char.ofNat 8)
  else if c = 'f' then some (Char.ofNat 12)
  else if c = 'n' then some '\n'
  else if c = 'r' then some '\r'
  else if c = 't' then some '\t'
  else none

/-- A string from just after its opening quote; `taken` holds the text so far, backwards, as long
as all of it are characters. -/
def readString : Nat → Option (List Char) → List Char → Option (Option String × List Char)
  | 0, _, _ => none
  | _ + 1, _, [] => none
  | fuel + 1, taken, c :: rest =>
    if c = '"' then some (taken.map fun cs => String.ofList cs.reverse, rest)
    else if c = '\\' then
      match rest with
      | 'u' :: rest => do
        let (c, rest) ← readEscapedChar rest
        readString fuel (do return (← c) :: (← taken)) rest
      | e :: rest => do
        let c ← shortEscape? e
        readString fuel (taken.map (c :: ·)) rest
      | [] => none
    else if c.toNat < 32 then none
    else readString fuel (taken.map (c :: ·)) rest

def readFraction : List Char → Option (List Char × List Char)
  | '.' :: rest =>
    match rest.takeWhile Char.isDigit with
    | [] => none
    | decimals => some (decimals, rest.dropWhile Char.isDigit)
  | cs => some ([], cs)

def readSignedDigits (negative : Bool) (cs : List Char) : Option (Option Int × List Char) :=
  (Text.readDigits (cs.takeWhile Char.isDigit)).map fun n =>
    (some (if negative then -(n : Int) else n), cs.dropWhile Char.isDigit)

def readExponent : List Char → Option (Option Int × List Char)
  | [] => some (none, [])
  | c :: rest =>
    if c = 'e' ∨ c = 'E' then
      match rest with
      | '+' :: digits => readSignedDigits false digits
      | '-' :: digits => readSignedDigits true digits
      | digits => readSignedDigits false digits
    else some (none, c :: rest)

/-- Appends digits to a number as long as it stays a word of sixty-four bits; the digits from the
first that does not fit are left. -/
def appendDigits : Nat → List Char → Nat × List Char
  | n, [] => (n, [])
  | n, c :: rest =>
    let n' := n * 10 + (c.toNat - '0'.toNat)
    if n' ≤ Text.greatestWord64 then appendDigits n' rest else (n, c :: rest)

def integer (negative : Bool) (n : Nat) : Json :=
  if negative then
    if n = 0 ∨ n > 2 ^ 63 then .float (.ofNat true n) else .int (-(n : Int))
  else .int n

/-- The number of double precision with the given digits before and after its point. Each digit that
is left over before the point counts as a power of ten, and each that is used after it takes one
back. -/
def fraction (negative : Bool) (whole decimals : List Char) (exponent : Int) : Json :=
  let (n, left) := appendDigits 0 whole
  let (n, unused) := appendDigits n decimals
  let power := exponent + left.length + unused.length - decimals.length
  match (Binary64.ofNat negative n).scaled? power with
  | some x => .float x
  | none => .null

def readUnsigned (negative : Bool) (cs : List Char) : Option (Json × List Char) := do
  let whole := cs.takeWhile Char.isDigit
  if whole = [] ∨ (whole.length > 1 ∧ whole.head? = some '0') then none
  else
    let (decimals, rest) ← readFraction (cs.dropWhile Char.isDigit)
    let (exponent, rest) ← readExponent rest
    let (n, left) := appendDigits 0 whole
    if left = [] ∧ decimals = [] ∧ exponent = none then pure (integer negative n, rest)
    else pure (fraction negative whole decimals (exponent.getD 0), rest)

def readNumber : List Char → Option (Json × List Char)
  | '-' :: rest => readUnsigned true rest
  | cs => readUnsigned false cs

def ofText : Option String → Json
  | some s => .str s
  | none => .null

/-- An object is null if one of its names stands for no text. -/
def ofMembers (members : List (Option String × Json)) : Json :=
  match members.mapM fun (name, j) => name.map fun s => (s, j) with
  | some members => .obj members
  | none => .null

def readWord (word : String) (value : Json) (cs : List Char) : Option (Json × List Char) :=
  if word.toList.isPrefixOf cs then some (value, cs.drop word.length) else none

mutual

def readValue : Nat → List Char → Option (Json × List Char)
  | 0, _ => none
  | fuel + 1, cs =>
    match skipBlanks cs with
    | '"' :: rest => (readString fuel (some []) rest).map fun (s, rest) => (ofText s, rest)
    | '[' :: rest =>
      match skipBlanks rest with
      | ']' :: rest => some (.arr [], rest)
      | rest => (readItems fuel rest).map fun (items, rest) => (.arr items, rest)
    | '\x7b' :: rest =>
      match skipBlanks rest with
      | '\x7d' :: rest => some (.obj [], rest)
      | rest => (readMembers fuel rest).map fun (members, rest) => (ofMembers members, rest)
    | 't' :: rest => readWord "true" (.bool true) ('t' :: rest)
    | 'f' :: rest => readWord "false" (.bool false) ('f' :: rest)
    | 'n' :: rest => readWord "null" .null ('n' :: rest)
    | cs => readNumber cs

def readItems : Nat → List Char → Option (List Json × List Char)
  | 0, _ => none
  | fuel + 1, cs => do
    let (j, rest) ← readValue fuel cs
    match skipBlanks rest with
    | ',' :: rest =>
      let (items, rest) ← readItems fuel rest
      pure (j :: items, rest)
    | ']' :: rest => pure ([j], rest)
    | _ => none

def readMembers : Nat → List Char → Option (List (Option String × Json) × List Char)
  | 0, _ => none
  | fuel + 1, cs =>
    match skipBlanks cs with
    | '"' :: rest => do
      let (name, rest) ← readString fuel (some []) rest
      match skipBlanks rest with
      | ':' :: rest =>
        let (j, rest) ← readValue fuel rest
        match skipBlanks rest with
        | ',' :: rest =>
          let (members, rest) ← readMembers fuel rest
          pure ((name, j) :: members, rest)
        | '\x7d' :: rest => pure ([(name, j)], rest)
        | _ => none
      | _ => none
    | _ => none

end

/-- The value that a whole text denotes, its members as they are written. -/
def read (text : String) : Option Json :=
  let cs := text.toList
  match readValue (2 * cs.length + 2) cs with
  | some (j, rest) => if skipBlanks rest = [] then some j else none
  | none => none

/-- The value that a whole text denotes, in canonical form. -/
def parse (text : String) : Option Json :=
  (read text).map canonical

end ControlPlane.Json
