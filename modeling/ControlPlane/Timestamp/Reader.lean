import ControlPlane.Text.Ascii
import ControlPlane.Text.WhiteSpace
import ControlPlane.Timestamp.Basic

/-!
Reading moments of time: a date, the letter T or a blank, a time of day and the offset of the clocks
that show it. Numbers may be short of digits, white space may stand before numbers and before most
signs between them, and of a fraction of a second the first nine digits count. An offset is the
letter Z, the letters UTC, or a sign with hours and minutes.
-/

namespace ControlPlane

namespace Timestamp

def skipSpace (cs : List Char) : List Char := cs.dropWhile Text.isWhiteSpace

def readShort (width : Nat) (cs : List Char) : Option (Nat × List Char) :=
  let digits := (cs.take width).takeWhile Char.isDigit
  (Text.readDigits digits).map fun n => (n, cs.drop digits.length)

def readLong (cs : List Char) : Option (Nat × List Char) :=
  (Text.readDigits (cs.takeWhile Char.isDigit)).map fun n => (n, cs.dropWhile Char.isDigit)

def readTwo (cs : List Char) : Option (Nat × List Char) := readShort 2 (skipSpace cs)

/-- A sign, before which white space may stand. -/
def expect (sign : Char) (cs : List Char) : Option (List Char) :=
  match skipSpace cs with
  | c :: rest => if c = sign then some rest else none
  | [] => none

/-- Four digits at most, or a sign and any number of digits. -/
def readYear (cs : List Char) : Option (Int × List Char) :=
  match skipSpace cs with
  | '-' :: rest => (readLong rest).map fun (n, rest) => (-(n : Int), rest)
  | '+' :: rest => (readLong rest).map fun (n, rest) => ((n : Int), rest)
  | cs => (readShort 4 cs).map fun (n, rest) => ((n : Int), rest)

def readDate (cs : List Char) : Option (Date × List Char) := do
  let (year, cs) ← readYear cs
  let cs ← expect '-' cs
  let (month, cs) ← readTwo cs
  let cs ← expect '-' cs
  let (day, cs) ← readTwo cs
  pure (⟨year, month, day⟩, cs)

def readFraction : List Char → Option (Nat × List Char)
  | '.' :: cs =>
    let digits := (cs.take 9).takeWhile Char.isDigit
    (Text.readDigits digits).map fun n =>
      (n * 10 ^ (9 - digits.length), cs.dropWhile Char.isDigit)
  | cs => some (0, cs)

def readTimeOfDay (cs : List Char) : Option (TimeOfDay × List Char) := do
  let (hour, cs) ← readTwo cs
  let cs ← expect ':' cs
  let (minute, cs) ← readTwo cs
  let cs ← expect ':' cs
  let (second, cs) ← readTwo cs
  let (nanosecond, cs) ← readFraction cs
  pure (⟨hour, minute, second, nanosecond⟩, cs)

def readPair : List Char → Option (Nat × List Char)
  | a :: b :: cs => (Text.readDigits [a, b]).map fun n => (n, cs)
  | _ => none

/-- Less than a day in hours and minutes, between which colons and white space may stand. -/
def readHoursMinutes (cs : List Char) : Option (Int × List Char) := do
  let (hours, cs) ← readPair cs
  let (minutes, cs) ← readPair (cs.dropWhile fun c => c == ':' || Text.isWhiteSpace c)
  if hours < 24 ∧ minutes < 60 then pure ((hours * 60 + minutes : Nat), cs) else none

/-- An offset in minutes; a minus may also be the mathematical sign. -/
def readOffset (cs : List Char) : Option (Int × List Char) :=
  if (cs.take 3).map Char.toLower = ['u', 't', 'c'] then some (0, cs.drop 3)
  else
    match cs with
    | [] => none
    | c :: rest =>
      if c = 'Z' ∨ c = 'z' then some (0, rest)
      else if c = '+' then readHoursMinutes rest
      else if c = '-' ∨ c = Char.ofNat 0x2212 then
        (readHoursMinutes rest).map fun (n, rest) => (-n, rest)
      else none

def readChars (cs : List Char) : Option Timestamp := do
  let (date, cs) ← readDate cs
  match cs with
  | c :: cs =>
    if c = 'T' ∨ c = 't' ∨ c = ' ' then
      let (time, cs) ← readTimeOfDay cs
      let (offset, cs) ← readOffset (skipSpace cs)
      if skipSpace cs = [] then ofLocal? date time offset else none
    else none
  | [] => none

def parse? (s : String) : Option Timestamp := readChars s.toList

def codec : Codec Timestamp := .ofText text parse?

end Timestamp

end ControlPlane
