import ControlPlane.Pattern.Basic
import ControlPlane.Text.WhiteSpace

/-!
Documented patterns, read from their sources. A source is cut into tokens, the tokens are read as
an expression, and an expression matches a part of a text that stands between what comes before it
and what comes after it.

What the notation leaves open is settled here: a dot is any character but a line feed, a `d` after
a backslash is an ASCII digit and an `s` is Unicode white space, a dollar sign is the very end of
the text, and a hyphen in a set that cannot be the middle of a range is a hyphen. Notation on which
dialects differ and which no source uses (lazy and possessive counts, nested sets, named groups)
is not read.
-/

namespace ControlPlane.Pattern

inductive ClassItem where
  | single (c : Char)
  | range (least greatest : Char)
  | digit
  | blank
deriving DecidableEq

def ClassItem.has : ClassItem → Char → Bool
  | single d, c => c == d
  | range least greatest, c => least ≤ c && c ≤ greatest
  | digit, c => '0' ≤ c && c ≤ '9'
  | blank, c => Text.isWhiteSpace c

namespace ClassItem

variable (c d : Char)

@[simp]
theorem has_single : (single d).has c = (c == d) := rfl

@[simp]
theorem has_digit : digit.has c = c.isDigit := rfl

@[simp]
theorem has_blank : blank.has c = Text.isWhiteSpace c := rfl

@[simp]
theorem has_digits : (range '0' '9').has c = c.isDigit := rfl

@[simp]
theorem has_lower : (range 'a' 'z').has c = c.isLower := rfl

@[simp]
theorem has_upper : (range 'A' 'Z').has c = c.isUpper := by
  rw [has, ← Bool.decide_and]
  rfl

end ClassItem

inductive Expression where
  | empty
  | start
  | finish
  | wild
  | set (isNegated : Bool) (items : List ClassItem)
  | seq (e f : Expression)
  | alt (e f : Expression)
  | group (e : Expression)
  | repeated (e : Expression) (least : Nat) (greatest : Option Nat)
  | ahead (e : Expression)
  | notAhead (e : Expression)
deriving DecidableEq

def inSet (isNegated : Bool) (items : List ClassItem) (c : Char) : Bool :=
  items.any (·.has c) != isNegated

/-- The relation `n` times over, each time on what the time before has left. -/
def Iterated (step : List Char → List Char → List Char → Prop) :
    Nat → List Char → List Char → List Char → Prop
  | 0, _, w, _ => w = []
  | n + 1, before, w, after =>
    ∃ u v, w = u ++ v ∧ step before u (v ++ after) ∧ Iterated step n (before ++ u) v after

/-- The expression matches `w`, in a text where `before` precedes it and `after` follows. -/
def Expression.Matches : Expression → List Char → List Char → List Char → Prop
  | empty, _, w, _ => w = []
  | start, before, w, _ => w = [] ∧ before = []
  | finish, _, w, after => w = [] ∧ after = []
  | wild, _, w, _ => ∃ c, w = [c] ∧ c ≠ '\n'
  | set isNegated items, _, w, _ => ∃ c, w = [c] ∧ inSet isNegated items c = true
  | seq e f, before, w, after =>
    ∃ u v, w = u ++ v ∧ e.Matches before u (v ++ after) ∧ f.Matches (before ++ u) v after
  | alt e f, before, w, after => e.Matches before w after ∨ f.Matches before w after
  | group e, before, w, after => e.Matches before w after
  | repeated e least greatest, before, w, after =>
    ∃ n, least ≤ n ∧ (∀ most ∈ greatest, n ≤ most) ∧ Iterated e.Matches n before w after
  | ahead e, before, w, after => w = [] ∧ ∃ u v, after = u ++ v ∧ e.Matches before u v
  | notAhead e, before, w, after => w = [] ∧ ¬ ∃ u v, after = u ++ v ∧ e.Matches before u v

def Expression.MatchesWhole (e : Expression) (s : String) : Prop := e.Matches [] s.toList []

inductive Group where
  | plain
  | ahead
  | notAhead

def Group.wrap : Group → Expression → Expression
  | plain => .group
  | ahead => .ahead
  | notAhead => .notAhead

inductive Token where
  | one (e : Expression)
  | opening (g : Group)
  | closing
  | bar
  | count (least : Nat) (greatest : Option Nat)

def Token.ofChar : Char → Token
  | ')' => .closing
  | '|' => .bar
  | '*' => .count 0 none
  | '+' => .count 1 none
  | '?' => .count 0 (some 1)
  | '.' => .one .wild
  | '^' => .one .start
  | '$' => .one .finish
  | c => .one (.set false [.single c])

def Group.ofChar? : Char → Option Group
  | ':' => some .plain
  | '=' => some .ahead
  | '!' => some .notAhead
  | _ => none

def ClassItem.escaped? : Char → Option ClassItem
  | 'd' => some .digit
  | 's' => some .blank
  | c => if c.isAlphanum then none else some (.single c)

/-- Where the reader is: outside of sets and counts, in a set with its items so far (the last
first), or in a count before or after its comma. -/
inductive Mode where
  | outside
  | items (isNegated : Bool) (found : List ClassItem)
  | least (n : Option Nat)
  | greatest (least : Nat) (n : Option Nat)

def withDigit (n : Option Nat) (c : Char) : Option Nat := some (10 * n.getD 0 + (c.toNat - 48))

def tokens : Mode → List Char → Option (List Token)
  | .outside, [] => some []
  | _, [] => none
  | .outside, '(' :: '?' :: c :: cs => do
    let g ← Group.ofChar? c
    return .opening g :: (← tokens .outside cs)
  | .outside, '(' :: cs => (tokens .outside cs).map (.opening .plain :: ·)
  | .outside, '[' :: '^' :: cs => tokens (.items true []) cs
  | .outside, '[' :: cs => tokens (.items false []) cs
  | .outside, '\\' :: c :: cs => do
    let item ← ClassItem.escaped? c
    return .one (.set false [item]) :: (← tokens .outside cs)
  | .outside, c :: cs =>
    if c = '\\' then none
    else if c = '\x7b' then tokens (.least none) cs
    else (tokens .outside cs).map (Token.ofChar c :: ·)
  | .items isNegated found, ']' :: cs =>
    if found.isEmpty then none
    else (tokens .outside cs).map (.one (.set isNegated found.reverse) :: ·)
  | .items isNegated found, '\\' :: c :: '-' :: ']' :: cs => do
    let item ← ClassItem.escaped? c
    let set := Expression.set isNegated (.single '-' :: item :: found).reverse
    return .one set :: (← tokens .outside cs)
  | .items _ _, '\\' :: _ :: '-' :: _ => none
  | .items isNegated found, '\\' :: c :: cs => do
    tokens (.items isNegated ((← ClassItem.escaped? c) :: found)) cs
  | .items isNegated found, a :: '-' :: ']' :: cs =>
    (tokens .outside cs).map
      (.one (.set isNegated (.single '-' :: .single a :: found).reverse) :: ·)
  | .items isNegated found, a :: '-' :: b :: cs =>
    if a ≤ b && b != '\\' && b != '[' then
      tokens (.items isNegated (.range a b :: found)) cs
    else none
  | .items isNegated found, c :: cs =>
    if c = '\\' || c = '[' then none
    else tokens (.items isNegated (.single c :: found)) cs
  | .least n, c :: cs =>
    if c.isDigit then tokens (.least (withDigit n c)) cs
    else do
      let least ← n
      if c = ',' then tokens (.greatest least none) cs
      else if c = '\x7d' then return .count least (some least) :: (← tokens .outside cs)
      else none
  | .greatest least n, c :: cs =>
    if c.isDigit then tokens (.greatest least (withDigit n c)) cs
    else if c = '\x7d' then (tokens .outside cs).map (.count least n :: ·)
    else none
termination_by structural _ cs => cs

/-- What has been read of a group: the alternatives that are complete and the parts of the one that
is not, both with the last first. -/
structure Frame where
  choices : List Expression := []
  parts : List Expression := []

def combined (f : Expression → Expression → Expression) : List Expression → Expression
  | [] => .empty
  | [e] => e
  | e :: d :: es => f e (combined f (d :: es))

def Expression.isCountable : Expression → Bool
  | wild | set _ _ | group _ => true
  | _ => false

namespace Frame

def push (f : Frame) (e : Expression) : Frame := { f with parts := e :: f.parts }

def split (f : Frame) : Frame := ⟨combined .seq f.parts.reverse :: f.choices, []⟩

def expression (f : Frame) : Expression := combined .alt f.split.choices.reverse

/-- Only a character, a set or a group can be counted, and only once. -/
def repeatLast (f : Frame) (least : Nat) (greatest : Option Nat) : Option Frame :=
  match f.parts with
  | [] => none
  | e :: es =>
    if e.isCountable then some { f with parts := .repeated e least greatest :: es } else none

end Frame

/-- Reads tokens into the group that is open; the groups around it wait, the innermost first. -/
def parse : List Token → Frame → List (Group × Frame) → Option Expression
  | [], f, [] => some f.expression
  | [], _, _ :: _ => none
  | .one e :: ts, f, outer => parse ts (f.push e) outer
  | .opening g :: ts, f, outer => parse ts {} ((g, f) :: outer)
  | .closing :: _, _, [] => none
  | .closing :: ts, f, (g, around) :: outer => parse ts (around.push (g.wrap f.expression)) outer
  | .bar :: ts, f, outer => parse ts f.split outer
  | .count least greatest :: ts, f, outer => do
    parse ts (← f.repeatLast least greatest) outer

def Expression.read (source : String) : Option Expression := do
  parse (← tokens .outside source.toList) {} []

/-- The pattern accepts the texts that its source, as it is read, matches as a whole. -/
def Enforced (p : Pattern) : Prop :=
  ∃ e, Expression.read p.source = some e ∧ ∀ s, p.accepts s = true ↔ e.MatchesWhole s

end ControlPlane.Pattern
