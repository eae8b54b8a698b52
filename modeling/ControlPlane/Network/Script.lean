import ControlPlane.Network.Lookup

/-!
Scripts for lookups: a queue of questions in the order in which they must come, each with the
answer it gets. A question that differs from the one at the head of the queue stops the run, and the
head is taken off all the same. A script whose final check found questions left is of no more use.
-/

namespace ControlPlane

inductive Exchange where
  | vpc (id : String) (answer : Except NetworkFault Vpc)
  | subnet (id : String) (answer : Except NetworkFault Subnet)
  | securityGroup (id : String) (answer : Except NetworkFault SecurityGroup)

inductive ScriptFailure where
  | unexpected (kind id : String)
  | otherId (kind expected actual : String)
  | remaining (n : Nat)
  | spoiled
  deriving Repr, DecidableEq

def ScriptFailure.message : ScriptFailure → String
  | unexpected kind id =>
    "Unexpected request or expectation mismatch: " ++ kind ++ " '" ++ id ++ "'"
  | otherId kind expected actual =>
    "Unexpected " ++ kind ++ " lookup: expected '" ++ expected ++ "', got '" ++ actual ++ "'"
  | remaining n => "Not all expectations were met. " ++ toString n ++ " remaining"
  | spoiled => "called `Result::unwrap()` on an `Err` value: PoisonError \x7b .. \x7d"

structure Script where
  pending : List Exchange
  isSpoiled : Bool

namespace Script

def ofList (pending : List Exchange) : Script := ⟨pending, false⟩

def verify (s : Script) : Except ScriptFailure Unit × Script :=
  if s.isSpoiled then (.error .spoiled, s)
  else if s.pending = [] then (.ok (), s)
  else (.error (.remaining s.pending.length), { s with isSpoiled := true })

/-- Takes the head off the queue and compares it with a question about `id`; `match?` gives the id
and the answer of an expectation of the right kind. -/
def take {α : Type} (s : Script) (kind id : String)
    (match? : Exchange → Option (String × Except NetworkFault α)) :
    Except ScriptFailure (Except NetworkFault α) × Script :=
  if s.isSpoiled then (.error .spoiled, s)
  else
    match s.pending with
    | [] => (.error (.unexpected kind id), s)
    | head :: rest =>
      let s' : Script := { s with pending := rest }
      match match? head with
      | none => (.error (.unexpected kind id), s')
      | some (expected, answer) =>
        if expected = id then (.ok answer, s')
        else (.error (.otherId kind expected id), s')

def takeVpc (s : Script) (id : String) :
    Except ScriptFailure (Except NetworkFault Vpc) × Script :=
  s.take "vpc" id fun
    | .vpc expected answer => some (expected, answer)
    | _ => none

def takeSubnet (s : Script) (id : String) :
    Except ScriptFailure (Except NetworkFault Subnet) × Script :=
  s.take "subnet" id fun
    | .subnet expected answer => some (expected, answer)
    | _ => none

def takeSecurityGroup (s : Script) (id : String) :
    Except ScriptFailure (Except NetworkFault SecurityGroup) × Script :=
  s.take "security group" id fun
    | .securityGroup expected answer => some (expected, answer)
    | _ => none

end Script

/-- Runs a computation on the answers of a script. -/
def Lookup.replay {α : Type} : Lookup α → Script → Except ScriptFailure α × Script
  | .done a, s => (.ok a, s)
  | .vpc id next, s =>
    match s.takeVpc id with
    | (.error e, s') => (.error e, s')
    | (.ok answer, s') => (next answer).replay s'
  | .subnet id next, s =>
    match s.takeSubnet id with
    | (.error e, s') => (.error e, s')
    | (.ok answer, s') => (next answer).replay s'
  | .securityGroup id next, s =>
    match s.takeSecurityGroup id with
    | (.error e, s') => (.error e, s')
    | (.ok answer, s') => (next answer).replay s'

end ControlPlane
