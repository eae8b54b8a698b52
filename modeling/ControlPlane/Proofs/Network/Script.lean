import ControlPlane.Network.Script

/-!
What a computation asks of a network, and what becomes of it when a script answers in its place. A
script of exactly these questions and answers is used up and the outcome is the same. A script that
goes another way from some question on stops the computation there, and the entry that did not fit
is gone.
-/

namespace ControlPlane

namespace Exchange

def kind : Exchange → String
  | .vpc _ _ => "vpc"
  | .subnet _ _ => "subnet"
  | .securityGroup _ _ => "security group"

def askedId : Exchange → String
  | .vpc id _ => id
  | .subnet id _ => id
  | .securityGroup id _ => id

/-- The same question, whatever the answers to it are. -/
def SameQuestion (e f : Exchange) : Prop := e.kind = f.kind ∧ e.askedId = f.askedId

/-- How a question fails when the script goes on with `next`, or ends there. -/
def failure (asked : Exchange) (next : Option Exchange) : ScriptFailure :=
  match next with
  | none => .unexpected asked.kind asked.askedId
  | some e =>
    if e.kind = asked.kind then .otherId asked.kind e.askedId asked.askedId
    else .unexpected asked.kind asked.askedId

end Exchange

namespace Script

variable {id : String} {rest : List Exchange}

theorem takeVpc_cons (answer : Except NetworkFault Vpc) :
    (ofList (.vpc id answer :: rest)).takeVpc id = (.ok answer, ofList rest) := by
  simp [takeVpc, take, ofList]

theorem takeSubnet_cons (answer : Except NetworkFault Subnet) :
    (ofList (.subnet id answer :: rest)).takeSubnet id = (.ok answer, ofList rest) := by
  simp [takeSubnet, take, ofList]

theorem takeSecurityGroup_cons (answer : Except NetworkFault SecurityGroup) :
    (ofList (.securityGroup id answer :: rest)).takeSecurityGroup id =
      (.ok answer, ofList rest) := by
  simp [takeSecurityGroup, take, ofList]

def Differs (asked : Exchange) (rest : List Exchange) : Prop :=
  ∀ next ∈ rest.head?, ¬next.SameQuestion asked

/-- What is told of an entry by the match that a question makes: the kind of the question and the
entry's own id, or that it is of another kind. -/
def Reads {α : Type} (kind : String)
    (match? : Exchange → Option (String × Except NetworkFault α)) : Prop :=
  ∀ e, match match? e with
    | some found => e.kind = kind ∧ e.askedId = found.1
    | none => e.kind ≠ kind

theorem take_differs {α : Type} {match? : Exchange → Option (String × Except NetworkFault α)}
    {asked : Exchange} (reads : Reads asked.kind match?) (other : Differs asked rest) :
    (ofList rest).take asked.kind asked.askedId match? =
      (.error (asked.failure rest.head?), ofList rest.tail) := by
  cases rest with
  | nil => rfl
  | cons next rest =>
    have told := reads next
    cases found : match? next with
    | none =>
      rw [found] at told
      simp [take, ofList, found, Exchange.failure, told]
    | some entry =>
      rw [found] at told
      have apart : entry.1 ≠ asked.askedId := fun same => other next rfl ⟨told.1, told.2.trans same⟩
      simp [take, ofList, found, Exchange.failure, told.1, told.2, apart]

theorem takeVpc_differs {answer : Except NetworkFault Vpc} (other : Differs (.vpc id answer) rest) :
    (ofList rest).takeVpc id =
      (.error (Exchange.failure (.vpc id answer) rest.head?), ofList rest.tail) := by
  refine take_differs (fun e => ?_) other
  cases e with
  | vpc expected told => exact ⟨rfl, rfl⟩
  | subnet expected told => exact (by decide : "subnet" ≠ "vpc")
  | securityGroup expected told => exact (by decide : "security group" ≠ "vpc")

theorem takeSubnet_differs {answer : Except NetworkFault Subnet}
    (other : Differs (.subnet id answer) rest) :
    (ofList rest).takeSubnet id =
      (.error (Exchange.failure (.subnet id answer) rest.head?), ofList rest.tail) := by
  refine take_differs (fun e => ?_) other
  cases e with
  | vpc expected told => exact (by decide : "vpc" ≠ "subnet")
  | subnet expected told => exact ⟨rfl, rfl⟩
  | securityGroup expected told => exact (by decide : "security group" ≠ "subnet")

theorem takeSecurityGroup_differs {answer : Except NetworkFault SecurityGroup}
    (other : Differs (.securityGroup id answer) rest) :
    (ofList rest).takeSecurityGroup id =
      (.error (Exchange.failure (.securityGroup id answer) rest.head?), ofList rest.tail) := by
  refine take_differs (fun e => ?_) other
  cases e with
  | vpc expected told => exact (by decide : "vpc" ≠ "security group")
  | subnet expected told => exact (by decide : "subnet" ≠ "security group")
  | securityGroup expected told => exact ⟨rfl, rfl⟩

end Script

namespace Lookup

variable {α : Type} {view : NetworkView}

/-- The questions that a network is asked, in their order, each with its answer. -/
def trace (view : NetworkView) : Lookup α → List Exchange
  | .done _ => []
  | .vpc id next => .vpc id (view.vpc id) :: (next (view.vpc id)).trace view
  | .subnet id next => .subnet id (view.subnet id) :: (next (view.subnet id)).trace view
  | .securityGroup id next =>
    .securityGroup id (view.securityGroup id) :: (next (view.securityGroup id)).trace view

theorem replay_trace (view : NetworkView) (q : Lookup α) :
    q.replay (.ofList (q.trace view)) = (.ok (q.answer view), .ofList []) := by
  induction q with
  | done a => rfl
  | vpc id next ih =>
    simp only [trace, replay, Script.takeVpc_cons]
    exact ih _
  | subnet id next ih =>
    simp only [trace, replay, Script.takeSubnet_cons]
    exact ih _
  | securityGroup id next ih =>
    simp only [trace, replay, Script.takeSecurityGroup_cons]
    exact ih _

theorem replay_differs {q : Lookup α} {before after rest : List Exchange} {asked : Exchange}
    (traced : q.trace view = before ++ asked :: after) (other : Script.Differs asked rest) :
    q.replay (.ofList (before ++ rest)) =
      (.error (asked.failure rest.head?), .ofList rest.tail) := by
  -- The part of the trace that the script shares grows shorter with each question.
  induction q generalizing before with
  | done a => exact absurd traced.symm (List.append_ne_nil_of_right_ne_nil _ (List.cons_ne_nil _ _))
  | vpc id next ih =>
    cases before with
    | nil =>
      obtain ⟨rfl, -⟩ := List.cons.inj traced
      simp only [List.nil_append, replay, Script.takeVpc_differs other]
    | cons first before =>
      obtain ⟨rfl, others⟩ := List.cons.inj traced
      simp only [List.cons_append, replay, Script.takeVpc_cons]
      exact ih _ others
  | subnet id next ih =>
    cases before with
    | nil =>
      obtain ⟨rfl, -⟩ := List.cons.inj traced
      simp only [List.nil_append, replay, Script.takeSubnet_differs other]
    | cons first before =>
      obtain ⟨rfl, others⟩ := List.cons.inj traced
      simp only [List.cons_append, replay, Script.takeSubnet_cons]
      exact ih _ others
  | securityGroup id next ih =>
    cases before with
    | nil =>
      obtain ⟨rfl, -⟩ := List.cons.inj traced
      simp only [List.nil_append, replay, Script.takeSecurityGroup_differs other]
    | cons first before =>
      obtain ⟨rfl, others⟩ := List.cons.inj traced
      simp only [List.cons_append, replay, Script.takeSecurityGroup_cons]
      exact ih _ others

end Lookup

end ControlPlane
