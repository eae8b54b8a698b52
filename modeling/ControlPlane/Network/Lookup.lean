import ControlPlane.Network.Service

/-!
What other services ask of the network: a computation that looks up clouds, subnets and security
groups by id, each next question depending on the answers so far. The same computation can be
answered by a network as it stands, or by a script of expected questions.
-/

namespace ControlPlane

inductive Lookup (α : Type) : Type where
  | done (a : α)
  | vpc (id : String) (next : Except NetworkFault Vpc → Lookup α)
  | subnet (id : String) (next : Except NetworkFault Subnet → Lookup α)
  | securityGroup (id : String) (next : Except NetworkFault SecurityGroup → Lookup α)

namespace Lookup

variable {α β γ : Type}

def andThen (q : Lookup α) (f : α → Lookup β) : Lookup β :=
  match q with
  | done a => f a
  | vpc id next => vpc id fun r => (next r).andThen f
  | subnet id next => subnet id fun r => (next r).andThen f
  | securityGroup id next => securityGroup id fun r => (next r).andThen f

instance : Monad Lookup where
  pure := done
  bind := andThen

theorem andThen_done (q : Lookup α) : q.andThen done = q := by
  induction q with
  | done a => rfl
  | vpc id next ih => simp only [andThen, ih]
  | subnet id next ih => simp only [andThen, ih]
  | securityGroup id next ih => simp only [andThen, ih]

theorem andThen_andThen (q : Lookup α) (f : α → Lookup β) (g : β → Lookup γ) :
    (q.andThen f).andThen g = q.andThen fun a => (f a).andThen g := by
  induction q with
  | done a => rfl
  | vpc id next ih => simp only [andThen, ih]
  | subnet id next ih => simp only [andThen, ih]
  | securityGroup id next ih => simp only [andThen, ih]

theorem bind_eq (q : Lookup α) (f : α → Lookup β) : q >>= f = q.andThen f := rfl

theorem pure_eq (a : α) : (pure a : Lookup α) = done a := rfl

instance : LawfulMonad Lookup :=
  LawfulMonad.mk' Lookup (fun q => andThen_done q) (fun _ _ => rfl) fun q f g =>
    andThen_andThen q f g

def askVpc (id : String) : Lookup (Except NetworkFault Vpc) := vpc id done

def askSubnet (id : String) : Lookup (Except NetworkFault Subnet) := subnet id done

def askSecurityGroup (id : String) : Lookup (Except NetworkFault SecurityGroup) :=
  securityGroup id done

def askSubnets : List String → Lookup (Except NetworkFault (List Subnet))
  | [] => pure (.ok [])
  | id :: rest => do
    match ← askSubnet id with
    | .error e => pure (.error e)
    | .ok n =>
      match ← askSubnets rest with
      | .error e => pure (.error e)
      | .ok ns => pure (.ok (n :: ns))

def zoneCount (ns : List Subnet) : Nat := (ns.map Subnet.zone).eraseDups.length

def askZoneCount (ids : List String) : Lookup (Except NetworkFault Nat) := do
  match ← askSubnets ids with
  | .error e => pure (.error e)
  | .ok ns => pure (.ok (zoneCount ns))

def orElseFail {ε : Type} (q : Lookup (Except NetworkFault α)) (fault : ε) :
    ExceptT ε Lookup α :=
  ExceptT.mk do
    match ← q with
    | .ok a => pure (.ok a)
    | .error _ => pure (.error fault)

end Lookup

/-- Answers to all questions. -/
structure NetworkView where
  vpc : String → Except NetworkFault Vpc
  subnet : String → Except NetworkFault Subnet
  securityGroup : String → Except NetworkFault SecurityGroup

def NetworkService.view (s : NetworkService) : NetworkView :=
  ⟨s.vpc, s.subnet, s.securityGroup⟩

namespace Lookup

def answer {α : Type} (view : NetworkView) : Lookup α → α
  | done a => a
  | vpc id next => (next (view.vpc id)).answer view
  | subnet id next => (next (view.subnet id)).answer view
  | securityGroup id next => (next (view.securityGroup id)).answer view

theorem answer_bind {α β : Type} (view : NetworkView) (q : Lookup α) (f : α → Lookup β) :
    (q >>= f).answer view = (f (q.answer view)).answer view := by
  rw [bind_eq]
  induction q with
  | done a => rfl
  | vpc id next ih => exact ih _
  | subnet id next ih => exact ih _
  | securityGroup id next ih => exact ih _

end Lookup

end ControlPlane
