import ControlPlane.Operation
import ControlPlane.Proofs.InPlace.Program
import ControlPlane.Text.Ascii

/-!
Operations in place, and the service of requests by them. A procedure performs an operation by a
computation that works on the state of the service. It is sound if the computation does what the
operation does; then requests that it serves have the same answers, and leave the state as it was
if they fail.
-/

namespace ControlPlane

open Program

/-- A way to run computations to their end. -/
structure Runner (m : Type → Type) [Monad m] where
  run : {α : Type} → m α → α
  run_pure : ∀ {α : Type} (a : α), run (pure a) = a
  run_bind : ∀ {α β : Type} (x : m α) (f : α → m β), run (x >>= f) = run (f (run x))

namespace Runner

def id : Runner Id := ⟨Id.run, fun _ => rfl, fun _ _ => rfl⟩

def answering (view : NetworkView) : Runner Lookup :=
  ⟨Lookup.answer view, fun _ => rfl, Lookup.answer_bind view⟩

end Runner

/-- An operation together with a computation that performs it in place. -/
structure Procedure (m : Type → Type) (σ ε : Type) where
  op : Operation m σ ε
  perform : Moment → op.Input → Program σ ε op.Output

namespace Procedure

variable {m : Type → Type} [Monad m] {σ ε α : Type} [Fault ε]

/-- Turns the failures of a service into those that a caller sees. -/
def relabel (p : Program σ ε α) : Program σ ServiceError α := ExceptT.adapt ServiceError.ofFault p

theorem exec_relabel (p : Program σ ε α) (s : σ) :
    (relabel p).exec s = ((p.exec s).1.mapError ServiceError.ofFault, (p.exec s).2) := by
  rfl

def serve (p : Procedure m σ ε) (at_ : Moment) (bag : Json) : Program σ ServiceError Json :=
  match p.op.input.decodeBag bag with
  | .error e => throw (.undecodable e)
  | .ok input => do return p.op.output.encode (← relabel (p.perform at_ input))

def serveBy (procedures : String → Option (Procedure m σ ε)) (at_ : Moment) (name : String)
    (bag : Json) : Program σ ServiceError Json :=
  match procedures name with
  | none => throw (.invalidAction name)
  | some p => p.serve at_ bag

def isReading (name : String) : Bool :=
  ["Describe", "Get", "List"].any fun start => Text.startsWith start name

/-- The procedures perform the operations of the catalog, and those with a name for reading write
nothing. -/
structure Sound (runner : Runner m) (procedures : String → Option (Procedure m σ ε))
    (c : Catalog m σ ε) : Prop where
  ops : ∀ name, (procedures name).map op = c name
  does : ∀ name p, procedures name = some p → ∀ at_ input,
    Does (p.perform at_ input) fun s => runner.run (p.op.run s at_ input)
  looks : ∀ name p, procedures name = some p → isReading name = true → ∀ at_ input s,
    ((p.perform at_ input).exec s).2 = s

variable {runner : Runner m} {procedures : String → Option (Procedure m σ ε)} {c : Catalog m σ ε}

theorem Sound.does_serveBy (h : Sound runner procedures c) (at_ : Moment) (name : String)
    (bag : Json) :
    Does (serveBy procedures at_ name bag) fun s => runner.run (c.serve s at_ name bag) := by
  intro s
  simp only [serveBy, Catalog.serve, ← h.ops]
  cases hp : procedures name with
  | none =>
    simp only [Option.map_none, runner.run_pure]
    rfl
  | some p =>
    simp only [Option.map_some, serve, Operation.serve]
    cases p.op.input.decodeBag bag with
    | error e =>
      simp only [runner.run_pure]
      rfl
    | ok input =>
      have done := h.does name p hp at_ input s
      rw [Ends] at done
      simp only [Ends, exec_bind, exec_relabel, done, runner.run_bind]
      cases runner.run (p.op.run s at_ input) with
      | error e =>
        simp only [runner.run_pure]
        rfl
      | ok r =>
        simp only [runner.run_pure]
        rfl

theorem Sound.state_of_reading (h : Sound runner procedures c) {name : String}
    (reading : isReading name = true) (at_ : Moment) (bag : Json) (s : σ) :
    ((serveBy procedures at_ name bag).exec s).2 = s := by
  rw [serveBy]
  cases hp : procedures name with
  | none => rfl
  | some p =>
    simp only [serve]
    cases p.op.input.decodeBag bag with
    | error e => rfl
    | ok input =>
      have same := h.looks name p hp reading at_ input s
      simp only [exec_bind, exec_relabel, same]
      cases ((p.perform at_ input).exec s).1 with
      | error e => rfl
      | ok a => rfl

end Procedure

end ControlPlane
