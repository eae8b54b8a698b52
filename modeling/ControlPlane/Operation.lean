import ControlPlane.Fault
import ControlPlane.Identifier

/-!
Operations of a service. An operation reads its input from a bag of parameters, runs on the state of
its service and writes its output; what it may ask of the outside is the monad it runs in. A run
that fails has no new state, so the state stays as it was.
-/

namespace ControlPlane

structure Operation (m : Type → Type) (σ ε : Type) where
  Input : Type
  Output : Type
  input : Codec Input
  output : Codec Output
  run : σ → Moment → Input → m (Except ε (Output × σ))

namespace Operation

variable {m : Type → Type} [Monad m] {σ ε : Type}

/-- Serves a bag of parameters: the answer as JSON and the state after it. -/
def serve [Fault ε] (op : Operation m σ ε) (s : σ) (at_ : Moment) (bag : Json) :
    m (Except ServiceError (Json × σ)) :=
  match op.input.decodeBag bag with
  | .error e => pure (.error (.undecodable e))
  | .ok input => do
    match ← op.run s at_ input with
    | .error e => pure (.error (.ofFault e))
    | .ok (output, s') => pure (.ok (op.output.encode output, s'))

def reading {Input Output : Type} (input : Codec Input) (output : Codec Output)
    (look : σ → Input → Except ε Output) : Operation m σ ε where
  Input := Input
  Output := Output
  input := input
  output := output
  run s _ i := pure ((look s i).map fun o => (o, s))

def writing {Input Output : Type} (input : Codec Input) (output : Codec Output)
    (run : σ → Moment → Input → Except ε (Output × σ)) : Operation m σ ε where
  Input := Input
  Output := Output
  input := input
  output := output
  run s at_ i := pure (run s at_ i)

end Operation

abbrev Catalog (m : Type → Type) (σ ε : Type) := String → Option (Operation m σ ε)

/-- Serves a request by name; the name is looked at before the bag. -/
def Catalog.serve {m : Type → Type} [Monad m] {σ ε : Type} [Fault ε] (c : Catalog m σ ε) (s : σ)
    (at_ : Moment) (name : String) (bag : Json) : m (Except ServiceError (Json × σ)) :=
  match c name with
  | none => pure (.error (.invalidAction name))
  | some op => op.serve s at_ bag

end ControlPlane
