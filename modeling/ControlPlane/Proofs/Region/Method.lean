import ControlPlane.Proofs.Json.Member
import ControlPlane.Proofs.Json.Return
import ControlPlane.Proofs.Region.Seat
import ControlPlane.Region.Call

/-!
Typed calls and requests. A typed call has one operation of one service in mind, writes an input
for it, and makes its result of what it reads in the answer. Whether it agrees with the request that
it stands for is a matter of the codecs: the input must come back, and so must the answer, up to
what is not written of it.
-/

namespace ControlPlane

/-- What a typed call takes from an answer: its result is what stands at the end of a path. `shown`
is all of an output that an answer shows. -/
structure Extract {Output : Type} (output : Codec Output) (Result : Type) where
  shown : Output → Output
  result : Output → Result
  path : List String
  codec : Codec Result
  exact : ∀ o, (output.encode o).at? path = some (codec.encode (result (shown o)))

namespace Extract

variable {α : Type} {output : Codec α}

def whole : Extract output α where
  shown := id
  result := id
  path := []
  codec := output
  exact _ := rfl

def member (name : String) {c : Codec α} : Extract (.single name c) α where
  shown := id
  result := id
  path := [name]
  codec := c
  exact := Codec.at?_single name c

def items {output : Codec (Page α)} (name : String) (c : Codec α)
    (listed : ∀ p, (output.encode p).at? [name] = some (.arr (p.items.map c.encode))) :
    Extract output (List α) where
  shown := id
  result := Page.items
  path := [name]
  codec := .list c
  exact := listed

def showing {Result : Type} (e : Extract output Result) (shown : α → α)
    (same : ∀ a, output.encode (shown a) = output.encode a) : Extract output Result where
  shown := e.shown ∘ shown
  result := e.result
  path := e.path
  codec := e.codec
  exact a := (congrArg (Json.at? e.path) (same a)).symm.trans (e.exact (shown a))

end Extract

structure Method where
  service : ServiceName
  action : String
  Input : Type
  Output : Type
  Result : Type
  input : Codec Input
  output : Codec Output
  argument : Input
  run : Region → Moment → Except ServiceError (Output × Region)
  extract : Extract output Result
  serve_eq : ∀ {bag : Json}, input.decodeBag bag = .ok argument → ∀ (r : Region) (at_ : Moment),
    r.serve at_ service action bag = (run r at_).map fun (o, r') => (output.encode o, r')

namespace Method

def of {m : Type → Type} [Monad m] {σ ε : Type} [Fault ε] {Result : Type} (seat : Seat m σ ε)
    (action : String) (op : Operation m σ ε) (argument : op.Input)
    (extract : Extract op.output Result) (listed : seat.operations action = some op) :
    Method where
  service := seat.service
  action := action
  Input := op.Input
  Output := op.Output
  Result := Result
  input := op.input
  output := op.output
  argument := argument
  run := seat.run op argument
  extract := extract
  serve_eq := seat.serve_eq_map_run listed

variable (q : Method) {r r' : Region} {at_ : Moment}

def call (r : Region) (at_ : Moment) : Except ServiceError q.Result × Region :=
  match r.serve at_ q.service q.action (q.input.encode q.argument) with
  | .error e => (.error e, r)
  | .ok (j, r') =>
    match q.output.decode j with
    | .ok o => (.ok (q.extract.result o), r')
    | .error _ => (.error (.internalFailure ("Undecodable " ++ q.action ++ " response")), r')

section Of

variable {m : Type → Type} [Monad m] {σ ε : Type} [Fault ε] {seat : Seat m σ ε} {action : String}
  {op : Operation m σ ε} {argument : op.Input} {listed : seat.operations action = some op}

theorem call_of {Result : Type} {extract : Extract op.output Result} (r : Region) (at_ : Moment) :
    (of seat action op argument extract listed).call r at_ =
      ((r.call at_ seat.service action op argument).1.map extract.result,
        (r.call at_ seat.service action op argument).2) := by
  simp only [call, Region.call, of]
  cases r.serve at_ seat.service action (op.input.encode argument) with
  | error e => rfl
  | ok answered =>
    obtain ⟨j, r'⟩ := answered
    simp only
    cases op.output.decode j with
    | error e => rfl
    | ok o => rfl

theorem call_of_all {extract : Extract op.output op.Output} (all : extract.result = id)
    (r : Region) (at_ : Moment) :
    (of seat action op argument extract listed).call r at_ =
      r.call at_ seat.service action op argument := by
  rw [call_of, all, Except.map_id]
  rfl

end Of

/-- What the operation puts out in this region comes back from its answer, as far as it is shown. -/
def Answers (r : Region) (at_ : Moment) : Prop :=
  ∀ o r', q.run r at_ = .ok (o, r') → q.output.Returns o (q.extract.shown o)

/-- The input comes back from the bag that the call writes, and the call and the request with a bag
agree: they fail with the same error, or leave the same region after them and the result is the part
of the answer that the call takes. -/
structure Agrees (r : Region) (at_ : Moment) (bag : Json)
    (called : Except ServiceError q.Result × Region) : Prop where
  input : q.input.decode (q.input.encode q.argument) = .ok q.argument
  error : ∀ e, r.serve at_ q.service q.action bag = .error e → called = (.error e, r)
  ok : ∀ j r', r.serve at_ q.service q.action bag = .ok (j, r') → ∃ o,
    q.run r at_ = .ok (o, r') ∧ j = q.output.encode o ∧
      called = (.ok (q.extract.result (q.extract.shown o)), r') ∧
      j.at? q.extract.path = some (q.extract.codec.encode (q.extract.result (q.extract.shown o)))

variable {q}

theorem answers_of_lawful (lawful : q.output.Lawful) (all : ∀ o, q.extract.shown o = o) :
    q.Answers r at_ := by
  intro o r' _
  rw [all]
  exact lawful.returns o

theorem agrees [q.input.Stable] (answers : q.Answers r at_) {bag : Json}
    (read : q.input.decodeBag bag = .ok q.argument) : q.Agrees r at_ bag (q.call r at_) := by
  have written := Codec.decodeBag_encode_of_decodeBag read
  have served := q.serve_eq read r at_
  have called : q.call r at_ = match q.run r at_ with
      | .error e => (.error e, r)
      | .ok (o, r') => (.ok (q.extract.result (q.extract.shown o)), r') := by
    rw [call, q.serve_eq written]
    cases ran : q.run r at_ with
    | error e => rfl
    | ok result =>
      obtain ⟨o, r'⟩ := result
      have back : q.output.decode (q.output.encode o) = .ok (q.extract.shown o) := answers o r' ran
      simp only [Except.map, back]
  refine ⟨Codec.returns_of_decodeBag read, ?_, ?_⟩
  · intro e failed
    rw [called]
    cases ran : q.run r at_ with
    | error e' =>
      rw [served, ran] at failed
      cases failed
      rfl
    | ok result =>
      rw [served, ran] at failed
      cases failed
  · intro j r' answered
    obtain ⟨⟨o, _⟩, ran, same⟩ := map_eq_ok_iff.mp (served.symm.trans answered)
    cases same
    refine ⟨o, ran, rfl, ?_, q.extract.exact o⟩
    rw [called, ran]

end Method

end ControlPlane
