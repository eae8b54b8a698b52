import ControlPlane.Proofs.Success

/-!
Requests that succeed. If a request is served, its name is that of an operation, its bag is an input
of that operation, and the operation ran on this input with success; an operation that only looks
leaves the state as it was.
-/

namespace ControlPlane

structure Request where
  at_ : Moment
  action : String
  bag : Json

theorem state_of_look {σ ε α : Type} {x : Except ε α} {s s' : σ} {o : α}
    (h : (x.map fun a => (a, s)) = .ok (o, s')) : s = s' := by
  obtain ⟨a, -, ha⟩ := map_eq_ok_iff.mp h
  cases ha
  rfl

theorem seen_of_look {σ ε α : Type} {x : Except ε α} {s s' : σ} {o : α}
    (h : (x.map fun a => (a, s)) = .ok (o, s')) : x = .ok o := by
  obtain ⟨a, seen, ha⟩ := map_eq_ok_iff.mp h
  cases ha
  exact seen

variable {σ ε : Type} [Fault ε]

theorem Catalog.serve_writing {m : Type → Type} [Monad m] [LawfulMonad m] {c : Catalog m σ ε}
    {name : String} {Input Output : Type} {input : Codec Input} {output : Codec Output}
    {run : σ → Moment → Input → Except ε (Output × σ)}
    (hop : c name = some (.writing input output run)) {bag : Json} {i : Input}
    (hd : input.decodeBag bag = .ok i) {s s' : σ} {at_ : Moment} {o : Output}
    (h : run s at_ i = .ok (o, s')) :
    c.serve s at_ name bag = pure (.ok (output.encode o, s')) := by
  simp only [Catalog.serve, hop, Operation.serve, Operation.writing, hd, pure_bind, h]

theorem Catalog.serve_reading {m : Type → Type} [Monad m] [LawfulMonad m] {c : Catalog m σ ε}
    {name : String} {Input Output : Type} {input : Codec Input} {output : Codec Output}
    {look : σ → Input → Except ε Output} (hop : c name = some (.reading input output look))
    {bag : Json} {i : Input} (hd : input.decodeBag bag = .ok i) (s : σ) (at_ : Moment) :
    c.serve s at_ name bag =
      pure (((look s i).mapError .ofFault).map fun o => (output.encode o, s)) := by
  simp only [Catalog.serve, hop, Operation.serve, Operation.reading, hd, pure_bind]
  cases look s i <;> rfl

def Operation.answer {m : Type → Type} (op : Operation m σ ε) :
    Except ε (op.Output × σ) → Except ServiceError (Json × σ)
  | .error e => .error (.ofFault e)
  | .ok (output, s') => .ok (op.output.encode output, s')

theorem Operation.answer_eq_ok_iff {m : Type → Type} {op : Operation m σ ε}
    {x : Except ε (op.Output × σ)} {j : Json} {s' : σ} :
    op.answer x = .ok (j, s') ↔ ∃ output, x = .ok (output, s') ∧ op.output.encode output = j := by
  cases x with
  | error e => simp [answer]
  | ok result =>
    obtain ⟨output, s⟩ := result
    simp only [answer, Except.ok.injEq, Prod.mk.injEq]
    exact ⟨fun ⟨written, same⟩ => ⟨output, ⟨rfl, same⟩, written⟩,
      fun ⟨_, ⟨out, same⟩, written⟩ => ⟨out ▸ written, same⟩⟩

/-- A bag that is an input is answered by what the operation makes of it. -/
theorem Catalog.run_serve_of_decoded {c : Catalog Id σ ε} {name : String} {op : Operation Id σ ε}
    (hop : c name = some op) {bag : Json} {i : op.Input} (hd : op.input.decodeBag bag = .ok i)
    {s : σ} {at_ : Moment} : (c.serve s at_ name bag).run = op.answer (op.run s at_ i).run := by
  simp only [Catalog.serve, hop, Operation.serve, hd, Id.run_bind]
  cases (op.run s at_ i).run <;> rfl

/-- Two bags that are read alike, but for something on which the run does not depend, are answered
alike. -/
theorem Catalog.serve_congr {m : Type → Type} [Monad m] {c : Catalog m σ ε} {name : String}
    {op : Operation m σ ε} (hop : c name = some op) {bag bag' : Json} {f : op.Input → op.Input}
    (read : op.input.decodeBag bag' = (op.input.decodeBag bag).map f) {s : σ} {at_ : Moment}
    (same : ∀ i, op.input.decodeBag bag = .ok i → op.run s at_ (f i) = op.run s at_ i) :
    c.serve s at_ name bag' = c.serve s at_ name bag := by
  simp only [Catalog.serve, hop, Operation.serve, read]
  cases decoded : op.input.decodeBag bag with
  | error e => rfl
  | ok i => simp only [Except.map, same i decoded]

theorem Catalog.exists_of_serve {c : Catalog Id σ ε} {s s' : σ} {at_ : Moment} {name : String}
    {bag j : Json} (h : (c.serve s at_ name bag).run = .ok (j, s')) :
    ∃ op input output, c name = some op ∧ op.input.decodeBag bag = .ok input ∧
      (op.run s at_ input).run = .ok (output, s') ∧ j = op.output.encode output := by
  cases hc : c name with
  | none =>
    simp only [Catalog.serve, hc] at h
    cases h
  | some op =>
    simp only [Catalog.serve, hc, Operation.serve] at h
    cases hd : op.input.decodeBag bag with
    | error e =>
      simp only [hd] at h
      cases h
    | ok input =>
      simp only [hd] at h
      cases hr : (op.run s at_ input).run with
      | error e =>
        simp only [Id.run_bind, hr] at h
        cases h
      | ok result =>
        simp only [Id.run_bind, hr] at h
        cases h
        exact ⟨op, input, result.1, rfl, hd, hr, rfl⟩

theorem Catalog.exists_of_mem_outcomes_serve {views : Set NetworkView} {c : Catalog Lookup σ ε}
    {s s' : σ} {at_ : Moment} {name : String} {bag j : Json}
    (h : .ok (j, s') ∈ (c.serve s at_ name bag).outcomes views) :
    ∃ op input output, c name = some op ∧ op.input.decodeBag bag = .ok input ∧
      .ok (output, s') ∈ (op.run s at_ input).outcomes views ∧ j = op.output.encode output := by
  cases hc : c name with
  | none =>
    simp only [Catalog.serve, hc] at h
    cases h
  | some op =>
    simp only [Catalog.serve, hc, Operation.serve] at h
    cases hd : op.input.decodeBag bag with
    | error e =>
      simp only [hd] at h
      cases h
    | ok input =>
      simp only [hd, Lookup.mem_outcomes_bind_iff] at h
      obtain ⟨result, hr, ho⟩ := h
      cases result with
      | error e => cases ho
      | ok result =>
        cases ho
        exact ⟨op, input, result.1, rfl, hd, hr, rfl⟩

end ControlPlane
