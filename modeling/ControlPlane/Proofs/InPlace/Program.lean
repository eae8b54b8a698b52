import ControlPlane.Proofs.Operation
import ControlPlane.Proofs.Registry

/-!
Computations that work on a state in place. What such a computation has written stays written if it
fails afterwards, so that a failure without any trace is a property of the order in which it looks,
checks and writes. A computation does what a function says if it ends as the function does, and with
the state it started from where the function fails.
-/

namespace ControlPlane

/-- A computation that works on a state in place and may fail at any point. -/
abbrev Program (σ ε α : Type) := ExceptT ε (StateM σ) α

namespace Program

variable {σ τ ε α β : Type}

/-- How a computation ends, and the state it leaves behind. -/
def exec (p : Program σ ε α) (s : σ) : Except ε α × σ := (p.run.run s).run

def look (f : σ → Except ε α) : Program σ ε α := do
  match f (← get) with
  | .ok a => return a
  | .error e => throw e

def reads (f : σ → α) : Program σ ε α := return f (← get)

def write (f : σ → σ) : Program σ ε Unit := modify f

/-- Takes a record out of a register; that there was none is noticed afterwards. -/
def takeOut {ρ : Type} [Keyed ρ] (register : σ → Registry ρ) (replace : σ → Registry ρ → σ)
    (key : String) (missing : ε) : Program σ ε ρ := do
  let found ← reads fun s => (register s).get? key
  write fun s => replace s ((register s).remove key)
  match found with
  | some a => return a
  | none => throw missing

def within (part : τ → σ) (replace : τ → σ → τ) (p : Program σ ε α) : Program τ ε α :=
  ExceptT.mk do
    let t ← get
    let (a, s) := p.exec (part t)
    set (replace t s)
    return a

section Exec

variable {s : σ}

theorem exec_pure (a : α) : (pure a : Program σ ε α).exec s = (.ok a, s) := rfl

theorem exec_throw (e : ε) : (throw e : Program σ ε α).exec s = (.error e, s) := rfl

theorem exec_bind (p : Program σ ε α) (f : α → Program σ ε β) :
    (p >>= f).exec s =
      match p.exec s with
      | (.ok a, s') => (f a).exec s'
      | (.error e, s') => (.error e, s') := by
  simp only [exec, ExceptT.run_bind, StateT.run_bind, Id.run_bind]
  cases h : (p.run.run s).run with
  | mk r s' =>
    cases r with
    | ok a => rfl
    | error e => rfl

theorem exec_get : (get : Program σ ε σ).exec s = (.ok s, s) := rfl

theorem exec_look (f : σ → Except ε α) : (look f).exec s = (f s, s) := by
  simp only [look, exec_bind, exec_get]
  cases f s with
  | ok a => rfl
  | error e => rfl

theorem snd_exec_look (s : σ) (f : σ → Except ε α) : ((look f).exec s).2 = s :=
  congrArg Prod.snd (exec_look f)

theorem exec_reads (f : σ → α) : (reads f : Program σ ε α).exec s = (.ok (f s), s) := rfl

theorem exec_write (f : σ → σ) : (write f : Program σ ε Unit).exec s = (.ok (), f s) := rfl

theorem exec_within (part : τ → σ) (replace : τ → σ → τ) (p : Program σ ε α) (t : τ) :
    (within part replace p).exec t =
      ((p.exec (part t)).1, replace t (p.exec (part t)).2) := rfl

theorem exec_forM_write (f : α → σ → σ) (items : List α) (s : σ) :
    (forM items fun a => (write (f a) : Program σ ε Unit)).exec s =
      (.ok (), items.foldl (fun s a => f a s) s) := by
  induction items generalizing s with
  | nil => rfl
  | cons a rest ih =>
    rw [List.forM_cons, exec_bind, exec_write]
    exact ih (f a s)

end Exec

def outcome (s : σ) : Except ε (α × σ) → Except ε α × σ
  | .ok (a, s') => (.ok a, s')
  | .error e => (.error e, s)

/-- From this state the computation ends with this result, and a failure changes nothing. -/
def Ends (s : σ) (p : Program σ ε α) (r : Except ε (α × σ)) : Prop := p.exec s = outcome s r

/-- The computation ends as the function does, and changes nothing where the function fails. -/
def Does (p : Program σ ε α) (f : σ → Except ε (α × σ)) : Prop := ∀ s, Ends s p (f s)

section Ends

variable {s : σ}

theorem Ends.look_bind {g : σ → Except ε α} {k : α → Program σ ε β} {h : α → Except ε (β × σ)}
    (rest : ∀ a, g s = .ok a → Ends s (k a) (h a)) : Ends s (look g >>= k) (g s >>= h) := by
  rw [Ends, exec_bind, exec_look]
  cases hg : g s with
  | ok a => exact rest a hg
  | error e => rfl

theorem Ends.reads_bind {g : σ → α} {k : α → Program σ ε β} {r : Except ε (β × σ)}
    (rest : Ends s (k (g s)) r) : Ends s (reads g >>= k) r := by
  rw [Ends, exec_bind, exec_reads]
  exact rest

theorem Ends.guard {c : Prop} [Decidable c] {e : ε} {f : α → Program σ ε β}
    {f' : α → Except ε (β × σ)} {p : Program σ ε β} {r : Except ε (β × σ)}
    (rest : ¬c → Ends s p r) :
    Ends s (if c then throw e >>= f else p) (if c then throw e >>= f' else r) := by
  by_cases hc : c
  · rw [if_pos hc, if_pos hc]
    rfl
  · rw [if_neg hc, if_neg hc]
    exact rest hc

theorem Ends.takeOut_missing {ρ : Type} [Keyed ρ] {register : σ → Registry ρ}
    {replace : σ → Registry ρ → σ} {key : String} {missing : ε} {k : ρ → Program σ ε β}
    (same : replace s (register s) = s) (absent : (register s).get? key = none) :
    Ends s (takeOut register replace key missing >>= k) (.error missing) := by
  have untouched : (register s).remove key = register s := Registry.remove_of_get?_eq_none absent
  simp only [Ends, takeOut, exec_bind, exec_reads, exec_write, absent, untouched, same, exec_throw,
    outcome]

theorem Ends.takeOut_found {ρ : Type} [Keyed ρ] {register : σ → Registry ρ}
    {replace : σ → Registry ρ → σ} {key : String} {missing : ε} {k : ρ → Program σ ε β} {a : ρ}
    {r : Except ε (β × σ)} (live : (register s).get? key = some a)
    (rest : (k a).exec (replace s ((register s).remove key)) = outcome s r) :
    Ends s (takeOut register replace key missing >>= k) r := by
  simp only [Ends, takeOut, exec_bind, exec_reads, exec_write, live, exec_pure]
  exact rest

theorem Ends.within {part : τ → σ} {p : Program σ ε α} {t : τ} {r : Except ε (α × σ)}
    (hp : Ends (part t) p r) (replace : τ → σ → τ) (same : ∀ t, replace t (part t) = t) :
    Ends t (within part replace p) (r.map fun (a, s) => (a, replace t s)) := by
  rw [Ends] at hp
  rw [Ends, exec_within, hp]
  cases r with
  | ok r => rfl
  | error e => exact congrArg (Prod.mk (Except.error e)) (same t)

end Ends

theorem does_look (f : σ → Except ε α) : Does (look f) fun s => (f s).map fun a => (a, s) := by
  intro s
  simp only [Ends, exec_look]
  cases f s with
  | ok a => rfl
  | error e => rfl

theorem Does.map {p : Program σ ε α} {f : σ → Except ε (α × σ)} (hp : Does p f) (g : α → β) :
    Does (do return g (← p)) fun s => (f s).map fun (a, s') => (g a, s') := by
  intro s
  have done := hp s
  rw [Ends] at done
  simp only [Ends, exec_bind, done]
  cases f s with
  | ok r => rfl
  | error e => rfl

theorem Does.state_of_error {p : Program σ ε α} {f : σ → Except ε (α × σ)} (hp : Does p f) {s : σ}
    {e : ε} (h : (p.exec s).1 = .error e) : (p.exec s).2 = s := by
  have done := hp s
  rw [Ends] at done
  rw [done] at h ⊢
  cases hf : f s with
  | ok r =>
    rw [hf] at h
    cases h
  | error e => rfl

end Program

end ControlPlane
