import ControlPlane.Proofs.InPlace.Procedure
import ControlPlane.Proofs.Network.Script

/-!
A service at work in place while a script answers its questions. Such a rehearsal can halt in two
ways: the service refuses, or the script does not fit, and what was written before stays written
either way. A rehearsal plays an operation if it ends as the operation replayed on the script does,
with the state it started from where there is no result; then it does on the trace of a network what
the operation does on the network.
-/

namespace ControlPlane

open Program

/-- Why a rehearsal comes to no result. -/
inductive Halt (ε : Type) where
  | refused (e : ε)
  | stopped (f : ScriptFailure)

/-- A service and the script of what it will be answered. -/
structure Stage (σ : Type) where
  service : σ
  script : Script

abbrev Rehearsal (σ ε α : Type) := Program (Stage σ) (Halt ε) α

namespace Lookup

theorem replay_bind {α β : Type} (q : Lookup α) (f : α → Lookup β) (script : Script) :
    (q >>= f).replay script =
      match q.replay script with
      | (.ok a, rest) => (f a).replay rest
      | (.error e, rest) => (.error e, rest) := by
  rw [bind_eq]
  induction q generalizing script with
  | done a => rfl
  | vpc id next ih =>
    simp only [andThen, replay]
    rcases script.takeVpc id with ⟨f | answer, rest⟩
    · rfl
    · exact ih answer rest
  | subnet id next ih =>
    simp only [andThen, replay]
    rcases script.takeSubnet id with ⟨f | answer, rest⟩
    · rfl
    · exact ih answer rest
  | securityGroup id next ih =>
    simp only [andThen, replay]
    rcases script.takeSecurityGroup id with ⟨f | answer, rest⟩
    · rfl
    · exact ih answer rest

end Lookup

namespace Rehearsal

variable {σ ε α β : Type}

def work (p : Program σ ε α) : Rehearsal σ ε α :=
  ExceptT.adapt Halt.refused (within Stage.service (fun t s => { t with service := s }) p)

/-- Puts a question to the script; the service stands still meanwhile. -/
def ask (question : σ → ExceptT ε Lookup α) : Rehearsal σ ε α := ExceptT.mk do
  let t ← get
  let (result, script) := (question t.service).run.replay t.script
  set { t with script := script }
  return match result with
    | .ok (.ok a) => .ok a
    | .ok (.error e) => .error (.refused e)
    | .error f => .error (.stopped f)

def performed (s : σ) :
    Except ScriptFailure (Except ε (α × σ)) × Script → Except (Halt ε) α × Stage σ
  | (.ok r, script) => ((outcome s r).1.mapError .refused, ⟨(outcome s r).2, script⟩)
  | (.error f, script) => (.error (.stopped f), ⟨s, script⟩)

/-- From this state the rehearsal ends as the computation does on the same script. -/
def Plays (s : σ) (p : Rehearsal σ ε α) (x : ExceptT ε Lookup (α × σ)) : Prop :=
  ∀ script, p.exec ⟨s, script⟩ = performed s (x.run.replay script)

section Plays

variable {s : σ} {script : Script}

theorem exec_work (p : Program σ ε α) :
    (work p).exec ⟨s, script⟩ = ((p.exec s).1.mapError .refused, ⟨(p.exec s).2, script⟩) := rfl

theorem exec_ask (question : σ → ExceptT ε Lookup α) :
    (ask question).exec ⟨s, script⟩ =
      (match ((question s).run.replay script).1 with
        | .ok (.ok a) => .ok a
        | .ok (.error e) => .error (.refused e)
        | .error f => .error (.stopped f),
      ⟨s, ((question s).run.replay script).2⟩) := rfl

theorem Plays.ask_bind {question : σ → ExceptT ε Lookup α} {k : α → Rehearsal σ ε β}
    {h : α → ExceptT ε Lookup (β × σ)} (rest : ∀ a, Plays s (k a) (h a)) :
    Plays s (ask question >>= k) (question s >>= h) := by
  intro script
  rw [exec_bind, exec_ask, ExceptT.run_bind, Lookup.replay_bind]
  rcases (question s).run.replay script with ⟨f | e | a, left⟩
  · rfl
  · rfl
  · exact rest a left

theorem Plays.look_bind {g : σ → Except ε α} {k : α → Rehearsal σ ε β}
    {h : α → ExceptT ε Lookup (β × σ)} (rest : ∀ a, g s = .ok a → Plays s (k a) (h a)) :
    Plays s (work (look g) >>= k) (ExceptT.mk (pure (g s)) >>= h) := by
  intro script
  rw [exec_bind, exec_work, exec_look]
  cases hg : g s with
  | ok a => exact rest a hg script
  | error e => rfl

theorem Plays.reads_bind {g : σ → α} {k : α → Rehearsal σ ε β} {x : ExceptT ε Lookup (β × σ)}
    (rest : Plays s (k (g s)) x) : Plays s (work (reads g) >>= k) x :=
  fun script => rest script

theorem Plays.guard {c : Prop} [Decidable c] {e : ε} {f : α → Rehearsal σ ε β}
    {f' : α → ExceptT ε Lookup (β × σ)} {p : Rehearsal σ ε β} {x : ExceptT ε Lookup (β × σ)}
    (rest : ¬c → Plays s p x) :
    Plays s (if c then throw (.refused e) >>= f else p) (if c then throw e >>= f' else x) := by
  intro script
  by_cases hc : c
  · rw [if_pos hc, if_pos hc]
    rfl
  · rw [if_neg hc, if_neg hc]
    exact rest hc script

theorem Plays.work {p : Program σ ε α} {r : Except ε (α × σ)} (done : Ends s p r) :
    Plays s (Rehearsal.work p) (ExceptT.mk (pure r)) := by
  intro script
  rw [exec_work, done]
  rfl

end Plays

/-- What is seen of an operation when scripts take the place of a network. With a script of what the
network was asked and answered, it ends as on the network and the script is used up. With one that
goes another way, it stops there; the entry that did not fit is gone and all else is as it was. -/
structure Rehearsed (view : NetworkView) (s : σ) (p : Rehearsal σ ε α)
    (q : Lookup (Except ε (α × σ))) : Prop where
  fits : p.exec ⟨s, .ofList (q.trace view)⟩ =
    ((outcome s (q.answer view)).1.mapError .refused,
      ⟨(outcome s (q.answer view)).2, .ofList []⟩)
  verified : (p.exec ⟨s, .ofList (q.trace view)⟩).2.script.verify.1 = .ok ()
  stops : ∀ before asked after rest, q.trace view = before ++ asked :: after →
    Script.Differs asked rest →
      p.exec ⟨s, .ofList (before ++ rest)⟩ =
        (.error (.stopped (asked.failure rest.head?)), ⟨s, .ofList rest.tail⟩)

theorem Plays.rehearsed {s : σ} {p : Rehearsal σ ε α} {x : ExceptT ε Lookup (α × σ)}
    (plays : Plays s p x) (view : NetworkView) : Rehearsed view s p x.run where
  fits := by
    rw [plays, Lookup.replay_trace]
    rfl
  verified := by
    rw [plays, Lookup.replay_trace]
    rfl
  stops := fun before asked after rest traced other => by
    rw [plays, Lookup.replay_differs traced other]
    rfl

end Rehearsal

end ControlPlane
