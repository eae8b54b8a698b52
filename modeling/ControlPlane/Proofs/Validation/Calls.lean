import ControlPlane.Validation.Findings
import Mathlib.Data.List.Forall2

/-!
Checks, violations and ends of batches in any order, with any values and rules. What ends cut the
calls into are the batches, and what is called after the last end is not reported. Main statement:
the answers to the ends are, one by one, reports of the batches, nothing is left behind by an end,
and no answer depends on a value that is given for a password.
-/

namespace ControlPlane

/-- A rule for a value, a rule for a value that may be absent, a violation that the caller has
found, or the end of a batch. -/
inductive Call : Type 1 where
  | check {α : Type} [Shown α] (field : String) (value : α) (rule : Rule α)
  | checkOption {α : Type} [Shown α] (field : String) (value : Option α) (rule : Rule α)
  | violation {α : Type} [Shown α] (field : String) (value : α) (constraint : String)
  | finish

namespace Call

def isFinish : Call → Bool
  | finish => true
  | _ => false

def apply (f : Findings) : Call → Option (Except ValidationError Unit) × Findings
  | check field value rule => (none, f.check (.of field value rule))
  | checkOption field value rule => (none, f.checkAll (Check.ofOption field value rule))
  | violation field value constraint => (none, f.record ⟨field, Shown.shown value, constraint⟩)
  | finish => (some f.conclude.1, f.conclude.2)

def failure? : Call → Option Violation
  | check field value rule =>
    (rule value).map fun constraint => ⟨field, Shown.shown value, constraint⟩
  | checkOption field (some value) rule =>
    (rule value).map fun constraint => ⟨field, Shown.shown value, constraint⟩
  | checkOption _ none _ => none
  | violation field value constraint => some ⟨field, Shown.shown value, constraint⟩
  | finish => none

def answers : Findings → List Call → List (Except ValidationError Unit)
  | _, [] => []
  | f, c :: rest => (c.apply f).1.toList ++ answers (c.apply f).2 rest

def findings (f : Findings) (calls : List Call) : Findings :=
  calls.foldl (fun g c => (c.apply g).2) f

theorem apply_of_not_finish {c : Call} (f : Findings) (h : c.isFinish = false) :
    (c.apply f).1 = none ∧
      (c.apply f).2.violations = f.violations ++ c.failure?.toList := by
  cases c with
  | check field value rule => exact ⟨rfl, f.violations_check _⟩
  | checkOption field value rule =>
    refine ⟨rfl, (f.violations_checkAll _).trans ?_⟩
    cases value with
    | none => rfl
    | some value => cases broken : rule value <;> simp [Check.ofOption, Check.of,
        Check.violation?, failure?, broken]
  | violation field value constraint => exact ⟨rfl, rfl⟩
  | finish => cases h

theorem eq_finish {c : Call} (h : c.isFinish = true) : c = finish := by
  cases c with
  | finish => rfl
  | _ => cases h

theorem conclude_snd (f : Findings) : f.conclude.2 = .empty := by
  obtain ⟨violations⟩ := f
  rw [Findings.conclude]
  split
  · rename_i none
    exact congrArg Findings.mk none
  · rfl

/-- The calls before each end, back to the end before, and last those that no end follows. -/
def batches (calls : List Call) : List (List Call) := calls.splitOnP isFinish

/-- What is wrong in each batch, where `found` is wrong before the first call. -/
def failures (found : List Violation) (calls : List Call) : List (List Violation) :=
  ((batches calls).map (List.filterMap failure?)).modifyHead (found ++ ·)

theorem exists_batches_eq_cons (calls : List Call) :
    ∃ first later, batches calls = first :: later :=
  List.exists_cons_of_ne_nil (List.splitOnP_ne_nil _ _)

theorem failures_nil (calls : List Call) :
    failures [] calls = (batches calls).map (List.filterMap failure?) := by
  obtain ⟨first, later, parts⟩ := exists_batches_eq_cons calls
  rw [failures, parts, List.map_cons, List.modifyHead_cons, List.nil_append]

theorem failures_finish_cons (found : List Violation) (calls : List Call) :
    failures found (finish :: calls) = found :: failures [] calls := by
  have parts : batches (finish :: calls) = [] :: batches calls := by
    rw [batches, List.splitOnP_cons_eq_if_modifyHead]
    exact if_pos rfl
  rw [failures, parts, List.map_cons, List.modifyHead_cons, List.filterMap_nil, List.append_nil,
    failures_nil]

theorem failures_cons {c : Call} (h : c.isFinish = false) (found : List Violation)
    (calls : List Call) :
    failures found (c :: calls) = failures (found ++ c.failure?.toList) calls := by
  obtain ⟨first, later, parts⟩ := exists_batches_eq_cons calls
  have more : batches (c :: calls) = (c :: first) :: later := by
    rw [batches, List.splitOnP_cons_eq_if_modifyHead, if_neg (Bool.eq_false_iff.mp h), ← batches,
      parts, List.modifyHead_cons]
  rw [failures, failures, more, parts, List.map_cons, List.map_cons, List.modifyHead_cons,
    List.modifyHead_cons, List.append_assoc, List.filterMap_cons]
  cases c.failure? with
  | none => rfl
  | some violation => rfl

theorem answers_eq (f : Findings) (calls : List Call) :
    answers f calls =
      (failures f.violations calls).dropLast.map fun found => (Findings.mk found).conclude.1 := by
  -- for all findings at once: a call that is no end moves its violation into them
  induction calls generalizing f with
  | nil => rfl
  | cons c rest ih =>
    rw [answers, ih]
    cases h : c.isFinish with
    | true =>
      obtain rfl := eq_finish h
      have others : failures [] rest ≠ [] := by
        rw [failures_nil, batches, Ne, List.map_eq_nil_iff]
        exact List.splitOnP_ne_nil _ _
      rw [failures_finish_cons, List.dropLast_cons_of_ne_nil others, List.map_cons, apply,
        conclude_snd]
      rfl
    | false =>
      obtain ⟨quiet, kept⟩ := apply_of_not_finish f h
      rw [failures_cons h, quiet, kept]
      rfl

def header (n : Nat) : String :=
  toString n ++ " validation error" ++ (if n > 1 then "s" else "") ++ " detected: "

/-- What the end of a batch answers. -/
structure Reports (batch : List Call) (answer : Except ValidationError Unit) : Prop where
  fails_iff : (∃ e, answer = .error e) ↔ ∃ c ∈ batch, c.failure?.isSome
  violations : ∀ e, answer = .error e → e.violations = batch.filterMap failure?
  message : ∀ e, answer = .error e →
    e.message = header (batch.countP fun c => c.failure?.isSome) ++
      String.intercalate "; " ((batch.filterMap failure?).map Violation.message)

theorem reports_conclude (batch : List Call) :
    Reports batch (Findings.mk (batch.filterMap failure?)).conclude.1 := by
  have told : ∀ e, (Findings.mk (batch.filterMap failure?)).conclude.1 = .error e →
      e.violations = batch.filterMap failure? := by
    intro e failed
    rw [Findings.conclude] at failed
    split at failed
    · cases failed
    · cases failed
      rfl
  have some : batch.filterMap failure? ≠ [] ↔ ∃ c ∈ batch, c.failure?.isSome := by
    simp [List.filterMap_eq_nil_iff, Option.isSome_iff_ne_none]
  refine ⟨?_, told, fun e failed => ?_⟩
  · rw [← some, Findings.conclude]
    split
    · rename_i none
      refine iff_of_false ?_ fun found => found none
      rintro ⟨_, failed⟩
      cases failed
    · rename_i found
      exact iff_of_true ⟨_, rfl⟩ found
  · rw [ValidationError.message, told e failed, List.length_filterMap_eq_countP]
    rfl

theorem reports_answers (calls : List Call) :
    List.Forall₂ Reports (batches calls).dropLast (answers .empty calls) := by
  have concluded : answers .empty calls = (batches calls).dropLast.map fun batch =>
      (Findings.mk (batch.filterMap failure?)).conclude.1 := by
    have found : failures Findings.empty.violations calls =
        (batches calls).map (List.filterMap failure?) := failures_nil calls
    rw [answers_eq, found, List.map_dropLast, List.map_map, ← List.map_dropLast]
    rfl
  rw [concluded, List.forall₂_map_right_iff, List.forall₂_same]
  exact fun batch _ => reports_conclude batch

theorem findings_finish (f : Findings) (calls : List Call) :
    findings f (calls ++ [finish]) = .empty := by
  rw [findings, List.foldl_append, List.foldl_cons, List.foldl_nil]
  exact conclude_snd _

/-- Calls that differ at most in a value that is given for a password, where both values break the
rule in the same words or neither does. -/
inductive Alike : Call → Call → Prop where
  | same (c : Call) : Alike c c
  | check {α β : Type} [Shown α] [Shown β] (a : α) (b : β) (rule : Rule α) (rule' : Rule β)
    (broken : rule a = rule' b) : Alike (.check "password" a rule) (.check "password" b rule')
  | checkOption {α β : Type} [Shown α] [Shown β] (a : α) (b : β) (rule : Rule α) (rule' : Rule β)
    (broken : rule a = rule' b) :
    Alike (.checkOption "password" (some a) rule) (.checkOption "password" (some b) rule')
  | violation {α β : Type} [Shown α] [Shown β] (a : α) (b : β) (constraint : String) :
    Alike (.violation "password" a constraint) (.violation "password" b constraint)

def told? : Except ValidationError Unit → Option String
  | .ok _ => none
  | .error e => some e.message

theorem Alike.clauses {c c' : Call} (h : Alike c c') :
    c.failure?.map Violation.message = c'.failure?.map Violation.message := by
  cases h with
  | same => rfl
  | check a b rule rule' broken =>
    simp only [failure?, Option.map_map, broken]
    rfl
  | checkOption a b rule rule' broken =>
    simp only [failure?, Option.map_map, broken]
    rfl
  | violation a b constraint => rfl

theorem Alike.isFinish_eq {c c' : Call} (h : Alike c c') : c.isFinish = c'.isFinish := by
  cases h <;> rfl

theorem told?_conclude {f g : Findings}
    (same : f.violations.map Violation.message = g.violations.map Violation.message) :
    told? f.conclude.1 = told? g.conclude.1 := by
  have length : f.violations.length = g.violations.length := by
    simpa using congrArg List.length same
  have none : f.violations = [] ↔ g.violations = [] := by
    rw [← List.length_eq_zero_iff, length, List.length_eq_zero_iff]
  rw [Findings.conclude, Findings.conclude]
  by_cases empty : f.violations = []
  · rw [if_pos empty, if_pos (none.mp empty)]
  · rw [if_neg empty, if_neg (mt none.mpr empty)]
    simp only [told?, ValidationError.message, length, same]

theorem told?_answers {calls calls' : List Call} (alike : List.Forall₂ Alike calls calls')
    {f g : Findings}
    (same : f.violations.map Violation.message = g.violations.map Violation.message) :
    (answers f calls).map told? = (answers g calls').map told? := by
  induction alike generalizing f g with
  | nil => rfl
  | @cons c c' rest rest' h others ih =>
    rw [answers, answers, List.map_append, List.map_append]
    cases finish : c.isFinish with
    | true =>
      obtain rfl := eq_finish finish
      obtain rfl := eq_finish (h.isFinish_eq ▸ finish)
      have left : (f.conclude.2).violations.map Violation.message =
          (g.conclude.2).violations.map Violation.message := by
        rw [conclude_snd, conclude_snd]
      simp only [apply, Option.toList_some, List.map_singleton, told?_conclude same, ih left]
    | false =>
      obtain ⟨quiet, kept⟩ := apply_of_not_finish f finish
      obtain ⟨quiet', kept'⟩ := apply_of_not_finish g (h.isFinish_eq ▸ finish)
      have clauses : c.failure?.toList.map Violation.message =
          c'.failure?.toList.map Violation.message := by
        rw [← Option.toList_map, h.clauses, Option.toList_map]
      have left : (c.apply f).2.violations.map Violation.message =
          (c'.apply g).2.violations.map Violation.message := by
        rw [kept, kept', List.map_append, List.map_append, same, clauses]
      rw [quiet, quiet', ih left]

/-- Whatever is called in whatever order, the ends report the batches before them, one by one and in
order; an end leaves nothing behind; and the texts of all reports are the same for any calls that
differ in values for passwords alone. -/
theorem batches_reported (calls : List Call) :
    List.Forall₂ Reports (batches calls).dropLast (answers .empty calls) ∧
      (findings .empty (calls ++ [finish])).isEmpty = true ∧
      ∀ calls', List.Forall₂ Alike calls calls' →
        (answers .empty calls).map told? = (answers .empty calls').map told? := by
  refine ⟨reports_answers calls, ?_, fun calls' alike => told?_answers alike rfl⟩
  rw [findings_finish]
  rfl

/-- A password that is too short and a size that is too small, and then the end. -/
def shortPassword (password : String) : List Call :=
  [.check "password" password (Rule.lengthAtLeast 8), .check "size" 0 (Rule.valueAtLeast 1),
    .finish]

theorem batches_reported_shortPassword :
    (answers .empty (shortPassword "secret")).map told? =
        (answers .empty (shortPassword "hidden")).map told? ∧
      (answers .empty (shortPassword "secret")).map told? =
        [some ("2 validation errors detected: Value at 'password' failed to satisfy constraint: " ++
          "Member must have length greater than or equal to 8; Value '0' at 'size' failed to " ++
          "satisfy constraint: Member must have value greater than or equal to 1")] := by
  have alike : List.Forall₂ Alike (shortPassword "secret") (shortPassword "hidden") :=
    .cons (.check _ _ _ _ (by decide)) (.cons (.same _) (.cons (.same _) .nil))
  exact ⟨(batches_reported _).2.2 _ alike, by decide +kernel⟩

end Call

end ControlPlane
