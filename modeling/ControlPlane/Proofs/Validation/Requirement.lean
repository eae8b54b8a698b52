import ControlPlane.Tag.Basic

/-!
What the form of a request has to satisfy, listed in order. A batch of requirements fails with all
of those that are not met and with no others; of several batches the first that fails is told. The
checks that the services make are these requirements, one by one.
-/

namespace ControlPlane

/-- Something that the text of a field has to satisfy, in the words in which its failure is told. -/
structure Requirement where
  field : String
  value : String
  constraint : String
  met : Bool

namespace Requirement

def lengthAtMost (n : Nat) (field value : String) : Requirement :=
  ⟨field, value, "have length less than or equal to " ++ toString n, value.length ≤ n⟩

def lengthAtLeast (n : Nat) (field value : String) : Requirement :=
  ⟨field, value, "have length greater than or equal to " ++ toString n, n ≤ value.length⟩

def valueSet (allowed : List String) : String :=
  "satisfy enum value set: [" ++ String.intercalate ", " allowed ++ "]"

def oneOf (allowed : List String) (field value : String) : Requirement :=
  ⟨field, value, valueSet allowed, allowed.contains value⟩

def oneOfIgnoringCase (allowed : List String) (field value : String) : Requirement :=
  ⟨field, value, valueSet allowed, allowed.any (Text.equalsIgnoringCase · value)⟩

def matching (p : Pattern) (field value : String) : Requirement :=
  ⟨field, value, "satisfy regular expression pattern: " ++ p.source, p.accepts value⟩

def violation (r : Requirement) : Violation := ⟨r.field, r.value, r.constraint⟩

def violations (rs : List Requirement) : List Violation := (rs.filter (!·.met)).map violation

/-- What is told of batches that are looked at one after the other. -/
def firstFailure : List (List Requirement) → Option ValidationError
  | [] => none
  | batch :: rest => if violations batch = [] then firstFailure rest else some ⟨violations batch⟩

def check (r : Requirement) : Check :=
  ⟨r.field, r.value, if r.met then none else some r.constraint⟩

theorem filterMap_check (rs : List Requirement) :
    (rs.map check).filterMap Check.violation? = violations rs := by
  rw [violations, List.filterMap_map, ← List.filterMap_eq_map, List.filterMap_filter]
  congr 1
  funext r
  cases met : r.met <;> simp [check, Check.violation?, violation, met]

theorem met_of_firstFailure {batch : List Requirement} {rest : List (List Requirement)}
    (h : firstFailure (batch :: rest) = none) {r : Requirement} (hr : r ∈ batch) :
    r.met = true := by
  by_cases all : violations batch = []
  · rw [violations, List.map_eq_nil_iff, List.filter_eq_nil_iff] at all
    simpa using all r hr
  · rw [firstFailure, if_neg all] at h
    cases h

def verdict {ε : Type} : Option ε → Except ε Unit
  | some e => .error e
  | none => .ok ()

theorem validate_batch_bind {ε : Type} (f : ValidationError → ε) (batch : List Requirement)
    (rest : List (List Requirement)) :
    ((validate (batch.map check)).mapError f >>= fun _ => verdict ((firstFailure rest).map f)) =
      verdict ((firstFailure (batch :: rest)).map f) := by
  rw [validate_eq, filterMap_check, firstFailure]
  by_cases met : violations batch = []
  · rw [if_pos met, if_pos met]
    rfl
  · rw [if_neg met, if_neg met]
    rfl

theorem validate_batch {ε : Type} (f : ValidationError → ε) (batch : List Requirement) :
    (validate (batch.map check)).mapError f = verdict ((firstFailure [batch]).map f) := by
  rw [← validate_batch_bind]
  cases (validate (batch.map check)).mapError f with
  | ok u => rfl
  | error e => rfl

theorem checks_ofOption {α : Type} [Shown α] {field : String} {rule : Rule α}
    {required : α → Requirement} (same : ∀ a, Check.of field a rule = (required a).check)
    (value : Option α) :
    Check.ofOption field value rule = (value.toList.map required).map check := by
  cases value with
  | none => rfl
  | some a => exact congrArg (fun c => [c]) (same a)

theorem checks_lengthAtMost (n : Nat) (field : String) (value : Option String) :
    Check.ofOption field value (.lengthAtMost n) =
      (value.toList.map (lengthAtMost n field)).map check :=
  checks_ofOption (fun _ => rfl) value

theorem checks_matching (p : Pattern) (field : String) (value : Option String) :
    Check.ofOption field value (.satisfies p) = (value.toList.map (matching p field)).map check :=
  checks_ofOption (fun _ => rfl) value

end Requirement

namespace Tag

open Requirement

/-- What is required of the tag that stands at `position`, counted from one. -/
def requirementsAt (position : Nat) (t : Tag) : List Requirement :=
  let member := "tags." ++ toString position ++ ".member."
  [lengthAtMost 128 (member ++ "key") t.key, matching keyPattern (member ++ "key") t.key,
    lengthAtMost 256 (member ++ "value") t.value]

def countRequirement (tags : List Tag) (limit : Nat) : Requirement :=
  ⟨"tags", showList (tags.map (·.key)), "have length less than or equal to " ++ toString limit,
    limit = 0 ∨ tags.length ≤ limit⟩

def requirements (tags : List Tag) (limit : Nat) : List Requirement :=
  ((tags.zipIdx 1).flatMap fun (t, position) => requirementsAt position t)
    ++ [countRequirement tags limit]

theorem checksFrom_eq (position : Nat) (tags : List Tag) :
    checksFrom position tags =
      ((tags.zipIdx position).flatMap fun (t, n) => requirementsAt n t).map check := by
  induction tags generalizing position with
  | nil => rfl
  | cons t rest ih =>
    rw [checksFrom, ih, List.zipIdx_cons, List.flatMap_cons, List.map_append]
    rfl

theorem countCheck_eq (tags : List Tag) (limit : Nat) :
    countCheck tags limit = (countRequirement tags limit).check := by
  by_cases exceeded : limit > 0 ∧ tags.length > limit
  · have unmet : ¬(limit = 0 ∨ tags.length ≤ limit) := by omega
    simp [countCheck, Check.of, check, countRequirement, exceeded, unmet, Shown.shown]
  · have met : limit = 0 ∨ tags.length ≤ limit := by omega
    simp [countCheck, Check.of, check, countRequirement, exceeded, met, Shown.shown]

theorem validate_eq_batch (tags : List Tag) (limit : Nat) :
    Tag.validate tags limit = ControlPlane.validate ((requirements tags limit).map check) := by
  rw [Tag.validate, checksFrom_eq, countCheck_eq, requirements, List.map_append]
  rfl

end Tag

end ControlPlane
