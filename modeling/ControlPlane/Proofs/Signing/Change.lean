import ControlPlane.Proofs.Operation
import ControlPlane.Proofs.Registry
import ControlPlane.Signing.Operations
import Mathlib.Data.List.Induction

/-!
What a request can do to the code signing service.
-/

namespace ControlPlane.SigningService

variable {s s' : SigningService} {at_ : Moment} {name : String}

theorem runChecks_eq_ok_iff {cs : List Check} {u : Unit} :
    runChecks cs = .ok u ↔ ∀ c ∈ cs, c.broken = none := by
  rw [runChecks, mapError_eq_ok_iff, validate_eq_ok_iff]

theorem profile_eq_ok_iff {p : SigningProfile} :
    s.profile name = .ok p ↔ s.profiles.get? name = some p := by
  rw [profile]
  cases s.profiles.get? name <;> simp

theorem putProfile_eq_ok_iff {input : PutProfile} {p : SigningProfile} :
    s.putProfile at_ input = .ok (p, s') ↔
      runChecks (putChecks input) = .ok () ∧
        Tag.validate (Tag.ofMap input.tags) maxTags = .ok () ∧
        p = s.buildProfile input (Identifier.numeral versionDigits at_.draws).1 ∧
        s' = { s with
          profiles := s.profiles.insert p
          tags := (s.tags.clear p.arn).tag p.arn (Tag.ofMap input.tags) } := by
  rw [putProfile, pass_eq_ok_iff, pass_eq_ok_iff]
  simp only [pure_eq_ok_iff, Prod.mk.injEq, mapError_eq_ok_iff]
  refine ⟨?_, ?_⟩
  · intro ⟨checked, valid, same, state⟩
    exact ⟨checked, valid, same.symm, same ▸ state.symm⟩
  · intro ⟨checked, valid, same, state⟩
    exact ⟨checked, valid, same.symm, same ▸ state.symm⟩

theorem cancelProfile_eq_ok_iff {u : Unit} :
    s.cancelProfile name = .ok (u, s') ↔
      ∃ p, s.profiles.get? name = some p ∧
        s' = { s with profiles := s.profiles.insert { p with status := .canceled } } := by
  simp only [cancelProfile, bind_eq_ok_iff, profile_eq_ok_iff, pure_eq_ok_iff, Prod.mk.injEq,
    true_and, eq_comm (a := s')]

theorem exists_named_of_resolveArn {resource arn : String} (h : s.resolveArn resource = .ok arn) :
    ∃ p ∈ s.profiles.records, p.arn = arn ∧ (resource = p.arn ∨ resource = p.versionArn) := by
  rw [resolveArn] at h
  split at h
  · rename_i known
    cases versioned : s.profiles.find? fun p => p.versionArn == resource with
    | some p =>
      rw [versioned] at h
      cases h
      have same : p.versionArn = resource := by simpa using List.find?_some versioned
      exact ⟨p, List.mem_of_find?_eq_some versioned, rfl, Or.inr same.symm⟩
    | none =>
      rw [versioned] at h
      cases h
      rw [Registry.find?, List.find?_isSome] at known
      obtain ⟨p, hp, same⟩ := known
      have plain := List.find?_eq_none.mp versioned p hp
      simp only [Bool.or_eq_true, beq_iff_eq] at same plain
      have named := same.resolve_right plain
      exact ⟨p, hp, named, Or.inl named.symm⟩
  · cases h

theorem exists_of_resolveArn {resource arn : String} (h : s.resolveArn resource = .ok arn) :
    ∃ p ∈ s.profiles.records, p.arn = arn :=
  let ⟨p, live, same, _⟩ := exists_named_of_resolveArn h
  ⟨p, live, same⟩

theorem tagResource_eq_ok_iff {input : TagProfile} {u : Unit} :
    s.tagResource input = .ok (u, s') ↔
      ∃ arn, s.resolveArn input.arn = .ok arn ∧
        Tag.validate (Tag.ofMap input.tags) maxTags = .ok () ∧
        s' = { s with tags := s.tags.tag arn (Tag.ofMap input.tags) } := by
  simp only [tagResource, bind_eq_ok_iff, pure_eq_ok_iff, Prod.mk.injEq, true_and,
    mapError_eq_ok_iff, eq_comm (a := s')]
  refine ⟨?_, ?_⟩
  · intro ⟨arn, resolved, _, valid, state⟩
    exact ⟨arn, resolved, valid, state⟩
  · intro ⟨arn, resolved, valid, state⟩
    exact ⟨arn, resolved, (), valid, state⟩

theorem untagResource_eq_ok_iff {input : UntagProfile} {u : Unit} :
    s.untagResource input = .ok (u, s') ↔
      ∃ arn, s.resolveArn input.arn = .ok arn ∧
        s' = { s with tags := s.tags.untag arn input.keys } := by
  simp only [untagResource, bind_eq_ok_iff, pure_eq_ok_iff, Prod.mk.injEq, true_and,
    eq_comm (a := s')]

/-- What can become of the service when a request is served. -/
inductive Change (s : SigningService) : SigningService → Prop where
  | looked : Change s s
  | put (p : SigningProfile) (tags : List Tag) (arn : p.arn = s.arn p.name)
    (active : p.status = .active) (valid : Tag.validate tags maxTags = .ok ()) :
    Change s
      { s with profiles := s.profiles.insert p, tags := (s.tags.clear p.arn).tag p.arn tags }
  | canceled (p : SigningProfile) (live : s.profiles.get? p.name = some p) :
    Change s { s with profiles := s.profiles.insert { p with status := .canceled } }
  | tagged (p : SigningProfile) (tags : List Tag) (live : p ∈ s.profiles.records)
    (valid : Tag.validate tags maxTags = .ok ()) :
    Change s { s with tags := s.tags.tag p.arn tags }
  | untagged (p : SigningProfile) (keys : List String) (live : p ∈ s.profiles.records) :
    Change s { s with tags := s.tags.untag p.arn keys }

theorem change_of_putProfile {input : PutProfile} {p : SigningProfile}
    (h : s.putProfile at_ input = .ok (p, s')) : Change s s' := by
  obtain ⟨-, valid, rfl, rfl⟩ := putProfile_eq_ok_iff.mp h
  exact .put _ _ rfl rfl valid

theorem change_of_cancelProfile {u : Unit} (h : s.cancelProfile name = .ok (u, s')) :
    Change s s' := by
  obtain ⟨p, found, rfl⟩ := cancelProfile_eq_ok_iff.mp h
  have same : p.name = name := Registry.key_of_get? found
  exact .canceled p (same.symm ▸ found)

theorem change_of_tagResource {input : TagProfile} {u : Unit}
    (h : s.tagResource input = .ok (u, s')) : Change s s' := by
  obtain ⟨arn, resolved, valid, rfl⟩ := tagResource_eq_ok_iff.mp h
  obtain ⟨p, live, rfl⟩ := exists_of_resolveArn resolved
  exact .tagged p _ live valid

theorem change_of_untagResource {input : UntagProfile} {u : Unit}
    (h : s.untagResource input = .ok (u, s')) : Change s s' := by
  obtain ⟨arn, resolved, rfl⟩ := untagResource_eq_ok_iff.mp h
  obtain ⟨p, live, rfl⟩ := exists_of_resolveArn resolved
  exact .untagged p _ live

theorem change_of_run {name : String} {op : Op} {input : op.Input} {output : op.Output}
    (hop : operations name = some op) (h : (op.run s at_ input).run = .ok (output, s')) :
    Change s s' := by
  simp only [operations] at hop
  split at hop <;> cases hop
  case h_1 =>
    obtain ⟨⟨p, _⟩, put, same⟩ := map_eq_ok_iff.mp h
    cases same
    exact change_of_putProfile put
  case h_2 => exact state_of_look h ▸ .looked
  case h_3 => exact change_of_cancelProfile h
  case h_4 => exact state_of_look h ▸ .looked
  case h_5 => exact state_of_look h ▸ .looked
  case h_6 => exact change_of_tagResource h
  case h_7 => exact change_of_untagResource h
  case h_8 => exact state_of_look h ▸ .looked

theorem Change.scope (h : Change s s') : s'.scope = s.scope := by
  cases h <;> rfl

def after (s : SigningService) (q : Request) : SigningService :=
  match (operations.serve s q.at_ q.action q.bag).run with
  | .ok (_, s') => s'
  | .error _ => s

theorem change_after (s : SigningService) (q : Request) : Change s (s.after q) := by
  rw [after]
  split
  · rename_i j s' served
    obtain ⟨op, input, output, hop, -, hr, -⟩ := Catalog.exists_of_serve served
    exact change_of_run hop hr
  · exact .looked

def run (scope : Scope) (qs : List Request) : SigningService := qs.foldl after (empty scope)

theorem run_concat (scope : Scope) (qs : List Request) (q : Request) :
    run scope (qs ++ [q]) = (run scope qs).after q := by
  rw [run, run, List.foldl_append, List.foldl_cons, List.foldl_nil]

theorem run_append_cons (scope : Scope) (qs : List Request) (q : Request) (later : List Request) :
    run scope (qs ++ q :: later) = later.foldl after ((run scope qs).after q) := by
  rw [run, run, List.foldl_append, List.foldl_cons]

theorem scope_run (scope : Scope) (qs : List Request) : (run scope qs).scope = scope := by
  induction qs using List.reverseRecOn with
  | nil => rfl
  | append_singleton qs q ih =>
    rw [run_concat]
    exact (change_after _ q).scope.trans ih

end ControlPlane.SigningService
