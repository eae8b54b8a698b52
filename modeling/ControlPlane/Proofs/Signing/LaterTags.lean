import ControlPlane.Proofs.Pattern
import ControlPlane.Proofs.Scope
import ControlPlane.Proofs.Signing.Tags
import ControlPlane.Proofs.Tag.Limit

/-!
Signing profiles that are tagged when they are put and profiles that are tagged right afterwards, by
the resource name of the profile or by that of its version. Names of profiles have no slash, which
stands before the version, so neither name is taken for one of another profile.
-/

namespace ControlPlane

namespace Text

theorem eq_of_append_slash {s t u v : String} (hs : '/' ∉ s.toList) (ht : '/' ∉ t.toList)
    (same : s ++ "/" ++ u = t ++ "/" ++ v) : s = t := by
  have before : ∀ {s u : String}, '/' ∉ s.toList →
      (s ++ "/" ++ u).toList.takeWhile (· ≠ '/') = s.toList := by
    intro s u hs
    have stop : ("/" ++ u).toList.takeWhile (· ≠ '/') = [] := by
      rw [String.toList_append]
      rfl
    have plain : ∀ c ∈ s.toList, decide (c ≠ '/') = true := fun c hc =>
      decide_eq_true fun slash => hs (slash ▸ hc)
    rw [String.append_assoc, String.toList_append, List.takeWhile_append_of_pos plain, stop,
      List.append_nil]
  apply String.toList_inj.mp
  rw [← before (u := u) hs, same, before ht]

end Text

namespace SigningService

variable {s s' : SigningService} {at_ : Moment} {input : PutProfile} {p : SigningProfile}

theorem not_slash_of_checks {u : Unit} (h : runChecks (putChecks input) = .ok u) :
    '/' ∉ input.name.toList := by
  have checked := runChecks_eq_ok_iff.mp h (.of "profileName" input.name (.satisfies namePattern))
    (List.mem_append_left _ (by simp))
  have accepted : namePattern.accepts input.name = true := Rule.requires_eq_none_iff.mp checked
  intro slash
  exact Bool.false_ne_true ((Regex.accepts_iff.mp accepted).occurs '/' slash)

/-- Profiles have names without a slash, and the name of a version goes on with one. -/
structure Versioned (s : SigningService) : Prop where
  names : ∀ p ∈ s.profiles.records, '/' ∉ p.name.toList
  versions : ∀ p ∈ s.profiles.records, p.versionArn = s.arn p.name ++ "/" ++ p.version

theorem versioned_empty (scope : Scope) : Versioned (empty scope) where
  names := fun _ hp => nomatch hp
  versions := fun _ hp => nomatch hp

theorem Versioned.of_putProfile (hv : Versioned s) (h : s.putProfile at_ input = .ok (p, s')) :
    Versioned s' := by
  obtain ⟨checked, -, rfl, rfl⟩ := putProfile_eq_ok_iff.mp h
  exact ⟨Registry.forall_mem_insert hv.names (not_slash_of_checks checked),
    Registry.forall_mem_insert hv.versions rfl⟩

theorem versioned_of_serve (hv : Versioned s) {name : String} {bag j : Json}
    (h : (operations.serve s at_ name bag).run = .ok (j, s')) : Versioned s' := by
  obtain ⟨op, input, output, hop, -, run, -⟩ := Catalog.exists_of_serve h
  simp only [operations] at hop
  split at hop <;> cases hop
  case h_1 =>
    obtain ⟨⟨p, _⟩, put, same⟩ := map_eq_ok_iff.mp run
    cases same
    exact hv.of_putProfile put
  case h_2 => exact state_of_look run ▸ hv
  case h_3 =>
    obtain ⟨p, found, rfl⟩ := cancelProfile_eq_ok_iff.mp run
    have live := Registry.mem_of_get? found
    exact ⟨Registry.forall_mem_insert hv.names (hv.names p live),
      Registry.forall_mem_insert hv.versions (hv.versions p live)⟩
  case h_4 => exact state_of_look run ▸ hv
  case h_5 => exact state_of_look run ▸ hv
  case h_6 =>
    obtain ⟨arn, -, -, rfl⟩ := tagResource_eq_ok_iff.mp run
    exact ⟨hv.names, hv.versions⟩
  case h_7 =>
    obtain ⟨arn, -, rfl⟩ := untagResource_eq_ok_iff.mp run
    exact ⟨hv.names, hv.versions⟩
  case h_8 => exact state_of_look run ▸ hv

theorem versioned_run (scope : Scope) (qs : List Request) : Versioned (run scope qs) := by
  induction qs using List.reverseRecOn with
  | nil => exact versioned_empty scope
  | append_singleton qs q ih =>
    rw [run_concat, after]
    split
    · rename_i served
      exact versioned_of_serve ih served
    · exact ih

theorem arn_injective : Function.Injective s.arn := by
  intro name other same
  exact Text.append_right_injective _ (s.scope.arn_injective _ same)

theorem arn_append (s : SigningService) (name more : String) :
    s.arn name ++ more = s.arn (name ++ more) := by
  simp only [arn, Scope.arn, String.append_assoc]

theorem Versioned.arn_ne_versionArn (hv : Versioned s) (hl : Labelled s)
    {q : SigningProfile} (hp : p ∈ s.profiles.records) (hq : q ∈ s.profiles.records) :
    p.arn ≠ q.versionArn := by
  intro same
  rw [hv.versions q hq, hl.profiles p hp, arn_append, arn_append] at same
  refine hv.names p hp (arn_injective same ▸ ?_)
  simp

theorem Versioned.resolveArn_arn (hv : Versioned s) (hl : Labelled s)
    (hp : p ∈ s.profiles.records) : s.resolveArn p.arn = .ok p.arn := by
  have plain : s.profiles.find? (fun q => q.versionArn == p.arn) = none := by
    refine List.find?_eq_none.mpr fun q hq same => ?_
    exact hv.arn_ne_versionArn hl hp hq (beq_iff_eq.mp same).symm
  have known : (s.profiles.find? fun q => q.arn == p.arn || q.versionArn == p.arn).isSome = true :=
    List.find?_isSome.mpr ⟨p, hp, by simp⟩
  rw [resolveArn, if_pos known, plain]

theorem Versioned.resolveArn_versionArn (hv : Versioned s) (hl : Labelled s)
    (hp : p ∈ s.profiles.records) : s.resolveArn p.versionArn = .ok p.arn := by
  have known : (s.profiles.find? fun q =>
      q.arn == p.versionArn || q.versionArn == p.versionArn).isSome = true :=
    List.find?_isSome.mpr ⟨p, hp, by simp⟩
  rw [resolveArn, if_pos known]
  cases found : s.profiles.find? fun q => q.versionArn == p.versionArn with
  | none => exact absurd (beq_self_eq_true _) (List.find?_eq_none.mp found p hp)
  | some q =>
    have hq := List.mem_of_find?_eq_some found
    have same : q.versionArn = p.versionArn := by simpa using List.find?_some found
    simp only [hv.versions q hq, hv.versions p hp, arn_append] at same
    have names : q.name = p.name :=
      Text.eq_of_append_slash (hv.names q hq) (hv.names p hp) (arn_injective same)
    exact congrArg Except.ok (by rw [hl.profiles q hq, hl.profiles p hp, names])

theorem putProfile_withTags_iff {tags : TextMap} :
    s.putProfile at_ { input with tags := tags } = .ok (p, s') ↔
      Tag.validate (Tag.ofMap tags) maxTags = .ok () ∧
        ∃ t, s.putProfile at_ { input with tags := .empty } = .ok (p, t) ∧
          s' = { t with tags := t.tags.tag p.arn (Tag.ofMap tags) } := by
  simp only [putProfile_eq_ok_iff]
  constructor
  · rintro ⟨checked, valid, rfl, rfl⟩
    exact ⟨valid, _, ⟨checked, Tag.validate_nil _, rfl, rfl⟩, rfl⟩
  · rintro ⟨valid, _, ⟨checked, -, rfl, rfl⟩, rfl⟩
    exact ⟨checked, valid, rfl, rfl⟩

theorem exists_putProfile_at (h : s.putProfile at_ input = .ok (p, s')) (now : Moment) :
    ∃ other t, s.putProfile now input = .ok (other, t) := by
  obtain ⟨checked, valid, -, -⟩ := putProfile_eq_ok_iff.mp h
  exact ⟨_, _, putProfile_eq_ok_iff.mpr ⟨checked, valid, rfl, rfl⟩⟩

theorem tagResource_iff_of_resolveArn {resource arn : String} (h : s.resolveArn resource = .ok arn)
    {tags : TextMap} : (∃ o, s.tagResource ⟨resource, tags⟩ = .ok (o, s')) ↔
      Tag.validate (Tag.ofMap tags) maxTags = .ok () ∧
        s' = { s with tags := s.tags.tag arn (Tag.ofMap tags) } := by
  simp only [tagResource_eq_ok_iff, exists_const, h, Except.ok.injEq, exists_eq_left']

theorem mem_of_putProfile (h : s.putProfile at_ input = .ok (p, s')) : p ∈ s'.profiles.records := by
  obtain ⟨-, -, rfl, rfl⟩ := putProfile_eq_ok_iff.mp h
  exact Registry.self_mem_insert _ _

end SigningService

end ControlPlane
