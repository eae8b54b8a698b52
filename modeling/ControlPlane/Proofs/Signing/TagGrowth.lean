import ControlPlane.Proofs.Signing.Tags
import ControlPlane.Proofs.Tag.Limit

/-!
How many tags a signing profile can have. A request to tag is checked for the length of its own
list, never for what is there already, so that a profile can be given more tags than one list can
hold. Main statement: a profile stays within the limit until a request is served that brings more
new keys than there is room for, and each request of this kind adds one list at most.
-/

namespace ControlPlane

namespace SigningService

variable {s s' : SigningService} {arn : String} {at_ : Moment} {q : Request}

def serves (s : SigningService) (q : Request) : Bool :=
  (operations.serve s q.at_ q.action q.bag).run.isOk

def puts (s : SigningService) (arn : String) (q : Request) : Bool :=
  s.serves q && q.action == "PutSigningProfile" &&
    match PutProfile.record.codec.decodeBag q.bag with
    | .ok input => s.arn input.name == arn
    | .error _ => false

/-- The request tags a profile, and there is no room for all the new keys that it brings. -/
def overfills (s : SigningService) (arn : String) (q : Request) : Bool :=
  s.serves q && q.action == "TagResource" &&
    match TagProfile.record.codec.decodeBag q.bag with
    | .ok input =>
      (s.resolveArn input.arn).toOption == some arn &&
        decide (maxTags <
          s.tags.count arn + Tag.addedCount (s.tags.tags arn) (Tag.ofMap input.tags))
    | .error _ => false

/-- How often a profile has been overfilled since it was last put, after `n` times before. -/
def overfillings (arn : String) : SigningService → Nat → List Request → Nat
  | _, n, [] => n
  | s, n, q :: rest =>
    overfillings arn (s.after q)
      (if s.puts arn q then 0 else if s.overfills arn q then n + 1 else n) rest

theorem count_clear_tag_le (tags : TagStore) (resource : String) (new : List Tag) :
    ((tags.clear resource).tag resource new).count resource ≤ new.length := by
  have none := TagStore.tags_eq_nil_of_not_has (TagStore.not_has_clear tags resource)
  have start : (tags.clear resource).count resource = 0 := by rw [TagStore.count, none]; rfl
  have grown := TagStore.count_tag_le (tags.clear resource) resource new
  rw [start, Nat.zero_add] at grown
  exact grown.trans (Tag.addedCount_le_length _ new)

theorem count_of_putProfile {input : PutProfile} {p : SigningProfile}
    (h : s.putProfile at_ input = .ok (p, s')) :
    s'.tags.count arn ≤ if s.arn input.name = arn then maxTags else s.tags.count arn := by
  obtain ⟨-, valid, rfl, state⟩ := putProfile_eq_ok_iff.mp h
  have tags : s'.tags =
      (s.tags.clear (s.arn input.name)).tag (s.arn input.name) (Tag.ofMap input.tags) := by
    rw [state]
    rfl
  rw [tags]
  split
  · rename_i named
    rw [named]
    exact (count_clear_tag_le _ _ _).trans (Tag.length_le_of_validate valid (by decide))
  · rename_i other
    rw [TagStore.count, TagStore.tags_tag_of_ne _ (Ne.symm other),
      TagStore.tags_clear_of_ne _ (Ne.symm other), TagStore.count]

theorem count_of_tagResource {input : TagProfile} {u : Unit}
    (h : s.tagResource input = .ok (u, s')) :
    s'.tags.count arn ≤ s.tags.count arn +
      if s.resolveArn input.arn = .ok arn then
        Tag.addedCount (s.tags.tags arn) (Tag.ofMap input.tags)
      else 0 := by
  obtain ⟨a, resolved, valid, rfl⟩ := tagResource_eq_ok_iff.mp h
  rw [resolved]
  split
  · rename_i same
    cases same
    exact TagStore.count_tag_le _ _ _
  · rename_i other
    have apart : arn ≠ a := fun same => other (same ▸ rfl)
    rw [TagStore.count, TagStore.tags_tag_of_ne _ apart, TagStore.count, Nat.add_zero]

theorem count_of_untagResource {input : UntagProfile} {u : Unit}
    (h : s.untagResource input = .ok (u, s')) : s'.tags.count arn ≤ s.tags.count arn := by
  obtain ⟨a, -, rfl⟩ := untagResource_eq_ok_iff.mp h
  by_cases same : arn = a
  · subst same
    exact TagStore.count_untag_le _ _ _
  · rw [TagStore.count, TagStore.tags_untag_of_ne _ same, TagStore.count]

theorem count_after_le (s : SigningService) (arn : String) (q : Request) :
    (s.after q).tags.count arn ≤
      if s.puts arn q then maxTags
      else if s.overfills arn q then s.tags.count arn + maxTags
      else max (s.tags.count arn) maxTags := by
  obtain ⟨at_, action, bag⟩ := q
  cases served : (operations.serve s at_ action bag).run with
  | error e =>
    have refused : s.serves ⟨at_, action, bag⟩ = false := by rw [serves, served]; rfl
    simp only [after, served, puts, overfills, refused, Bool.false_and]
    exact Nat.le_max_left _ _
  | ok answer =>
    obtain ⟨j, s'⟩ := answer
    have accepted : s.serves ⟨at_, action, bag⟩ = true := by rw [serves, served]; rfl
    obtain ⟨op, input, output, hop, decoded, run, -⟩ := Catalog.exists_of_serve served
    simp only [after, served, puts, overfills, accepted, Bool.true_and]
    -- A request that neither puts the profile nor tags it leaves no more tags than there were.
    have kept : s'.tags.count arn ≤ s.tags.count arn →
        s'.tags.count arn ≤ max (s.tags.count arn) maxTags := fun h => h.trans (Nat.le_max_left _ _)
    have looked : s = s' → s'.tags.count arn ≤ max (s.tags.count arn) maxTags :=
      fun same => kept (same ▸ Nat.le_refl _)
    simp only [operations] at hop
    split at hop <;> cases hop
    case h_1 =>
      obtain ⟨⟨p, _⟩, put, same⟩ := map_eq_ok_iff.mp run
      cases same
      have grown : s'.tags.count arn ≤ _ := count_of_putProfile put
      have asked : PutProfile.record.codec.decodeBag bag = .ok input := decoded
      simp only [asked, String.reduceBEq, Bool.true_and, Bool.false_and, beq_iff_eq,
        Bool.false_eq_true, if_false]
      split
      · rename_i named
        rwa [if_pos named] at grown
      · rename_i other
        rw [if_neg other] at grown
        exact kept grown
    case h_2 => exact looked (state_of_look run)
    case h_3 =>
      obtain ⟨p, -, rfl⟩ := cancelProfile_eq_ok_iff.mp run
      exact kept (Nat.le_refl _)
    case h_4 => exact looked (state_of_look run)
    case h_5 => exact looked (state_of_look run)
    case h_6 =>
      have grown : s'.tags.count arn ≤ _ := count_of_tagResource run
      obtain ⟨a, resolved, valid, -⟩ := tagResource_eq_ok_iff.mp run
      have asked : TagProfile.record.codec.decodeBag bag = .ok input := decoded
      have few := Tag.length_le_of_validate valid (by decide)
      simp only [asked, resolved, Except.toOption, String.reduceBEq, Bool.true_and, Bool.false_and,
        Bool.and_eq_true, beq_iff_eq, decide_eq_true_eq, Bool.false_eq_true, if_false,
        Option.some.injEq, Except.ok.injEq] at grown ⊢
      have added := Tag.addedCount_le_length (s.tags.tags arn) (Tag.ofMap input.tags)
      by_cases same : a = arn
      · rw [if_pos same] at grown
        split
        · omega
        · rename_i room
          have fits := Nat.le_of_not_lt fun many => room ⟨same, many⟩
          exact (grown.trans fits).trans (Nat.le_max_right _ _)
      · rw [if_neg same] at grown
        rw [if_neg fun h => same h.1]
        exact kept grown
    case h_7 => exact kept (count_of_untagResource run)
    case h_8 => exact looked (state_of_look run)

theorem count_run_le {s : SigningService} {n : Nat} (h : s.tags.count arn ≤ maxTags * (1 + n))
    (qs : List Request) :
    (qs.foldl after s).tags.count arn ≤ maxTags * (1 + overfillings arn s n qs) := by
  induction qs generalizing s n with
  | nil => exact h
  | cons q rest ih =>
    rw [List.foldl_cons, overfillings]
    have grown := count_after_le s arn q
    apply ih
    rw [maxTags] at h grown ⊢
    by_cases put : s.puts arn q = true
    · rw [if_pos put] at grown ⊢
      exact grown
    · rw [if_neg put] at grown ⊢
      by_cases filled : s.overfills arn q = true
      · rw [if_pos filled] at grown ⊢
        omega
      · rw [if_neg filled] at grown ⊢
        rw [Nat.max_def] at grown
        split at grown
        · omega
        · omega

/-- A profile has no more tags than one list can hold for its last put, and as many again for each
time that it has been overfilled since. -/
theorem profile_tags_bounded (scope : Scope) (qs : List Request) (arn : String) :
    (run scope qs).tags.count arn ≤ maxTags * (1 + overfillings arn (empty scope) 0 qs) :=
  count_run_le (Nat.zero_le _) qs

/-- A profile that is put with as many tags as a list can hold, and is tagged with one more. -/
def overfilledProfile : List Request :=
  [⟨default, "PutSigningProfile",
      .obj [("profileName", .str "firmware"), ("platformId", .str "AWSLambda-SHA384-ECDSA"),
        ("tags", .obj (letters.map fun key => (key, .str "")))]⟩,
    ⟨default, "TagResource",
      .obj [("resourceArn", .str "arn:aws:signer:eu-west-1:123456789012:/signing-profiles/firmware"),
        ("tags", .obj [("more", .str "")])]⟩]
where
  letters : List String :=
    ("abcdefghijklmnopqrstuvwxyzABCDEFGHIJKLMNOPQRSTUVWXYZ".toList.take maxTags).map .singleton

theorem profile_over_limit :
    let s := run ⟨"123456789012", "eu-west-1", "aws"⟩ overfilledProfile
    ¬∀ p ∈ s.profiles.records, s.tags.count p.arn ≤ maxTags := by
  decide +kernel

end SigningService

end ControlPlane
