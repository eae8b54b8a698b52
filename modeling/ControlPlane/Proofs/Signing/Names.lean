import ControlPlane.Proofs.Json.Place
import ControlPlane.Proofs.Signing.Renewed

/-!
The names of signing profiles. A profile is named by its resource name and by that of its present
version, and no text names two profiles or is a name of both kinds. So a request about tags means
one profile, whichever of its names stands in the bag, and where no profile has the name there is
nothing that it could mean.

The three operations on tags begin alike: they read the name of a resource from its place, resolve
it, and go on with what it is resolved to. What follows is shown of this form.
-/

namespace ControlPlane

def withResource (name : String) : Json → Json := Json.replaced "resourceArn" 0 (.str name)

namespace SigningService

variable {s s' : SigningService} {p q : SigningProfile} {at_ : Moment}
  {action name other : String} {bag j : Json} {op : Op}

/-- An operation that resolves a name from the bag and works on the resource, whatever name it had.
It refuses only what does not fit the constraints, and leaves all other resources as they are. -/
structure ResourceWork (op : Op) where
  resource : op.Input → String
  renamed : String → op.Input → op.Input
  work : SigningService → String → op.Input → Except SigningFault (op.Output × SigningService)
  placed : ∀ bag i, op.input.decodeBag bag = .ok i →
    bag.placed? "resourceArn" 0 = some (.str (resource i))
  decoded : ∀ bag name other, bag.placed? "resourceArn" 0 = some (.str name) →
    op.input.decodeBag (withResource other bag) = (op.input.decodeBag bag).map (renamed other)
  resource_renamed : ∀ name i, resource (renamed name i) = name
  run : ∀ s at_ i, (op.run s at_ i).run =
    (s.resolveArn (resource i)).bind fun arn => work s arn i
  work_renamed : ∀ s arn name i, work s arn (renamed name i) = work s arn i
  refuses : ∀ {s arn i e}, work s arn i = .error e → ∃ v, e = .validation v
  alone : ∀ {s arn i o s'}, work s arn i = .ok (o, s') →
    s'.profiles = s.profiles ∧ ∀ key, key ≠ arn → s'.tags.tags key = s.tags.tags key

def tagWork : ResourceWork tagResourceOp where
  resource input := input.arn
  renamed name input := { input with arn := name }
  work s arn input := do
    (Tag.validate (Tag.ofMap input.tags) maxTags).mapError .validation
    return ((), { s with tags := s.tags.tag arn (Tag.ofMap input.tags) })
  placed := by
    have made : TagProfile.record.Made 2 fun place input =>
        place "resourceArn" 0 = some (.str input.arn) := by
      refine .member <| .member <| .start ?_
      intro _ _ arn _ _
      exact arn.eq_str
    exact fun _ _ read => made.decodeBag read
  decoded := by
    have swaps : TagProfile.record.Swaps "resourceArn" 0 fun name input =>
        { input with arn := name } := .member (.first (fun _ _ => rfl) _ _) (by decide) _
    exact fun _ _ other stands => swaps.decodeBag stands other
  resource_renamed _ _ := rfl
  run _ _ _ := rfl
  work_renamed _ _ _ _ := rfl
  refuses := by
    intro s arn i e refused
    cases valid : Tag.validate (Tag.ofMap i.tags) maxTags with
    | error v =>
      simp only [valid] at refused
      cases refused
      exact ⟨v, rfl⟩
    | ok u =>
      simp only [valid] at refused
      cases refused
  alone := by
    intro s arn i o s' done
    obtain ⟨-, made⟩ := pass_eq_ok_iff.mp done
    cases made
    exact ⟨rfl, fun key other => TagStore.tags_tag_of_ne _ other _⟩

def untagWork : ResourceWork untagResourceOp where
  resource input := input.arn
  renamed name input := { input with arn := name }
  work s arn input := .ok ((), { s with tags := s.tags.untag arn input.keys })
  placed := by
    have made : UntagProfile.record.Made 2 fun place input =>
        place "resourceArn" 0 = some (.str input.arn) := by
      refine .member <| .member <| .start ?_
      intro _ _ arn _ _
      exact arn.eq_str
    exact fun _ _ read => made.decodeBag read
  decoded := by
    have swaps : UntagProfile.record.Swaps "resourceArn" 0 fun name input =>
        { input with arn := name } := .member (.first (fun _ _ => rfl) _ _) (by decide) _
    exact fun _ _ other stands => swaps.decodeBag stands other
  resource_renamed _ _ := rfl
  run _ _ _ := rfl
  work_renamed _ _ _ _ := rfl
  refuses := nofun
  alone := by
    intro s arn i o s' done
    cases done
    exact ⟨rfl, fun key other => TagStore.tags_untag_of_ne _ other _⟩

def listWork : ResourceWork listTagsOp where
  resource name := name
  renamed name _ := name
  work s arn _ := .ok (s.tags.tagMap arn, s)
  placed := by
    have made : ((Record.start id).required "resourceArn" .text id).Made 1 fun place name =>
        place "resourceArn" 0 = some (.str name) := by
      refine .member <| .start ?_
      intro _ _ arn
      exact arn.eq_str
    exact fun _ _ read => made.decodeBag read
  decoded := by
    have swaps : ((Record.start id).required "resourceArn" .text id).Swaps "resourceArn" 0
        fun name _ => name := .first (fun _ _ => rfl) _ _
    exact fun _ _ other stands => swaps.decodeBag stands other
  resource_renamed _ _ := rfl
  run s _ name := by
    simp only [listTagsOp, Operation.reading, listTags]
    cases s.resolveArn name <;> rfl
  work_renamed _ _ _ _ := rfl
  refuses := nofun
  alone := by
    intro s arn i o s' done
    cases done
    exact ⟨rfl, fun _ _ => rfl⟩

inductive Addresses : String → Json → String → Prop where
  | tag {bag : Json} {input : TagProfile}
    (read : TagProfile.record.codec.decodeBag bag = .ok input) :
    Addresses "TagResource" bag input.arn
  | untag {bag : Json} {input : UntagProfile}
    (read : UntagProfile.record.codec.decodeBag bag = .ok input) :
    Addresses "UntagResource" bag input.arn
  | list {bag : Json} {name : String}
    (read : (Codec.single "resourceArn" .text).decodeBag bag = .ok name) :
    Addresses "ListTagsForResource" bag name

def tagActions : List String := ["TagResource", "UntagResource", "ListTagsForResource"]

theorem exists_work_of_listed (listed : action ∈ tagActions) :
    ∃ op, operations action = some op ∧ Nonempty (ResourceWork op) := by
  simp only [tagActions, List.mem_cons, List.not_mem_nil, or_false] at listed
  rcases listed with rfl | rfl | rfl
  · exact ⟨_, rfl, ⟨tagWork⟩⟩
  · exact ⟨_, rfl, ⟨untagWork⟩⟩
  · exact ⟨_, rfl, ⟨listWork⟩⟩

theorem Addresses.exists_work (h : Addresses action bag name) :
    ∃ op, ∃ r : ResourceWork op, ∃ i, operations action = some op ∧
      op.input.decodeBag bag = .ok i ∧ r.resource i = name := by
  cases h with
  | tag read => exact ⟨tagResourceOp, tagWork, _, rfl, read, rfl⟩
  | untag read => exact ⟨untagResourceOp, untagWork, _, rfl, read, rfl⟩
  | list read => exact ⟨listTagsOp, listWork, _, rfl, read, rfl⟩

theorem resolveArn_of_not_mem_names (h : ∀ p ∈ s.profiles.records, name ∉ p.names) :
    s.resolveArn name = .error (.resourceNotFound name) := by
  have unknown : ¬ (s.profiles.find? fun p => p.arn == name || p.versionArn == name).isSome := by
    rw [Registry.find?, List.find?_isSome]
    rintro ⟨p, live, same⟩
    simp only [Bool.or_eq_true, beq_iff_eq] at same
    exact h p live (by simpa [SigningProfile.names, eq_comm] using same)
  rw [resolveArn, if_neg unknown]

theorem Versioned.eq_of_mem_names (hv : Versioned s) (hl : Labelled s)
    (hp : p ∈ s.profiles.records) (hq : q ∈ s.profiles.records) (first : name ∈ p.names)
    (second : name ∈ q.names) : p = q := by
  have resolved := hv.resolveArn_of_mem_names hl hp first
  rw [hv.resolveArn_of_mem_names hl hq second] at resolved
  have arns : s.arn q.name = s.arn p.name := by
    rw [← hl.profiles q hq, ← hl.profiles p hp]
    exact Except.ok.inj resolved
  exact Registry.eq_of_key_eq hp hq (arn_injective arns).symm

theorem serve_withResource_eq (listed : action ∈ tagActions)
    (stands : bag.placed? "resourceArn" 0 = some (.str name))
    (same : s.resolveArn other = s.resolveArn name) :
    operations.serve s at_ action (withResource other bag) = operations.serve s at_ action bag := by
  obtain ⟨op, hop, ⟨r⟩⟩ := exists_work_of_listed listed
  refine Catalog.serve_congr hop (r.decoded bag name other stands) fun i read => ?_
  have named : r.resource i = name := by
    have found := (r.placed bag i read).symm.trans stands
    simpa using found
  have runs : (op.run s at_ (r.renamed other i)).run = (op.run s at_ i).run := by
    rw [r.run, r.run, r.resource_renamed, named, same]
    simp only [r.work_renamed]
  exact runs

theorem run_serve_of_addresses (h : Addresses action bag name) (s : SigningService)
    (at_ : Moment) :
    ∃ op, ∃ r : ResourceWork op, ∃ i, (operations.serve s at_ action bag).run =
      op.answer ((s.resolveArn name).bind fun arn => r.work s arn i) := by
  obtain ⟨op, r, i, hop, read, rfl⟩ := h.exists_work
  refine ⟨op, r, i, ?_⟩
  rw [Catalog.run_serve_of_decoded hop read, r.run]

theorem run_serve_eq_notFound_iff (hv : Versioned s) (hl : Labelled s)
    (h : Addresses action bag name) :
    (operations.serve s at_ action bag).run =
        .error ⟨"ResourceNotFoundException", "Resource " ++ name ++ " does not exist", 404⟩ ↔
      ∀ p ∈ s.profiles.records, name ∉ p.names := by
  obtain ⟨op, r, i, answer⟩ := run_serve_of_addresses h s at_
  rw [answer]
  constructor
  · intro refused p live named
    rw [hv.resolveArn_of_mem_names hl live named, Except.bind] at refused
    cases done : r.work s p.arn i with
    | ok result =>
      rw [done] at refused
      cases refused
    | error e =>
      obtain ⟨v, rfl⟩ := r.refuses done
      rw [done] at refused
      have code : "ValidationException" = "ResourceNotFoundException" :=
        congrArg ServiceError.code (Except.error.inj refused)
      exact absurd code (by decide)
  · intro unknown
    rw [resolveArn_of_not_mem_names unknown]
    rfl

theorem alone_of_serve (h : Addresses action bag name) {arn : String}
    (known : s.resolveArn name = .ok arn)
    (served : (operations.serve s at_ action bag).run = .ok (j, s')) :
    s'.profiles = s.profiles ∧ ∀ key, key ≠ arn → s'.tags.tags key = s.tags.tags key := by
  obtain ⟨op, r, i, answer⟩ := run_serve_of_addresses h s at_
  rw [answer, known] at served
  obtain ⟨output, done, -⟩ := Operation.answer_eq_ok_iff.mp served
  exact r.alone done

/-- Each profile has names of its own, and either of them stands for it: no text is a name of two
profiles, nor a resource name and that of a version; a request about tags is answered alike, with
the same state, by either name of a profile; it changes nothing of another; and it is refused as one
about nothing exactly if no profile has the name. -/
structure NamesOne (s : SigningService) : Prop where
  own : ∀ p ∈ s.profiles.records, ∀ q ∈ s.profiles.records, ∀ name ∈ p.names,
    name ∈ q.names → p = q
  apart : ∀ p ∈ s.profiles.records, ∀ q ∈ s.profiles.records, p.arn ≠ q.versionArn
  alike : ∀ p ∈ s.profiles.records, ∀ name ∈ p.names, ∀ other ∈ p.names, ∀ action ∈ tagActions,
    ∀ at_ bag, bag.placed? "resourceArn" 0 = some (.str name) →
      operations.serve s at_ action (withResource other bag) = operations.serve s at_ action bag
  alone : ∀ p ∈ s.profiles.records, ∀ name ∈ p.names, ∀ action at_ bag j s',
    Addresses action bag name → (operations.serve s at_ action bag).run = .ok (j, s') →
      s'.profiles = s.profiles ∧
        ∀ q ∈ s.profiles.records, q ≠ p → s'.tags.tags q.arn = s.tags.tags q.arn
  unknown : ∀ action at_ bag name, Addresses action bag name →
    ((operations.serve s at_ action bag).run =
        .error ⟨"ResourceNotFoundException", "Resource " ++ name ++ " does not exist", 404⟩ ↔
      ∀ p ∈ s.profiles.records, name ∉ p.names)

theorem profiles_have_names_of_their_own (scope : Scope) (qs : List Request) :
    NamesOne (run scope qs) := by
  have hl := labelled_run scope qs
  have hv := versioned_run scope qs
  exact
    { own := fun p hp q hq name first second => hv.eq_of_mem_names hl hp hq first second
      apart := fun p hp q hq => hv.arn_ne_versionArn hl hp hq
      alike := by
        intro p hp name named other named' action listed at_ bag stands
        refine serve_withResource_eq listed stands ?_
        rw [hv.resolveArn_of_mem_names hl hp named, hv.resolveArn_of_mem_names hl hp named']
      alone := by
        intro p hp name named action at_ bag j s' h served
        obtain ⟨same, others⟩ := alone_of_serve h (hv.resolveArn_of_mem_names hl hp named) served
        refine ⟨same, fun q hq other => others q.arn fun arns => other ?_⟩
        exact hv.eq_of_mem_names hl hq hp List.mem_cons_self (arns ▸ List.mem_cons_self)
      unknown := fun action at_ bag name h => run_serve_eq_notFound_iff hv hl h }

end SigningService

end ControlPlane
