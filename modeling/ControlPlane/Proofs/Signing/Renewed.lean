import ControlPlane.Proofs.Signing.LaterTags
import ControlPlane.Proofs.Signing.Listing
import ControlPlane.Proofs.Signing.TagGrowth

/-!
A profile that is put under a name which is taken starts anew. Main statement: once a profile is
put, what is told of it depends on that request, on the version that was drawn for it and on the
requests about it since, and on nothing that happened before. The requests since may name it by its
resource name or by that of its version, and stand among any others.
-/

namespace ControlPlane

/-- What a request asks of an operation that reads its bag in this way. -/
def Request.asked? {α : Type} (q : Request) (action : String) (c : Codec α) : Option α :=
  if q.action = action then (c.decodeBag q.bag).toOption else none

/-- The same is asked, perhaps at another moment. -/
def Request.Alike (q q' : Request) : Prop := q.action = q'.action ∧ q.bag = q'.bag

theorem Request.asked?_eq_some_iff {α : Type} {q : Request} {action : String} {c : Codec α}
    {input : α} :
    q.asked? action c = some input ↔ q.action = action ∧ c.decodeBag q.bag = .ok input := by
  rw [asked?]
  by_cases same : q.action = action
  · rw [if_pos same]
    cases c.decodeBag q.bag with
    | error e => simp [Except.toOption]
    | ok i => simp [Except.toOption, same]
  · simp [same]

theorem Request.Alike.asked?_eq {α : Type} {q q' : Request} (h : q.Alike q') (action : String)
    (c : Codec α) : q.asked? action c = q'.asked? action c := by
  rw [asked?, asked?, h.1, h.2]

def SigningProfile.names (p : SigningProfile) : List String := [p.arn, p.versionArn]

namespace SigningService

variable {s s' : SigningService} {p : SigningProfile} {tags : List Tag} {q q' : Request}
  {at_ : Moment} {input : PutProfile} {name : String}

def asksToPut (name : String) (q : Request) : Bool :=
  (q.asked? "PutSigningProfile" PutProfile.record.codec).any fun input => input.name == name

def asksToCancel (name : String) (q : Request) : Bool :=
  q.asked? "CancelSigningProfile" (.single "profileName" .text) == some name

/-- The tags of a resource that goes by these names, after a request that is served. -/
def retagged (names : List String) (tags : List Tag) (q : Request) : List Tag :=
  match q.asked? "TagResource" TagProfile.record.codec,
    q.asked? "UntagResource" UntagProfile.record.codec with
  | some input, _ =>
    if input.arn ∈ names then Tag.upsertAll tags (Tag.ofMap input.tags) else tags
  | none, some input => if input.arn ∈ names then Tag.withoutKeys tags input.keys else tags
  | none, none => tags

/-- The tags of a resource after some requests, of which those count that succeed. -/
def tagsSince (names : List String) : SigningService → List Tag → List Request → List Tag
  | _, tags, [] => tags
  | s, tags, q :: rest =>
    tagsSince names (s.after q) (if s.serves q then retagged names tags q else tags) rest

theorem asksToPut_iff :
    asksToPut name q = true ↔ q.action = "PutSigningProfile" ∧
      ∃ input, PutProfile.record.codec.decodeBag q.bag = .ok input ∧ input.name = name := by
  simp only [asksToPut, Option.any_eq_true, Request.asked?_eq_some_iff, beq_iff_eq, and_assoc,
    exists_and_left]

theorem asksToPut_eq_of_alike (alike : q.Alike q') (name : String) :
    asksToPut name q = asksToPut name q' := by
  rw [asksToPut, alike.asked?_eq, asksToPut]

theorem asksToCancel_eq_of_alike (alike : q.Alike q') (name : String) :
    asksToCancel name q = asksToCancel name q' := by
  rw [asksToCancel, alike.asked?_eq, asksToCancel]

theorem Versioned.resolveArn_of_mem_names (hv : Versioned s) (hl : Labelled s)
    (hp : p ∈ s.profiles.records) {resource : String} (named : resource ∈ p.names) :
    s.resolveArn resource = .ok p.arn := by
  simp only [SigningProfile.names, List.mem_cons, List.not_mem_nil, or_false] at named
  rcases named with rfl | rfl
  · exact hv.resolveArn_arn hl hp
  · exact hv.resolveArn_versionArn hl hp

structure Keeps (s : SigningService) (p : SigningProfile) (tags : List Tag) : Prop where
  live : s.profiles.get? p.name = some p
  tags : s.tags.tags p.arn = tags

structure Stands (s : SigningService) (p : SigningProfile) (tags : List Tag) : Prop
    extends Keeps s p tags where
  labelled : Labelled s
  versioned : Versioned s

theorem Stands.mem (h : Stands s p tags) : p ∈ s.profiles.records := Registry.mem_of_get? h.live

theorem Stands.mem_names_iff (h : Stands s p tags) {resource arn : String}
    (resolved : s.resolveArn resource = .ok arn) : resource ∈ p.names ↔ arn = p.arn := by
  refine ⟨?_, ?_⟩
  · intro named
    rw [h.versioned.resolveArn_of_mem_names h.labelled h.mem named] at resolved
    exact (Except.ok.inj resolved).symm
  · intro same
    obtain ⟨other, live, arn_eq, named⟩ := exists_named_of_resolveArn resolved
    have arns : s.arn other.name = s.arn p.name := by
      rw [← h.labelled.profiles other live, ← h.labelled.profiles p h.mem, arn_eq, same]
    rw [Registry.eq_of_key_eq live h.mem (arn_injective arns)] at named
    simpa [SigningProfile.names] using named

theorem Stands.resolveArn_of_mem_names (h : Stands s p tags) {resource : String}
    (named : resource ∈ p.names) : s.resolveArn resource = .ok p.arn :=
  h.versioned.resolveArn_of_mem_names h.labelled h.mem named

/-! ### One request -/

theorem refused_after {e : ServiceError}
    (refused : (operations.serve s q.at_ q.action q.bag).run = .error e) :
    s.serves q = false ∧ s.after q = s := by
  rw [serves, after, refused]
  exact ⟨rfl, rfl⟩

theorem served_after {j : Json}
    (served : (operations.serve s q.at_ q.action q.bag).run = .ok (j, s')) :
    s.serves q = true ∧ s.after q = s' := by
  rw [serves, after, served]
  exact ⟨rfl, rfl⟩

def changed (p : SigningProfile) (q : Request) : SigningProfile :=
  if asksToCancel p.name q then { p with status := .canceled } else p

theorem changed_of_cancel {bag : Json}
    (asked : (Codec.single "profileName" .text).decodeBag bag = .ok name) :
    changed p ⟨at_, "CancelSigningProfile", bag⟩ =
      if name = p.name then { p with status := .canceled } else p := by
  simp [changed, asksToCancel, Request.asked?, asked, Except.toOption]

theorem Stands.keeps_of_putProfile (h : Stands s p tags) {new : SigningProfile}
    (put : s.putProfile at_ input = .ok (new, s')) (other : input.name ≠ p.name) :
    Keeps s' p tags := by
  obtain ⟨-, -, built, rfl⟩ := putProfile_eq_ok_iff.mp put
  have key : Keyed.key new = input.name := by rw [built]; rfl
  have arn : new.arn = s.arn input.name := by rw [built]; rfl
  have apart : p.arn ≠ new.arn := by
    rw [h.labelled.profiles p h.mem, arn]
    exact fun same => other (arn_injective same).symm
  refine ⟨?_, ?_⟩
  · rw [← h.live]
    exact Registry.get?_insert_of_ne (key.symm ▸ Ne.symm other)
  · rw [← h.tags, ← TagStore.tags_clear_of_ne s.tags apart]
    exact TagStore.tags_tag_of_ne _ apart _

theorem Stands.keeps_of_cancelProfile (h : Stands s p tags) {u : Unit}
    (done : s.cancelProfile name = .ok (u, s')) :
    Keeps s' (if name = p.name then { p with status := .canceled } else p) tags := by
  obtain ⟨r, found, rfl⟩ := cancelProfile_eq_ok_iff.mp done
  split
  · rename_i same
    rw [same, h.live] at found
    cases found
    exact ⟨Registry.get?_insert s.profiles { p with status := .canceled }, h.tags⟩
  · rename_i other
    have apart : p.name ≠ r.name := fun same =>
      other (same.trans (Registry.key_of_get? found)).symm
    exact ⟨(Registry.get?_insert_of_ne apart).trans h.live, h.tags⟩

/-- A change to the tags of the resource that a text names is one to those of the profile if the
text is one of its names. -/
theorem Stands.keeps_of_retag (h : Stands s p tags) {resource arn : String} {store : TagStore}
    (change : List Tag → List Tag) (resolved : s.resolveArn resource = .ok arn)
    (there : store.tags arn = change (s.tags.tags arn))
    (elsewhere : ∀ other, other ≠ arn → store.tags other = s.tags.tags other) :
    Keeps { s with tags := store } p (if resource ∈ p.names then change tags else tags) := by
  refine ⟨h.live, ?_⟩
  split
  · rename_i named
    rw [(h.mem_names_iff resolved).mp named] at there
    rw [there, h.tags]
  · rename_i other
    have apart : p.arn ≠ arn := fun same => other ((h.mem_names_iff resolved).mpr same.symm)
    rw [elsewhere p.arn apart, h.tags]

theorem Stands.keeps_of_tagResource (h : Stands s p tags) {input : TagProfile} {u : Unit}
    (done : s.tagResource input = .ok (u, s')) :
    Keeps s' p
      (if input.arn ∈ p.names then Tag.upsertAll tags (Tag.ofMap input.tags) else tags) := by
  obtain ⟨arn, resolved, -, rfl⟩ := tagResource_eq_ok_iff.mp done
  exact h.keeps_of_retag (Tag.upsertAll · (Tag.ofMap input.tags)) resolved
    (TagStore.tags_tag ..) fun _ other => TagStore.tags_tag_of_ne _ other _

theorem Stands.keeps_of_untagResource (h : Stands s p tags) {input : UntagProfile} {u : Unit}
    (done : s.untagResource input = .ok (u, s')) :
    Keeps s' p (if input.arn ∈ p.names then Tag.withoutKeys tags input.keys else tags) := by
  obtain ⟨arn, resolved, rfl⟩ := untagResource_eq_ok_iff.mp done
  exact h.keeps_of_retag (Tag.withoutKeys · input.keys) resolved
    (TagStore.tags_untag ..) fun _ other => TagStore.tags_untag_of_ne _ other _

theorem Stands.keeps_of_serve (h : Stands s p tags) {action : String} {bag j : Json}
    (free : asksToPut p.name ⟨at_, action, bag⟩ = false)
    (served : (operations.serve s at_ action bag).run = .ok (j, s')) :
    Keeps s' (changed p ⟨at_, action, bag⟩) (retagged p.names tags ⟨at_, action, bag⟩) := by
  obtain ⟨op, input, output, hop, decoded, run, -⟩ := Catalog.exists_of_serve served
  have looked : s = s' → Keeps s' p tags := fun same => same ▸ h.toKeeps
  simp only [operations] at hop
  split at hop <;> cases hop
  case h_1 =>
    obtain ⟨⟨new, _⟩, put, same⟩ := map_eq_ok_iff.mp run
    cases same
    have asked : PutProfile.record.codec.decodeBag bag = .ok input := decoded
    have other : input.name ≠ p.name := fun same =>
      Bool.false_ne_true (free.symm.trans (asksToPut_iff.mpr ⟨rfl, input, asked, same⟩))
    exact h.keeps_of_putProfile put other
  case h_2 => exact looked (state_of_look run)
  case h_3 =>
    have asked : (Codec.single "profileName" .text).decodeBag bag = .ok input := decoded
    have kept := h.keeps_of_cancelProfile run
    rw [changed_of_cancel asked]
    exact kept
  case h_4 => exact looked (state_of_look run)
  case h_5 => exact looked (state_of_look run)
  case h_6 =>
    have asked : TagProfile.record.codec.decodeBag bag = .ok input := decoded
    have kept := h.keeps_of_tagResource run
    simpa [changed, retagged, asksToCancel, Request.asked?, asked, Except.toOption] using kept
  case h_7 =>
    have asked : UntagProfile.record.codec.decodeBag bag = .ok input := decoded
    have kept := h.keeps_of_untagResource run
    simpa [changed, retagged, asksToCancel, Request.asked?, asked, Except.toOption] using kept
  case h_8 => exact looked (state_of_look run)

theorem serves_writing {action : String} {Input Output : Type} {i : Codec Input} {o : Codec Output}
    {run : SigningService → Moment → Input → Except SigningFault (Output × SigningService)}
    (hop : operations action = some (.writing i o run)) {input : Input}
    (asked : q.asked? action i = some input) : s.serves q = (run s q.at_ input).isOk := by
  obtain ⟨rfl, decoded⟩ := Request.asked?_eq_some_iff.mp asked
  rw [serves, Catalog.serve, hop]
  simp only [Operation.serve, Operation.writing, decoded, pure_bind]
  cases run s q.at_ input with
  | error e => rfl
  | ok answer => rfl

theorem Stands.serves_cancel (h : Stands s p tags) (cancels : asksToCancel p.name q = true) :
    s.serves q = true := by
  have asked := beq_iff_eq.mp cancels
  have done := cancelProfile_eq_ok_iff (u := ()).mpr ⟨p, h.live, rfl⟩
  rw [serves_writing (i := .single "profileName" .text) rfl asked, done]
  rfl

theorem Stands.after (h : Stands s p tags) (free : asksToPut p.name q = false) :
    Stands (s.after q) (changed p q) (if s.serves q then retagged p.names tags q else tags) := by
  cases served : (operations.serve s q.at_ q.action q.bag).run with
  | error e =>
    obtain ⟨refused, same⟩ := refused_after served
    have standing : changed p q = p := if_neg fun cancels =>
      Bool.false_ne_true (refused.symm.trans (h.serves_cancel cancels))
    rw [refused, same, standing]
    exact h
  | ok answer =>
    obtain ⟨j, s'⟩ := answer
    obtain ⟨accepted, same⟩ := served_after served
    rw [accepted, same]
    have labelled := (change_after s q).labelled h.labelled
    rw [same] at labelled
    exact ⟨h.keeps_of_serve free served, labelled, versioned_of_serve h.versioned served⟩

theorem isOk_tagResource {input : TagProfile} {arn : String}
    (resolved : s.resolveArn input.arn = .ok arn) :
    (s.tagResource input).isOk = (Tag.validate (Tag.ofMap input.tags) maxTags).isOk := by
  rw [tagResource, resolved]
  cases valid : Tag.validate (Tag.ofMap input.tags) maxTags with
  | error e => simp [valid, bind, Except.bind, Except.mapError, Except.isOk, Except.toBool]
  | ok u => simp [valid, bind, Except.bind, Except.mapError, pure, Except.pure, Except.isOk,
      Except.toBool]

theorem Stands.serves_eq (h : Stands s p tags) (h' : Stands s' p tags) (alike : q.Alike q')
    (meant : retagged p.names tags q ≠ tags) : s.serves q = s'.serves q' := by
  rw [retagged] at meant
  split at meant
  case h_1 _ _ input asked =>
    have named : input.arn ∈ p.names := by
      by_contra other
      exact meant (if_neg other)
    rw [serves_writing (i := TagProfile.record.codec) rfl asked,
      serves_writing (i := TagProfile.record.codec) rfl ((alike.asked?_eq _ _).symm.trans asked),
      isOk_tagResource (h.resolveArn_of_mem_names named),
      isOk_tagResource (h'.resolveArn_of_mem_names named)]
  case h_2 _ _ input _ asked =>
    have named : input.arn ∈ p.names := by
      by_contra other
      exact meant (if_neg other)
    rw [serves_writing (i := UntagProfile.record.codec) rfl asked,
      serves_writing (i := UntagProfile.record.codec) rfl ((alike.asked?_eq _ _).symm.trans asked),
      untagResource, untagResource, h.resolveArn_of_mem_names named,
      h'.resolveArn_of_mem_names named]
    rfl
  case h_3 => exact absurd rfl meant

theorem Stands.retagged_eq (h : Stands s p tags) (h' : Stands s' p tags) (alike : q.Alike q') :
    (if s.serves q then retagged p.names tags q else tags) =
      if s'.serves q' then retagged p.names tags q' else tags := by
  have same : retagged p.names tags q' = retagged p.names tags q := by
    simp only [retagged, alike.asked?_eq]
  rw [same]
  by_cases meant : retagged p.names tags q = tags
  · rw [meant, ite_self, ite_self]
  · rw [h.serves_eq h' alike meant]

/-! ### Two histories -/

theorem changed_name (p : SigningProfile) (q : Request) : (changed p q).name = p.name := by
  rw [changed]
  split <;> rfl

theorem names_changed (p : SigningProfile) (q : Request) : (changed p q).names = p.names := by
  rw [changed]
  split <;> rfl

theorem changed_eq_of_alike (alike : q.Alike q') (p : SigningProfile) :
    changed p q = changed p q' := by
  rw [changed, changed, asksToCancel_eq_of_alike alike]

theorem foldl_changed (p : SigningProfile) (qs : List Request) :
    qs.foldl changed p =
      { p with status := if qs.any (asksToCancel p.name) then .canceled else p.status } := by
  induction qs generalizing p with
  | nil => rfl
  | cons q rest ih =>
    rw [List.foldl_cons, List.any_cons, ih, changed_name]
    cases first : asksToCancel p.name q with
    | true => simp [changed, first]
    | false => simp [changed, first]

theorem Stands.foldl_after (h : Stands s p tags) (h' : Stands s' p tags)
    {later later' : List Request} (alike : List.Forall₂ Request.Alike later later')
    (free : ∀ q ∈ later, asksToPut p.name q = false) :
    Stands (later.foldl SigningService.after s) (later.foldl changed p)
        (tagsSince p.names s tags later) ∧
      Stands (later'.foldl SigningService.after s') (later.foldl changed p)
        (tagsSince p.names s tags later) := by
  induction alike generalizing s s' p tags with
  | nil => exact ⟨h, h'⟩
  | @cons q q' rest rest' same _ ih =>
    have first := free q List.mem_cons_self
    have first' := (asksToPut_eq_of_alike same p.name).symm.trans first
    have next := h.after first
    have next' := h'.after first'
    rw [← h.retagged_eq h' same, ← changed_eq_of_alike same] at next'
    have led := ih next next' fun r hr =>
      (changed_name p q).symm ▸ free r (List.mem_cons_of_mem _ hr)
    rw [names_changed] at led
    exact led

theorem stands_of_putProfile (hl : Labelled s) (hv : Versioned s)
    (put : s.putProfile at_ input = .ok (p, s')) : Stands s' p (Tag.ofMap input.tags) where
  live := by
    obtain ⟨-, -, rfl, rfl⟩ := putProfile_eq_ok_iff.mp put
    exact Registry.get?_insert _ _
  tags := ((hl.tagsSound.profile _ _ _ _ put).2).trans (Tag.settled_ofMap _)
  labelled := (change_of_putProfile put).labelled hl
  versioned := hv.of_putProfile put

theorem Stands.getProfile_eq (h : Stands s p tags) :
    s.getProfile p.name =
      .ok ⟨p, TextMap.ofList (tags.map fun t => (t.key, t.value))⟩ := by
  rw [getProfile, profile_eq_ok_iff.mpr h.live, Except.map, withTags, TagStore.tagMap, h.tags]

theorem Stands.listTags_eq (h : Stands s p tags) {resource : String} (named : resource ∈ p.names) :
    s.listTags resource = .ok (TextMap.ofList (tags.map fun t => (t.key, t.value))) := by
  rw [listTags, h.resolveArn_of_mem_names named, Except.map, TagStore.tagMap, h.tags]

theorem exists_putProfile_of_serves
    (asked : q.asked? "PutSigningProfile" PutProfile.record.codec = some input)
    (served : s.serves q = true) : ∃ p s', s.putProfile q.at_ input = .ok (p, s') := by
  have runs := (serves_writing (i := PutProfile.record.codec) rfl asked).symm.trans served
  cases put : s.putProfile q.at_ input with
  | error e =>
    rw [put] at runs
    cases runs
  | ok answer => exact ⟨answer.1, answer.2, rfl⟩

theorem after_of_putProfile
    (asked : q.asked? "PutSigningProfile" PutProfile.record.codec = some input)
    (put : s.putProfile q.at_ input = .ok (p, s')) : s.serves q = true ∧ s.after q = s' := by
  obtain ⟨named, decoded⟩ := Request.asked?_eq_some_iff.mp asked
  refine served_after (j := ProfileArns.record.codec.encode ⟨p.arn, p.version, p.versionArn⟩) ?_
  rw [named]
  exact congrArg Id.run
    (Catalog.serve_writing rfl decoded (map_eq_ok_iff.mpr ⟨(p, s'), put, rfl⟩))

def drawnVersion (at_ : Moment) : String := (Identifier.numeral versionDigits at_.draws).1

def putRecord (scope : Scope) (input : PutProfile) (version : String) (status : ProfileStatus) :
    SigningProfile :=
  let arn := scope.arn "signer" ("/signing-profiles/" ++ input.name)
  { name := input.name
    version := version
    versionArn := arn ++ "/" ++ version
    arn := arn
    platform := input.platform
    platformName :=
      (SigningPlatform.catalogue.find? fun p => p.id == input.platform).map (·.displayName)
    period := input.period.getD ⟨135, "MONTHS"⟩
    certificate := input.certificate
    parameters := input.parameters
    overrides := input.overrides
    status := status }

theorem stands_of_serves (scope : Scope) (past : List Request) {put : Request}
    (asked : put.asked? "PutSigningProfile" PutProfile.record.codec = some input)
    (served : (run scope past).serves put = true) :
    Stands ((run scope past).after put) (putRecord scope input (drawnVersion put.at_) .active)
      (Tag.ofMap input.tags) := by
  obtain ⟨p, s, done⟩ := exists_putProfile_of_serves asked served
  have stands := stands_of_putProfile (labelled_run scope past) (versioned_run scope past) done
  obtain ⟨-, -, built, -⟩ := putProfile_eq_ok_iff.mp done
  rw [(after_of_putProfile asked done).2]
  have named : p = putRecord scope input (drawnVersion put.at_) .active := by
    rw [built, buildProfile, arn, scope_run]
    rfl
  exact named ▸ stands

/-- What a service tells of a profile since it was put depends on that request, the version that it
drew and the requests since: two histories that have them in common tell the same, whatever came
before. The tags are those of the request, and what the later requests that name the profile, by
either name, have made of them. -/
theorem put_starts_anew (scope : Scope) (past past' : List Request) (put put' : Request)
    (input : PutProfile) (later later' : List Request)
    (asked : put.asked? "PutSigningProfile" PutProfile.record.codec = some input)
    (served : (run scope past).serves put = true) (same : put.Alike put')
    (drawn : drawnVersion put.at_ = drawnVersion put'.at_)
    (alike : List.Forall₂ Request.Alike later later')
    (free : ∀ q ∈ later, asksToPut input.name q = false) :
    let status := if later.any (asksToCancel input.name) then .canceled else .active
    let p := putRecord scope input (drawnVersion put.at_) status
    let tags := tagsSince [p.arn, p.versionArn] ((run scope past).after put)
      (Tag.ofMap input.tags) later
    let shown := TextMap.ofList (tags.map fun t => (t.key, t.value))
    (run scope past').serves put' = true ∧
      ∀ s ∈ [run scope (past ++ put :: later), run scope (past' ++ put' :: later')],
        s.getProfile input.name = .ok ⟨p, shown⟩ ∧
          ∀ resource ∈ [p.arn, p.versionArn], s.listTags resource = .ok shown := by
  intro status p tags shown
  have asked' := (same.asked?_eq _ _).symm.trans asked
  have served' : (run scope past').serves put' = true := by
    obtain ⟨_, _, done⟩ := exists_putProfile_of_serves asked served
    obtain ⟨checked, valid, -, -⟩ := putProfile_eq_ok_iff.mp done
    exact (after_of_putProfile asked' (putProfile_eq_ok_iff.mpr ⟨checked, valid, rfl, rfl⟩)).1
  have start := stands_of_serves scope past asked served
  have start' := stands_of_serves scope past' asked' served'
  rw [← drawn] at start'
  have led := start.foldl_after start' alike free
  have record : later.foldl changed (putRecord scope input (drawnVersion put.at_) .active) = p :=
    foldl_changed _ later
  rw [record, ← run_append_cons, ← run_append_cons] at led
  refine ⟨served', ?_⟩
  intro s hs
  have stands : Stands s p tags := by
    simp only [List.mem_cons, List.not_mem_nil, or_false] at hs
    rcases hs with rfl | rfl
    · exact led.1
    · exact led.2
  exact ⟨stands.getProfile_eq, fun resource named => stands.listTags_eq named⟩

def spentFirmware : List Request :=
  [⟨⟨default, [7]⟩, "PutSigningProfile",
      .obj [("profileName", .str "firmware"), ("platformId", .str "AWSIoTDeviceManagement"),
        ("tags", .obj [("stage", .str "alpha"), ("team", .str "boot")])]⟩,
    ⟨default, "CancelSigningProfile", .obj [("profileName", .str "firmware")]⟩]

def renewedFirmware : Request :=
  ⟨⟨default, [9]⟩, "PutSigningProfile",
    .obj [("profileName", .str "firmware"), ("platformId", .str "AWSLambda-SHA384-ECDSA"),
      ("tags", .obj [("stage", .str "beta")])]⟩

def afterRenewal : List Request :=
  [⟨default, "TagResource",
      .obj [("resourceArn",
          .str "arn:aws:signer:eu-west-1:123456789012:/signing-profiles/firmware/0000000009"),
        ("tags", .obj [("owner", .str "rom")])]⟩,
    ⟨default, "PutSigningProfile",
      .obj [("profileName", .str "bootloader"), ("platformId", .str "AWSLambda-SHA384-ECDSA")]⟩]

theorem put_starts_anew_firmware :
    let scope : Scope := ⟨"123456789012", "eu-west-1", "aws"⟩
    let renewed := run scope (spentFirmware ++ renewedFirmware :: afterRenewal)
    let fresh := run scope ([] ++ renewedFirmware :: afterRenewal)
    (run scope spentFirmware).serves renewedFirmware = true ∧
      (∀ q ∈ afterRenewal, asksToPut "firmware" q = false) ∧
      renewed.getProfile "firmware" = fresh.getProfile "firmware" ∧
      (renewed.getProfile "firmware").toOption.map (fun told => told.tags.entries) =
        some [("owner", "rom"), ("stage", "beta")] := by
  intro scope renewed fresh
  have served : (run scope spentFirmware).serves renewedFirmware = true := by decide +kernel
  have free : ∀ q ∈ afterRenewal, asksToPut "firmware" q = false := by decide +kernel
  have told := put_starts_anew scope spentFirmware [] renewedFirmware renewedFirmware
    ⟨"firmware", "AWSLambda-SHA384-ECDSA", none, none, .empty, none,
      TextMap.ofList [("stage", "beta")]⟩
    afterRenewal afterRenewal rfl served ⟨rfl, rfl⟩ rfl
    (List.forall₂_same.mpr fun _ _ => ⟨rfl, rfl⟩) free
  have first := told.2 renewed List.mem_cons_self
  have second := told.2 fresh (List.mem_cons_of_mem _ List.mem_cons_self)
  exact ⟨served, free, first.1.trans second.1.symm, by decide +kernel⟩

end SigningService

end ControlPlane
