import ControlPlane.Proofs.Delivery.LaterTags
import ControlPlane.Proofs.Directory.LaterTags
import ControlPlane.Proofs.Region.Ledger
import ControlPlane.Proofs.Region.Renewal
import ControlPlane.Proofs.Region.Seat
import ControlPlane.Proofs.Region.Secret
import ControlPlane.Proofs.Region.Tags
import ControlPlane.Proofs.Resolver.LaterTags
import ControlPlane.Proofs.Signing.LaterTags

/-!
Tags that come with a creation, and tags that are written right after it. A creation with tags is a
creation without and a write; what is written later has its own checks. Main statement: whatever
the region has met, both ways accept the same tags and lead to the same region, except that a quota
of zero keeps no tags out of a creation and all out of a later request.
-/

namespace ControlPlane

/-- A request that creates something and can bring tags, and the request of the same service that
tags what it has created, known from the input and the answer. -/
structure Creation {m : Type → Type} [Monad m] {σ ε : Type} [Fault ε] (seat : Seat m σ ε) where
  create : Operation m σ ε
  tag : Operation m σ ε
  Tags : Type
  none : Tags
  bring : create.Input → Tags → create.Input
  later : create.Input → create.Output → Tags → tag.Input

namespace Creation

variable {m : Type → Type} [Monad m] {σ ε : Type} [Fault ε] {seat : Seat m σ ε}

def ofList (create tag : Operation m σ ε) (bring : create.Input → List Tag → create.Input)
    (later : create.Input → create.Output → List Tag → tag.Input) : Creation seat :=
  ⟨create, tag, List Tag, [], bring, later⟩

def CreatedBare (c : Creation seat) (r : Region) (at_ : Moment) (input : c.create.Input)
    (o : c.create.Output) (r' : Region) : Prop :=
  seat.run c.create (c.bring input c.none) r at_ = .ok (o, r')

/-- Something has been created without tags at `at_`, with `r'` the region after it. These tags can
be written to it exactly if it could have been created with them, at this moment or any other; and
if it had been, at this moment, the region would end up the same. -/
structure Agrees (c : Creation seat) (r : Region) (at_ : Moment) (input : c.create.Input)
    (o : c.create.Output) (r' : Region) (tags : c.Tags) : Prop where
  possible : ∀ now later,
    (∃ result, seat.run c.create (c.bring input tags) r now = .ok result) ↔
      ∃ result, seat.run c.tag (c.later input o tags) r' later = .ok result
  same : ∀ later brought first u second,
    seat.run c.create (c.bring input tags) r at_ = .ok (brought, first) →
      seat.run c.tag (c.later input o tags) r' later = .ok (u, second) → first = second

def AgreesFor (c : Creation seat) (r : Region) (p : c.Tags → Prop) : Prop :=
  ∀ at_ input o r', c.CreatedBare r at_ input o r' →
    ∀ tags, c.Agrees r at_ input o r' tags ↔ p tags

theorem AgreesFor.congr {c : Creation seat} {r : Region} {p q : c.Tags → Prop}
    (h : c.AgreesFor r p) (same : ∀ tags, p tags ↔ q tags) : c.AgreesFor r q :=
  fun at_ input o r' ran tags => (h at_ input o r' ran tags).trans (same tags)

theorem AgreesFor.exists_agrees {c : Creation seat} {r : Region} {p : c.Tags → Prop}
    (h : c.AgreesFor r p) {at_ : Moment} {input : c.create.Input}
    (made : (seat.run c.create (c.bring input c.none) r at_).isOk = true) (tags : c.Tags) :
    ∃ o r', c.CreatedBare r at_ input o r' ∧ (c.Agrees r at_ input o r' tags ↔ p tags) := by
  cases ran : seat.run c.create (c.bring input c.none) r at_ with
  | error e =>
    rw [ran] at made
    cases made
  | ok result => exact ⟨result.1, result.2, ran, h at_ input _ _ ran tags⟩

/-- What the creation and the later request do to the service: each accepts some tags, and both
write them in the same way. -/
structure Splits (c : Creation seat) (r : Region) (accepts fits : c.Tags → Prop)
    (write : c.create.Output → σ → c.Tags → σ) : Prop where
  state_put : ∀ s, seat.state (seat.put r s) = s
  put_put : ∀ s t, seat.put (seat.put r s) t = seat.put r t
  created : ∀ {at_ input tags o s'},
    seat.answer r (c.create.run (seat.state r) at_ (c.bring input tags)) = .ok (o, s') ↔
      accepts tags ∧
        ∃ s, seat.answer r (c.create.run (seat.state r) at_ (c.bring input c.none)) = .ok (o, s) ∧
          s' = write o s tags
  again : ∀ {at_ input o s},
    seat.answer r (c.create.run (seat.state r) at_ (c.bring input c.none)) = .ok (o, s) →
      ∀ now, ∃ other t,
        seat.answer r (c.create.run (seat.state r) now (c.bring input c.none)) = .ok (other, t)
  tagged : ∀ {at_ input o s},
    seat.answer r (c.create.run (seat.state r) at_ (c.bring input c.none)) = .ok (o, s) →
      ∀ later tags {s'},
        (∃ u, seat.answer (seat.put r s) (c.tag.run s later (c.later input o tags)) = .ok (u, s')) ↔
          fits tags ∧ s' = write o s tags

namespace Splits

variable {c : Creation seat} {r : Region} {accepts fits : c.Tags → Prop}
  {write : c.create.Output → σ → c.Tags → σ}

theorem create_eq_ok_iff (h : c.Splits r accepts fits write) {at_ : Moment}
    {input : c.create.Input} {tags : c.Tags} {o : c.create.Output} {r' : Region} :
    seat.run c.create (c.bring input tags) r at_ = .ok (o, r') ↔
      accepts tags ∧
        ∃ s, seat.answer r (c.create.run (seat.state r) at_ (c.bring input c.none)) = .ok (o, s) ∧
          r' = seat.put r (write o s tags) := by
  rw [seat.run_eq_ok_iff]
  constructor
  · rintro ⟨_, done, rfl⟩
    obtain ⟨accepted, s, bare, rfl⟩ := h.created.mp done
    exact ⟨accepted, s, bare, rfl⟩
  · rintro ⟨accepted, s, bare, rfl⟩
    exact ⟨_, h.created.mpr ⟨accepted, s, bare, rfl⟩, rfl⟩

theorem exists_tag_eq_ok_iff (h : c.Splits r accepts fits write) {at_ : Moment}
    {input : c.create.Input} {o : c.create.Output} {s : σ}
    (bare : seat.answer r (c.create.run (seat.state r) at_ (c.bring input c.none)) = .ok (o, s))
    (later : Moment) (tags : c.Tags) {r' : Region} :
    (∃ u, seat.run c.tag (c.later input o tags) (seat.put r s) later = .ok (u, r')) ↔
      fits tags ∧ r' = seat.put r (write o s tags) := by
  simp only [seat.run_eq_ok_iff, h.state_put, h.put_put]
  constructor
  · rintro ⟨u, _, done, rfl⟩
    obtain ⟨fit, rfl⟩ := (h.tagged bare later tags).mp ⟨u, done⟩
    exact ⟨fit, rfl⟩
  · rintro ⟨fit, rfl⟩
    obtain ⟨u, done⟩ := (h.tagged bare later tags).mpr ⟨fit, rfl⟩
    exact ⟨u, _, done, rfl⟩

theorem agreesFor (h : c.Splits r accepts fits write) :
    c.AgreesFor r fun tags => accepts tags ↔ fits tags := by
  intro at_ input o r' ran tags
  obtain ⟨s, bare, rfl⟩ := seat.run_eq_ok_iff.mp ran
  have brought : ∀ now, (∃ result, seat.run c.create (c.bring input tags) r now = .ok result) ↔
      accepts tags := by
    intro now
    rw [Prod.exists]
    simp only [h.create_eq_ok_iff]
    obtain ⟨other, t, again⟩ := h.again bare now
    exact ⟨fun ⟨_, _, accepted, _⟩ => accepted, fun accepted => ⟨_, _, accepted, t, again, rfl⟩⟩
  have written : ∀ later,
      (∃ result, seat.run c.tag (c.later input o tags) (seat.put r s) later = .ok result) ↔
        fits tags := by
    intro later
    rw [Prod.exists, exists_comm]
    simp only [h.exists_tag_eq_ok_iff bare, exists_and_left, exists_eq, and_true]
  constructor
  · intro agrees
    exact (brought default).symm.trans ((agrees.possible default default).trans (written default))
  · intro alike
    refine ⟨fun now later => (brought now).trans (alike.trans (written later).symm), ?_⟩
    intro later o₂ first u second created tagged
    obtain ⟨-, t, again, rfl⟩ := h.create_eq_ok_iff.mp created
    obtain ⟨-, rfl⟩ := (h.exists_tag_eq_ok_iff bare later tags).mp ⟨u, tagged⟩
    cases bare.symm.trans again
    rfl

end Splits

section Directory

open DirectoryService

def createDirectory : Creation Seat.directory :=
  .ofList createDirectoryOp addTagsOp
    (fun (input : CreateDirectory) tags => { input with tags := tags })
    fun _ id tags => (⟨id, tags⟩ : AddTags)

def createMicrosoft : Creation Seat.directory :=
  .ofList createMicrosoftOp addTagsOp
    (fun (input : CreateMicrosoftDirectory) tags => { input with tags := tags })
    fun _ id tags => (⟨id, tags⟩ : AddTags)

def connectDirectory : Creation Seat.directory :=
  .ofList connectDirectoryOp addTagsOp
    (fun (input : ConnectDirectory) tags => { input with tags := tags })
    fun _ id tags => (⟨id, tags⟩ : AddTags)

def ofDraft {Input : Type} (codec : Codec Input)
    (draft : Input → Except DirectoryFault DirectoryDraft) (bring : Input → List Tag → Input) :
    Creation Seat.directory :=
  .ofList ⟨Input, String, codec, idAnswer, fun s at_ input => (s.create at_ (draft input)).run⟩
    addTagsOp bring fun _ id tags => (⟨id, tags⟩ : AddTags)

theorem splits_ofDraft {Input : Type} (codec : Codec Input)
    (draft : Input → Except DirectoryFault DirectoryDraft) {bring : Input → List Tag → Input}
    (brings : ∀ input tags, draft (bring input tags) = (draft input).map (·.withTags tags))
    {r : Region} (labelled : Labelled r.directory)
    (room : r.directory.directories.size < 16 ^ idDigits) :
    (ofDraft codec draft bring).Splits r Taggable Taggable
      fun (id : String) s tags => { s with tags := s.tags.tag id tags } := by
  have done : ∀ {at_ : Moment} {input : Input} {tags : List Tag} {id : String}
      {s' : DirectoryService},
      (r.directory.create at_ (draft (bring input tags))).run.answer r.network.view =
          .ok (id, s') ↔
        Lookup.Succeeds {r.network.view}
          (r.directory.create at_ ((draft input).map (·.withTags tags))) (id, s') := by
    intro at_ input tags id s'
    rw [brings, eq_comm]
    exact Lookup.mem_outcomes_singleton_iff.symm
  refine ⟨fun _ => rfl, fun _ _ => rfl, ?_, ?_, ?_⟩
  · intro at_ input tags id s'
    refine done.trans (succeeds_create_withTags_iff.trans (and_congr_right fun _ => ?_))
    exact exists_congr fun t => and_congr_left fun _ => done.symm
  · intro at_ input id s ran now
    obtain ⟨other, t, again⟩ := exists_create_at (done.mp ran) now
    exact ⟨other, t, done.mpr again⟩
  · intro at_ input id s ran later tags s'
    exact Labelled.addTags_iff labelled room (done.mp ran)

theorem agreesFor_ofDraft {Input : Type} (codec : Codec Input)
    (draft : Input → Except DirectoryFault DirectoryDraft) {bring : Input → List Tag → Input}
    (brings : ∀ input tags, draft (bring input tags) = (draft input).map (·.withTags tags))
    {r : Region} (labelled : Labelled r.directory)
    (room : r.directory.directories.size < 16 ^ idDigits) :
    (ofDraft codec draft bring).AgreesFor r fun _ => True :=
  (splits_ofDraft codec draft brings labelled room).agreesFor.congr fun _ => iff_true_intro Iff.rfl

end Directory

section Resolver

open ResolverService

def createEndpoint : Creation Seat.resolver :=
  .ofList createEndpointOp tagResourceOp
    (fun (input : CreateEndpoint) tags => { input with tags := tags })
    fun _ (e : Endpoint) tags => (⟨e.arn, tags⟩ : TagByArn)

def createRule : Creation Seat.resolver :=
  .ofList createRuleOp tagResourceOp
    (fun (input : CreateRule) tags => { input with tags := tags })
    fun _ (q : ForwardingRule) tags => (⟨q.arn, tags⟩ : TagByArn)

variable {r : Region}

theorem splits_createEndpoint (labelled : Labelled r.resolver) :
    createEndpoint.Splits r
      (fun tags => Tag.validate tags r.resolver.quotas.tagsPerResource = .ok ())
      (fun tags => Tag.validate tags r.resolver.quotas.tagsPerResource = .ok () ∧
        tags.length ≤ r.resolver.quotas.tagsPerResource)
      fun (e : Endpoint) s tags => { s with tags := s.tags.tag e.arn tags } := by
  have done : ∀ {at_ : Moment} {input : CreateEndpoint} {e : Endpoint} {s' : ResolverService},
      (r.resolver.createEndpoint at_ input).run.answer r.network.view = .ok (e, s') ↔
        Lookup.Succeeds {r.network.view} (r.resolver.createEndpoint at_ input) (e, s') :=
    eq_comm.trans Lookup.mem_outcomes_singleton_iff.symm
  refine ⟨fun _ => rfl, fun _ _ => rfl, ?_, ?_, ?_⟩
  · intro at_ input tags e s'
    refine done.trans (succeeds_createEndpoint_withTags_iff.trans (and_congr_right fun _ => ?_))
    exact exists_congr fun t => and_congr_left fun _ => done.symm
  · intro at_ input e s ran now
    obtain ⟨other, t, again⟩ := exists_createEndpoint_at (done.mp ran) now
    exact ⟨other, t, done.mpr again⟩
  · intro at_ input e s ran later tags s'
    exact labelled.tagEndpoint_iff (done.mp ran)

theorem splits_createRule (labelled : Labelled r.resolver) :
    createRule.Splits r
      (fun tags => Tag.validate tags r.resolver.quotas.tagsPerResource = .ok ())
      (fun tags => Tag.validate tags r.resolver.quotas.tagsPerResource = .ok () ∧
        tags.length ≤ r.resolver.quotas.tagsPerResource)
      fun (q : ForwardingRule) s tags => { s with tags := s.tags.tag q.arn tags } where
  state_put _ := rfl
  put_put _ _ := rfl
  created := createRule_withTags_iff
  again := exists_createRule_at
  tagged := fun ran _ _ _ => labelled.tagRule_iff ran

end Resolver

section Delivery

open DeliveryService

def createStream : Creation Seat.delivery :=
  .ofList createStreamOp tagStreamOp
    (fun (input : CreateStream) tags => { input with tags := tags })
    fun (input : CreateStream) _ tags => (⟨input.name, tags⟩ : TagStream)

theorem splits_createStream {r : Region} (labelled : Labelled r.delivery) :
    createStream.Splits r
      (fun tags => Tag.validate tags r.delivery.quotas.tagsPerStream = .ok ())
      (fun tags => Tag.validate tags r.delivery.quotas.tagsPerStream = .ok () ∧
        tags.length ≤ r.delivery.quotas.tagsPerStream)
      fun (arn : String) s tags => { s with tags := s.tags.tag arn tags } := by
  have done : ∀ {at_ : Moment} {input : CreateStream} {arn : String} {s' : DeliveryService},
      Seat.delivery.answer r (createStreamOp.run r.delivery at_ input) = .ok (arn, s') ↔
        ∃ t, r.delivery.createStream at_ input = .ok (t, s') ∧ t.arn = arn := by
    intro at_ input arn s'
    constructor
    · intro ran
      obtain ⟨⟨t, _⟩, made, same⟩ := map_eq_ok_iff.mp ran
      cases same
      exact ⟨t, made, rfl⟩
    · rintro ⟨t, made, rfl⟩
      exact map_eq_ok_iff.mpr ⟨(t, s'), made, rfl⟩
  refine ⟨fun _ => rfl, fun _ _ => rfl, ?_, ?_, ?_⟩
  · intro at_ input tags arn s'
    refine done.trans ?_
    constructor
    · rintro ⟨t, made, rfl⟩
      obtain ⟨valid, s, bare, rfl⟩ := createStream_withTags_iff.mp made
      exact ⟨valid, s, done.mpr ⟨t, bare, rfl⟩, rfl⟩
    · rintro ⟨valid, s, bare, rfl⟩
      obtain ⟨t, made, rfl⟩ := done.mp bare
      exact ⟨t, createStream_withTags_iff.mpr ⟨valid, s, made, rfl⟩, rfl⟩
  · intro at_ input arn s ran now
    obtain ⟨t, made, -⟩ := done.mp ran
    obtain ⟨other, u, again⟩ := exists_createStream_at made now
    exact ⟨other.arn, u, done.mpr ⟨other, again, rfl⟩⟩
  · intro at_ input arn s ran later tags s'
    obtain ⟨t, made, rfl⟩ := done.mp ran
    exact labelled.tagStream_iff made

end Delivery

section Signing

open SigningService

def putProfile (resource : ProfileArns → String) : Creation Seat.signing where
  create := putProfileOp
  tag := tagResourceOp
  Tags := TextMap
  none := .empty
  bring := fun (input : PutProfile) tags => { input with tags := tags }
  later := fun _ (o : ProfileArns) tags => (⟨resource o, tags⟩ : TagProfile)

theorem splits_putProfile {r : Region} {resource : ProfileArns → String}
    (resolves : ∀ at_ input p s, r.signing.putProfile at_ input = .ok (p, s) →
      s.resolveArn (resource ⟨p.arn, p.version, p.versionArn⟩) = .ok p.arn) :
    (putProfile resource).Splits r
      (fun tags => Tag.validate (Tag.ofMap tags) maxTags = .ok ())
      (fun tags => Tag.validate (Tag.ofMap tags) maxTags = .ok ())
      fun (o : ProfileArns) s tags => { s with tags := s.tags.tag o.arn (Tag.ofMap tags) } := by
  have done : ∀ {at_ : Moment} {input : PutProfile} {o : ProfileArns} {s' : SigningService},
      Seat.signing.answer r (putProfileOp.run r.signing at_ input) = .ok (o, s') ↔
        ∃ p, r.signing.putProfile at_ input = .ok (p, s') ∧
          (⟨p.arn, p.version, p.versionArn⟩ : ProfileArns) = o := by
    intro at_ input o s'
    constructor
    · intro ran
      obtain ⟨⟨p, _⟩, put, same⟩ := map_eq_ok_iff.mp ran
      cases same
      exact ⟨p, put, rfl⟩
    · rintro ⟨p, put, rfl⟩
      exact map_eq_ok_iff.mpr ⟨(p, s'), put, rfl⟩
  refine ⟨fun _ => rfl, fun _ _ => rfl, ?_, ?_, ?_⟩
  · intro at_ input tags o s'
    refine done.trans ?_
    constructor
    · rintro ⟨p, put, rfl⟩
      obtain ⟨valid, s, bare, rfl⟩ := putProfile_withTags_iff.mp put
      exact ⟨valid, s, done.mpr ⟨p, bare, rfl⟩, rfl⟩
    · rintro ⟨valid, s, bare, rfl⟩
      obtain ⟨p, put, rfl⟩ := done.mp bare
      exact ⟨p, putProfile_withTags_iff.mpr ⟨valid, s, put, rfl⟩, rfl⟩
  · intro at_ input o s ran now
    obtain ⟨p, put, -⟩ := done.mp ran
    obtain ⟨other, t, again⟩ := exists_putProfile_at put now
    exact ⟨_, t, done.mpr ⟨other, again, rfl⟩⟩
  · intro at_ input o s ran later tags s'
    obtain ⟨p, put, rfl⟩ := done.mp ran
    exact tagResource_iff_of_resolveArn (resolves _ _ _ _ put)

end Signing

end Creation

namespace Region

open Creation

theorem signing_versioned_run (scope : Scope) (quotas : Quotas) (steps : List Step) :
    (run scope quotas steps).signing.Versioned := by
  induction steps using List.reverseRecOn with
  | nil => exact SigningService.versioned_empty scope
  | append_singleton steps step ih =>
    rw [run_concat]
    exact signing_after SigningService.versioned_empty SigningService.versioned_of_serve ih step

/-- Tags that come with a creation and tags that come right after it, after any history that leaves
an id for one more directory. The two ways agree for directories and for signing profiles, whichever
name of a profile is used; in the other services, for all tags but those that slip through because
the quota is zero. -/
theorem later_tags_agree (scope : Scope) (quotas : Quotas) (steps : List Step)
    (room : ((run scope quotas steps).keys .directory).length < 16 ^ DirectoryService.idDigits) :
    let r := run scope quotas steps
    (createDirectory.AgreesFor r (fun _ => True) ∧ createMicrosoft.AgreesFor r (fun _ => True) ∧
        connectDirectory.AgreesFor r (fun _ => True)) ∧
      (createEndpoint.AgreesFor r (¬Tag.Slips quotas.resolver.tagsPerResource ·) ∧
        createRule.AgreesFor r (¬Tag.Slips quotas.resolver.tagsPerResource ·)) ∧
      createStream.AgreesFor r (¬Tag.Slips quotas.delivery.tagsPerStream ·) ∧
      (putProfile ProfileArns.arn).AgreesFor r (fun _ => True) ∧
        (putProfile ProfileArns.versionArn).AgreesFor r (fun _ => True) := by
  intro r
  have labelled := labelled_run scope quotas steps
  have versioned := signing_versioned_run scope quotas steps
  have fits : r.directory.directories.size < 16 ^ DirectoryService.idDigits :=
    (Registry.length_keys _).symm.trans_lt room
  rw [← resolver_quotas_run scope quotas steps, ← delivery_quotas_run scope quotas steps]
  refine ⟨⟨?_, ?_, ?_⟩, ⟨?_, ?_⟩, ?_, ?_, ?_⟩
  · exact agreesFor_ofDraft CreateDirectory.record.codec CreateDirectory.draft
      CreateDirectory.draft_withTags labelled.directory fits
  · exact agreesFor_ofDraft CreateMicrosoftDirectory.record.codec CreateMicrosoftDirectory.draft
      CreateMicrosoftDirectory.draft_withTags labelled.directory fits
  · exact agreesFor_ofDraft ConnectDirectory.record.codec ConnectDirectory.draft
      ConnectDirectory.draft_withTags labelled.directory fits
  · exact (splits_createEndpoint labelled.resolver).agreesFor.congr fun _ =>
      Tag.validate_iff_few_iff
  · exact (splits_createRule labelled.resolver).agreesFor.congr fun _ => Tag.validate_iff_few_iff
  · exact (splits_createStream labelled.delivery).agreesFor.congr fun _ => Tag.validate_iff_few_iff
  · refine (splits_putProfile ?_).agreesFor.congr fun _ => iff_true_intro Iff.rfl
    intro at_ input p s put
    exact (versioned.of_putProfile put).resolveArn_arn
      ((SigningService.change_of_putProfile put).labelled labelled.signing)
      (SigningService.mem_of_putProfile put)
  · refine (splits_putProfile ?_).agreesFor.congr fun _ => iff_true_intro Iff.rfl
    intro at_ input p s put
    exact (versioned.of_putProfile put).resolveArn_versionArn
      ((SigningService.change_of_putProfile put).labelled labelled.signing)
      (SigningService.mem_of_putProfile put)

def teamTags : List Tag := [⟨"team", "blue"⟩, ⟨"team", "red"⟩]

def plainStream : CreateStream :=
  ⟨"orders", none, none, some (.obj []), none, none, none, none, none, []⟩

def plainRule : CreateRule := ⟨"first", none, "SYSTEM", "example.com", [], none, []⟩

def plainDirectory : CreateDirectory :=
  ⟨"east.example.com", none, "Passw0rd!", none, "Small",
    some ⟨"vpc-00000000000000005", ["subnet-00000000000000006", "subnet-00000000000000007"]⟩, []⟩

/-- Where streams have a quota of zero, a directory can get its tags either way and a stream
cannot. -/
theorem later_tags_agree_secondDirectory :
    let r := run ⟨"123456789012", "eu-west-1", "aws"⟩ ⟨.standard, .standard, ⟨50, 0⟩⟩
      (describedDirectory "Passw0rd!")
    let at_ : Moment := ⟨default, [9]⟩
    (r.keys .directory).length < 16 ^ DirectoryService.idDigits ∧
      (∃ o r', createDirectory.CreatedBare r at_ plainDirectory o r' ∧
        createDirectory.Agrees r at_ plainDirectory o r' teamTags) ∧
      ∃ o r', createStream.CreatedBare r at_ plainStream o r' ∧
        ¬createStream.Agrees r at_ plainStream o r' teamTags := by
  intro r at_
  have room : (r.keys .directory).length < 16 ^ DirectoryService.idDigits := by decide +kernel
  obtain ⟨⟨directories, -⟩, -, streams, -⟩ := later_tags_agree _ _ _ room
  have directory : (Seat.directory.run createDirectory.create
      (createDirectory.bring plainDirectory createDirectory.none) r at_).isOk = true := by
    decide +kernel
  have stream : (Seat.delivery.run createStream.create
      (createStream.bring plainStream createStream.none) r at_).isOk = true := by
    decide +kernel
  obtain ⟨o, d, made, agree⟩ := directories.exists_agrees directory teamTags
  obtain ⟨arn, t, bare, disagree⟩ := streams.exists_agrees stream teamTags
  have slips : Tag.Slips 0 teamTags := ⟨rfl, by decide +kernel, by decide⟩
  exact ⟨room, ⟨o, d, made, agree.mpr trivial⟩, arn, t, bare, fun h => disagree.mp h slips⟩

/-- Where the quotas are zero, a stream and a rule can be created with tags, and the same tags are
refused right after they have been created without. -/
theorem zero_quota_refuses_later :
    let r := run ⟨"123456789012", "eu-west-1", "aws"⟩ ⟨.standard, ⟨5, 5, 5, 0⟩, ⟨50, 0⟩⟩ []
    let now : Moment := ⟨default, []⟩
    let stream := Seat.delivery.run DeliveryService.createStreamOp
    let rule := Seat.resolver.run ResolverService.createRuleOp
    ((stream { plainStream with tags := teamTags } r now).isOk = true ∧
        ((stream plainStream r now).bind fun (_, r') =>
            (Seat.delivery.run DeliveryService.tagStreamOp ⟨"orders", teamTags⟩ r' now).map
              fun _ => ()) = .error (.ofFault (DeliveryFault.tagLimit 0))) ∧
      (rule { plainRule with tags := teamTags } r now).isOk = true ∧
        ((rule plainRule r now).bind fun (q, r') =>
            (Seat.resolver.run ResolverService.tagResourceOp ⟨q.arn, teamTags⟩ r' now).map
              fun _ => ()) =
          .error (.ofFault (ResolverFault.limitExceeded "123456789012" "max-tags-per-resource")) := by
  decide +kernel

end Region

end ControlPlane
