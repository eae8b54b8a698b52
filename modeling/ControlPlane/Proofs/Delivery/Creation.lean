import ControlPlane.Proofs.Delivery.Change
import ControlPlane.Proofs.Json.Place
import ControlPlane.Proofs.Pattern

/-!
Which delivery streams are created, and what they keep of the request. A creation is refused in many
places, one after the other; what decides on it are the conditions of a consistent request, all of
them at once. Main statement: exactly the consistent requests are served, there are never more
streams than the quota has room for, and every live stream shows the request that it was created by.
-/

namespace ControlPlane

/-- The place of a configuration of the family in a request that is given as a list of values. -/
def DestinationFamily.position : DestinationFamily → Nat
  | s3 => 3
  | extendedS3 => 4
  | redshift => 5
  | elasticsearch => 6
  | splunk => 7
  | httpEndpoint => 8

namespace CreateStream

variable {bag : Json} {input : CreateStream} {f : DestinationFamily} {j : Json}

def given : Option Json → Option Json
  | some .null => none
  | place => place

def configured? (bag : Json) (f : DestinationFamily) : Option Json :=
  given (bag.placed? f.configurationName f.position)

/-- The bag has this configuration for this family, and none for any other. -/
def Configures (bag : Json) (f : DestinationFamily) (j : Json) : Prop :=
  ∀ g, configured? bag g = if g = f then some j else none

theorem eq_given_of_reads {name : String} {o place : Option Json}
    (h : (Member.optional name .json).Reads o place) : o = given place := by
  cases place with
  | none => exact (Option.some.inj h).symm
  | some j =>
    cases j with
    | null => exact (Except.ok.inj h).symm
    | _ => exact (Except.ok.inj h).symm

theorem made_configuration :
    Record.Made 10 (fun place input => ∀ f, input.configuration f =
      given (place f.configurationName f.position)) record := by
  refine .member <| .member <| .member <| .member <| .member <| .member <| .member <| .member <|
    .member <| .member <| .start ?_
  -- three members come before the configurations, and the tags after them
  intro _ _ _ _ _ _ _ _ s3 _ extendedS3 _ redshift _ elasticsearch _ splunk _ httpEndpoint _ _ f
  cases f with
  | s3 => exact eq_given_of_reads s3
  | extendedS3 => exact eq_given_of_reads extendedS3
  | redshift => exact eq_given_of_reads redshift
  | elasticsearch => exact eq_given_of_reads elasticsearch
  | splunk => exact eq_given_of_reads splunk
  | httpEndpoint => exact eq_given_of_reads httpEndpoint

theorem configuration_eq (read : record.codec.decodeBag bag = .ok input) (f : DestinationFamily) :
    input.configuration f = configured? bag f :=
  made_configuration.decodeBag read f

theorem destinations_eq_singleton_iff :
    input.destinations = [(f, j)] ↔
      ∀ g, input.configuration g = if g = f then some j else none := by
  constructor
  · intro h g
    have listed : ∀ k, input.configuration g = some k ↔ g = f ∧ k = j := by
      intro k
      have mem : (g, k) ∈ input.destinations ↔ input.configuration g = some k := by
        cases g <;> simp [destinations, DestinationFamily.all]
      rw [← mem, h, List.mem_singleton, Prod.mk.injEq]
    split
    · rename_i same
      exact (listed j).mpr ⟨same, rfl⟩
    · rename_i other
      exact Option.eq_none_iff_forall_ne_some.mpr fun k found => other ((listed k).mp found).1
  · intro h
    cases f <;> simp [destinations, DestinationFamily.all, h]

theorem destinations_eq_singleton_iff_configures (read : record.codec.decodeBag bag = .ok input) :
    input.destinations = [(f, j)] ↔ Configures bag f j := by
  simp only [destinations_eq_singleton_iff, configuration_eq read, Configures]

end CreateStream

namespace DeliveryService

open CreateStream (Configures configured?)

variable {s s' : DeliveryService} {at_ : Moment} {bag : Json} {input : CreateStream}

def IsNameChar (c : Char) : Prop :=
  ('A' ≤ c ∧ c ≤ 'Z') ∨ ('a' ≤ c ∧ c ≤ 'z') ∨ ('0' ≤ c ∧ c ≤ '9') ∨ c = '_' ∨ c = '.' ∨ c = '-'

theorem isNameChar_iff {c : Char} :
    (c.isAlphanum || "_.-".toList.contains c) = true ↔ IsNameChar c := by
  have other : "_.-".toList.contains c = true ↔ c = '_' ∨ c = '.' ∨ c = '-' := by simp
  simp only [IsNameChar, Bool.or_eq_true, Text.isAlphanum_iff, other, or_assoc]

theorem namePattern_accepts_iff {name : String} :
    namePattern.accepts name = true ↔ name.toList ≠ [] ∧ ∀ c ∈ name.toList, IsNameChar c := by
  have plain : namePattern.accepts name = true ↔
      Regex.Matches (.plus (Pattern.alphanumericOr "_.-")) name.toList := Regex.accepts_iff
  simp only [plain, Pattern.alphanumericOr, Regex.matches_plus_chars_iff, isNameChar_iff]

theorem streamChecks_iff {u : Unit} :
    runChecks (streamChecks input) = .ok u ↔
      (1 ≤ input.name.length ∧ input.name.length ≤ 64 ∧ ∀ c ∈ input.name.toList, IsNameChar c) ∧
        ∀ type ∈ input.type, type = directPut ∨ type = streamAsSource := by
  have type : (typeOf input = directPut ∨ typeOf input = streamAsSource) ↔
      ∀ type ∈ input.type, type = directPut ∨ type = streamAsSource := by
    cases h : input.type <;> simp [typeOf, h]
  have some : 1 ≤ input.name.length → input.name.toList ≠ [] := by
    intro long empty
    rw [← String.length_toList, empty] at long
    cases long
  have known : typeOf input ∈ streamTypes ↔
      typeOf input = directPut ∨ typeOf input = streamAsSource := by
    simp [streamTypes]
  simp only [runChecks_eq_ok_iff, streamChecks, List.forall_mem_cons, Check.of, Rule.lengthAtMost,
    Rule.lengthAtLeast, Rule.satisfies, Rule.memberOf, Rule.requires_eq_none_iff,
    namePattern_accepts_iff, decide_eq_true_eq, List.contains_iff_mem, known, type]
  refine ⟨fun ⟨short, long, ⟨_, plain⟩, type, _⟩ => ⟨⟨long, short, plain⟩, type⟩, ?_⟩
  exact fun ⟨⟨long, short, plain⟩, type⟩ =>
    ⟨short, long, ⟨some long, plain⟩, type, fun _ none => absurd none List.not_mem_nil⟩

theorem isSome_iff_of_chooseSource {type : String} {now : Timestamp}
    {configuration : Option SourceConfiguration} {source : Option StreamSource}
    (h : chooseSource type now configuration = .ok source) :
    source.isSome ↔ type = streamAsSource := by
  cases configuration with
  | some c =>
    simp only [chooseSource] at h
    split at h
    · rename_i reads
      cases h
      exact iff_of_true rfl reads
    · cases h
  | none =>
    simp only [chooseSource] at h
    split at h
    · cases h
    · rename_i other
      cases h
      exact iff_of_false Bool.false_ne_true other

theorem chooseDestination_eq_ok_iff {ds : List (DestinationFamily × Json)} {d : Destination} :
    chooseDestination ds = .ok d ↔ ∃ f j, ds = [(f, j)] ∧ d = ⟨destinationId 1, f, j⟩ := by
  rw [chooseDestination.eq_def]
  split
  · rename_i f j
    simp [eq_comm]
  · rename_i other
    refine iff_of_false nofun ?_
    rintro ⟨f, j, rfl, -⟩
    exact other f j rfl

/-- What makes the request of a bag consistent, in itself and with the streams that are live. -/
structure Consistent (quotas : DeliveryQuotas) (live : List DeliveryStream) (bag : Json)
    (input : CreateStream) : Prop where
  name : 1 ≤ input.name.length ∧ input.name.length ≤ 64 ∧ ∀ c ∈ input.name.toList, IsNameChar c
  type : ∀ type ∈ input.type, type = directPut ∨ type = streamAsSource
  free : ∀ t ∈ live, t.name ≠ input.name
  room : live.length < quotas.streams
  source : input.source.isSome ↔ input.type = some streamAsSource
  destination : ∃ f j, Configures bag f j
  tags : Tag.validate input.tags quotas.tagsPerStream = .ok ()

theorem exists_createStream_iff (read : CreateStream.record.codec.decodeBag bag = .ok input) :
    (∃ t s', s.createStream at_ input = .ok (t, s')) ↔
      Consistent s.quotas s.streams.records bag input := by
  have reads : typeOf input = streamAsSource ↔ input.type = some streamAsSource := by
    cases h : input.type with
    | none => simp [typeOf, h, directPut, streamAsSource]
    | some type => simp [typeOf, h]
  constructor
  · rintro ⟨t, s', h⟩
    obtain ⟨checked, free, room, source, d, hs, hd, valid, -, -⟩ := createStream_eq_ok_iff.mp h
    obtain ⟨name, type⟩ := streamChecks_iff.mp checked
    obtain ⟨f, j, alone, -⟩ := chooseDestination_eq_ok_iff.mp hd
    exact
      { name := name
        type := type
        free := Registry.contains_eq_false_iff.mp free
        room := room
        source := (exists_chooseSource_iff.mp ⟨source, hs⟩).trans reads
        destination :=
          ⟨f, j, (CreateStream.destinations_eq_singleton_iff_configures read).mp alone⟩
        tags := valid }
  · intro h
    obtain ⟨source, hs⟩ := exists_chooseSource_iff.mpr (h.source.trans reads.symm)
    obtain ⟨f, j, alone⟩ := h.destination
    have one := (CreateStream.destinations_eq_singleton_iff_configures read).mpr alone
    exact ⟨_, _, createStream_eq_ok_iff.mpr ⟨streamChecks_iff.mpr ⟨h.name, h.type⟩,
      Registry.contains_eq_false_iff.mpr h.free, h.room, source, _, hs,
      chooseDestination_eq_ok_iff.mpr ⟨f, j, one, rfl⟩, h.tags, rfl, rfl⟩⟩

theorem exists_createStream_of_serve {answer : Json}
    (served : (operations.serve s at_ "CreateDeliveryStream" bag).run = .ok (answer, s')) :
    ∃ input t, CreateStream.record.codec.decodeBag bag = .ok input ∧
      s.createStream at_ input = .ok (t, s') := by
  obtain ⟨op, input, output, hop, read, ran, -⟩ := Catalog.exists_of_serve served
  cases hop
  obtain ⟨⟨t, u⟩, created, same⟩ := map_eq_ok_iff.mp ran
  cases same
  exact ⟨input, t, read, created⟩

theorem exists_serve_iff :
    (∃ answer s', (operations.serve s at_ "CreateDeliveryStream" bag).run = .ok (answer, s')) ↔
      ∃ input, CreateStream.record.codec.decodeBag bag = .ok input ∧
        Consistent s.quotas s.streams.records bag input := by
  constructor
  · rintro ⟨answer, s', served⟩
    obtain ⟨input, t, read, created⟩ := exists_createStream_of_serve served
    exact ⟨input, read, (exists_createStream_iff read).mp ⟨t, s', created⟩⟩
  · rintro ⟨input, read, consistent⟩
    obtain ⟨t, s', created⟩ : ∃ t s', s.createStream at_ input = .ok (t, s') :=
      (exists_createStream_iff read).mpr consistent
    refine ⟨createStreamOp.output.encode t.arn, s', Catalog.serve_writing rfl read ?_⟩
    exact map_eq_ok_iff.mpr ⟨_, created, rfl⟩

/-- The stream has one destination, described by the configuration that the bag has, unchanged and
under the name of its family, and a source if it reads from a stream. -/
structure Shows (bag : Json) (t : DeliveryStream) : Prop where
  asked : ∃ input, CreateStream.record.codec.decodeBag bag = .ok input ∧ t.name = input.name ∧
    t.type = input.type.getD directPut
  destination : ∃ f j, Configures bag f j ∧ t.destinations.map Destination.codec.encode =
    [.obj [("DestinationId", .str (destinationId 1)), (f.descriptionName, j)]]
  source : t.source.isSome ↔ t.type = streamAsSource

theorem shows_of_createStream {t : DeliveryStream}
    (read : CreateStream.record.codec.decodeBag bag = .ok input)
    (h : s.createStream at_ input = .ok (t, s')) : Shows bag t := by
  obtain ⟨-, -, -, source, d, hs, hd, -, rfl, -⟩ := createStream_eq_ok_iff.mp h
  obtain ⟨f, j, alone, rfl⟩ := chooseDestination_eq_ok_iff.mp hd
  exact
    { asked := ⟨input, read, rfl, rfl⟩
      destination :=
        ⟨f, j, (CreateStream.destinations_eq_singleton_iff_configures read).mp alone, rfl⟩
      source := isSome_iff_of_chooseSource hs }

theorem exists_created_of_serve {answer : Json}
    (served : (operations.serve s at_ "CreateDeliveryStream" bag).run = .ok (answer, s')) :
    ∃ t, s'.streams.records = s.streams.records ++ [t] ∧ Shows bag t := by
  obtain ⟨input, t, read, created⟩ := exists_createStream_of_serve served
  have shown := shows_of_createStream read created
  obtain ⟨-, free, -, source, d, -, -, -, rfl, rfl⟩ := createStream_eq_ok_iff.mp created
  exact ⟨_, Registry.records_insert_of_not_contains free, shown⟩

theorem live_of_run {name : String} {op : Op} {input : op.Input} {output : op.Output}
    (hop : operations name = some op) (read : op.input.decodeBag bag = .ok input)
    (h : (op.run s at_ input).run = .ok (output, s')) {t : DeliveryStream}
    (live : t ∈ s'.streams.records) :
    t ∈ s.streams.records ∨ name = "CreateDeliveryStream" ∧ Shows bag t := by
  simp only [operations] at hop
  split at hop <;> cases hop
  case h_1 =>
    obtain ⟨⟨new, _⟩, created, same⟩ := map_eq_ok_iff.mp h
    cases same
    have shown := shows_of_createStream read created
    obtain ⟨-, free, -, source, d, -, -, -, rfl, rfl⟩ := createStream_eq_ok_iff.mp created
    rcases (Registry.mem_insert_iff free).mp live with old | rfl
    · exact Or.inl old
    · exact Or.inr ⟨rfl, shown⟩
  case h_2 =>
    obtain ⟨old, -, rfl⟩ := deleteStream_eq_ok_iff.mp h
    exact Or.inl (Registry.mem_remove_iff.mp live).1
  case h_3 => exact Or.inl (state_of_look h ▸ live)
  case h_4 => exact Or.inl (state_of_look h ▸ live)
  case h_5 =>
    obtain ⟨_, -, -, -, rfl⟩ := tagStream_eq_ok_iff.mp h
    exact Or.inl live
  case h_6 =>
    obtain ⟨_, -, rfl⟩ := untagStream_eq_ok_iff.mp h
    exact Or.inl live
  case h_7 => exact Or.inl (state_of_look h ▸ live)

theorem live_of_after {q : Request} {t : DeliveryStream} (live : t ∈ (s.after q).streams.records) :
    t ∈ s.streams.records ∨ q.action = "CreateDeliveryStream" ∧ Shows q.bag t := by
  rw [after] at live
  split at live
  · rename_i answer s' served
    obtain ⟨op, input, output, hop, read, ran, -⟩ := Catalog.exists_of_serve served
    exact live_of_run hop read ran live
  · exact Or.inl live

/-- The request by which a stream has become live, and since when it has always been live. -/
structure Origin (scope : Scope) (quotas : DeliveryQuotas) (qs : List Request) (t : DeliveryStream)
    (q : Request) : Prop where
  creates : q.action = "CreateDeliveryStream"
  shown : Shows q.bag t
  since : ∃ before after, qs = before ++ q :: after ∧
    t ∉ (run scope quotas before).streams.records ∧
    ∀ met, met <+: after → t ∈ (run scope quotas (before ++ q :: met)).streams.records

theorem Origin.concat {scope : Scope} {quotas : DeliveryQuotas} {qs : List Request}
    {t : DeliveryStream} {q next : Request} (h : Origin scope quotas qs t q)
    (live : t ∈ (run scope quotas (qs ++ [next])).streams.records) :
    Origin scope quotas (qs ++ [next]) t q := by
  obtain ⟨before, after, rfl, new, stays⟩ := h.since
  have longer : before ++ q :: after ++ [next] = before ++ q :: (after ++ [next]) := by simp
  refine { h with since := ⟨before, after ++ [next], longer, new, fun met sooner => ?_⟩ }
  rcases List.prefix_concat_iff.mp sooner with rfl | sooner
  · rwa [longer] at live
  · exact stays met sooner

theorem exists_origin (scope : Scope) (quotas : DeliveryQuotas) (qs : List Request)
    {t : DeliveryStream} (live : t ∈ (run scope quotas qs).streams.records) :
    ∃ q, Origin scope quotas qs t q := by
  induction qs using List.reverseRecOn with
  | nil => exact absurd live List.not_mem_nil
  | append_singleton qs next ih =>
    -- a stream that was live already has the origin that it had
    by_cases old : t ∈ (run scope quotas qs).streams.records
    · obtain ⟨q, origin⟩ := ih old
      exact ⟨q, origin.concat live⟩
    · have now := live
      rw [run_concat] at now
      obtain ⟨creates, shown⟩ := (live_of_after now).resolve_left old
      refine ⟨next, creates, shown, qs, [], rfl, old, fun met sooner => ?_⟩
      rwa [List.prefix_nil.mp sooner]

theorem Change.size_le (h : Change s s') (within : s.streams.size ≤ s.quotas.streams) :
    s'.streams.size ≤ s.quotas.streams := by
  cases h with
  | looked => exact within
  | created t tags free room arn valid => exact (Registry.size_insert free).trans_le room
  | deleted t live => exact (Registry.records_remove_sublist _ _).length_le.trans within
  | tagged t tags live valid room => exact within
  | untagged t keys live => exact within

theorem size_run_le (scope : Scope) (quotas : DeliveryQuotas) (qs : List Request) :
    (run scope quotas qs).streams.size ≤ quotas.streams := by
  induction qs using List.reverseRecOn with
  | nil => exact Nat.zero_le _
  | append_singleton qs q ih =>
    have kept := congrArg DeliveryQuotas.streams (run_quotas scope quotas qs)
    rw [run_concat]
    exact ((change_after _ q).size_le (kept ▸ ih)).trans_eq kept

/-- Whatever requests a service has met, it serves the creations whose requests are consistent, and
no others. The stream that is created comes after all others, which stay as they are, and shows its
request. There are never more streams than the quota, and each shows the request that it has been
live since. -/
theorem consistent_streams_accepted (scope : Scope) (quotas : DeliveryQuotas) (qs : List Request) :
    (∀ at_ bag, (∃ answer s', (operations.serve (run scope quotas qs) at_ "CreateDeliveryStream"
        bag).run = .ok (answer, s')) ↔
      ∃ input, CreateStream.record.codec.decodeBag bag = .ok input ∧
        Consistent quotas (run scope quotas qs).streams.records bag input) ∧
      (∀ at_ bag answer s', (operations.serve (run scope quotas qs) at_ "CreateDeliveryStream"
          bag).run = .ok (answer, s') →
        ∃ t, s'.streams.records = (run scope quotas qs).streams.records ++ [t] ∧ Shows bag t) ∧
      (run scope quotas qs).streams.records.length ≤ quotas.streams ∧
      ∀ t ∈ (run scope quotas qs).streams.records, ∃ q, Origin scope quotas qs t q := by
  refine ⟨fun at_ bag => ?_, fun _ _ _ _ served => exists_created_of_serve served,
    size_run_le scope quotas qs, fun t live => exists_origin _ _ _ live⟩
  rw [exists_serve_iff, run_quotas]

end DeliveryService

end ControlPlane
