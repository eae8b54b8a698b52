import ControlPlane.Proofs.Json.Return
import ControlPlane.Proofs.Page
import ControlPlane.Proofs.Signing.Change

/-!
What the code signing service is asked and what it answers comes back. A profile is kept with the
validity period and the overrides of the request that put it, so these come back as they did there:
the length of the period is a word, and the overrides are any value but null.
-/

namespace ControlPlane

open Record

instance : certificateCodec.Lawful := inferInstanceAs (Codec.single _ _).Lawful

instance : ValidityPeriod.record.codec.Stable := by
  refine Record.stable (by decide) <| .required <| .required <| .start ?_
  intro _ value _ _
  exact ReadsBack.start ValidityPeriod.mk |>.member value |>.required

structure PutProfile.Legible (input : PutProfile) : Prop where
  period : (Member.optional "signatureValidityPeriod" ValidityPeriod.record.codec).Returns
    input.period input.period
  overrides : (Member.optional "overrides" .json).Returns input.overrides input.overrides

theorem PutProfile.gives_legible : PutProfile.record.Gives PutProfile.Legible := by
  have none : Codec.textMap.Returns .empty .empty := Codec.Lawful.returns _
  refine .defaulted none <| .optional <| .defaulted none <| .optional <| .optional <| .required <|
    .required <| .start ?_
  intro _ _ _ _ _ period _ _ _ _ _ overrides _ _
  exact ⟨period, overrides⟩

instance : PutProfile.record.codec.Stable := by
  refine Record.stable (by decide) (PutProfile.gives_legible.imp fun input legible => ?_)
  exact ReadsBack.start PutProfile.mk |>.required |>.required |>.member legible.period |>.optional
    |>.defaulted |>.member legible.overrides |>.defaulted

instance : ListPlatforms.record.codec.Stable := by
  refine Record.stable (by decide) <| .optional <| .optional <| .optional <| .optional <|
    .optional <| .start ?_
  intro _ _ _ _ _ _ _ limit _ _
  exact ReadsBack.start ListPlatforms.mk |>.optional |>.optional |>.optional |>.member limit
    |>.optional

instance : ProfileArns.record.codec.Lawful :=
  Record.lawful (by decide)
    (fun _ => ReadsBack.start ProfileArns.mk |>.required |>.required |>.required) fun _ => rfl

instance : ProfileStatus.codec.Lawful := Codec.lawful_ofText fun t => by cases t <;> rfl

structure SigningProfile.Legible (p : SigningProfile) : Prop where
  period : ValidityPeriod.record.codec.Returns p.period p.period
  overrides : (Member.optional "overrides" .json).Returns p.overrides p.overrides

theorem Member.returns_mapUnlessEmpty (name : String) (m : TextMap) :
    (Member.omittedWhen name .textMap .empty TextMap.isEmpty).Returns m m := by
  obtain ⟨entries, ascending⟩ := m
  cases entries with
  | nil => rfl
  | cons e rest => exact Codec.Lawful.returns (c := .textMap) _

theorem SigningProfile.readsBack {p : SigningProfile} (h : p.Legible) :
    SigningProfile.record.ReadsBack p p :=
  ReadsBack.start SigningProfile.mk |>.required |>.required |>.required |>.required |>.required
    |>.optional |>.requiredOf h.period |>.optional |>.member (Member.returns_mapUnlessEmpty _ _)
    |>.member h.overrides |>.required

theorem TaggedProfile.returns {t : TaggedProfile} (h : t.profile.Legible) :
    TaggedProfile.record.codec.Returns t t :=
  Record.returns (by decide)
    (ReadsBack.within (SigningProfile.readsBack h)
      |>.member (Member.returns_mapUnlessEmpty _ _)) rfl

theorem SigningPlatform.returns {p : SigningPlatform} (h : p.maxSizeInMb ≤ Text.greatestWord32) :
    SigningPlatform.record.codec.Returns p p :=
  Record.returns (by decide)
    (ReadsBack.start SigningPlatform.mk |>.required |>.required |>.required |>.required |>.required
      |>.requiredOf (Codec.faithful_json p.configuration)
      |>.requiredOf (Codec.faithful_json p.imageFormat) |>.requiredOf (Codec.returns_upTo h)
      |>.required)
    rfl

namespace SigningService

variable {s s' : SigningService} {at_ : Moment}

theorem returns_page {α : Type} {name : String} {c : Codec α} {p : Page α}
    (other : name ≠ "nextToken") (h : ∀ a ∈ p.items, c.Returns a a) :
    (pageRecord name c).codec.Returns p p := by
  have distinct : [name, "nextToken"].Nodup := by simpa using other
  exact Record.returns distinct
    (ReadsBack.start Page.mk |>.requiredOf (Codec.returns_list_self h) |>.optional) rfl

def Legible (s : SigningService) : Prop := ∀ p ∈ s.profiles.records, p.Legible

theorem legible_empty (scope : Scope) : Legible (empty scope) := fun _ hp => nomatch hp

theorem legible_buildProfile {input : PutProfile} (h : input.Legible) (version : String) :
    (s.buildProfile input version).Legible where
  period := by
    have kept : (s.buildProfile input version).period = input.period.getD .standard := rfl
    have back := h.period
    rw [kept]
    cases given : input.period with
    | none =>
      have small : ValidityPeriod.standard.value ≤ Text.greatestWord32 := by decide
      exact Record.returns (by decide)
        (ReadsBack.start ValidityPeriod.mk |>.requiredOf (Codec.returns_upTo small) |>.required) rfl
    | some period =>
      rw [given] at back
      have read : (Codec.nullable ValidityPeriod.record.codec).decode
          (ValidityPeriod.record.codec.encode period) = .ok (some period) := back
      exact (Member.exists_of_decode_nullable read).1
  overrides := h.overrides

theorem legible_of_serve (hl : Legible s) {name : String} {bag j : Json}
    (h : (operations.serve s at_ name bag).run = .ok (j, s')) : Legible s' := by
  obtain ⟨op, input, output, hop, decoded, run, -⟩ := Catalog.exists_of_serve h
  simp only [operations] at hop
  split at hop <;> cases hop
  case h_1 =>
    obtain ⟨⟨p, _⟩, put, same⟩ := map_eq_ok_iff.mp run
    cases same
    obtain ⟨-, -, rfl, rfl⟩ := putProfile_eq_ok_iff.mp put
    obtain ⟨j, -, read⟩ := Codec.exists_of_decodeBag decoded
    have legible := prop_of_decode PutProfile.gives_legible read
    exact Registry.forall_mem_insert hl (legible_buildProfile legible _)
  case h_2 => exact state_of_look run ▸ hl
  case h_3 =>
    obtain ⟨p, found, rfl⟩ := cancelProfile_eq_ok_iff.mp run
    have kept := hl p (Registry.mem_of_get? found)
    exact Registry.forall_mem_insert hl ⟨kept.period, kept.overrides⟩
  case h_4 => exact state_of_look run ▸ hl
  case h_5 => exact state_of_look run ▸ hl
  case h_6 =>
    obtain ⟨arn, -, -, rfl⟩ := tagResource_eq_ok_iff.mp run
    exact hl
  case h_7 =>
    obtain ⟨arn, -, rfl⟩ := untagResource_eq_ok_iff.mp run
    exact hl
  case h_8 => exact state_of_look run ▸ hl

theorem returns_getProfile (hl : Legible s) {name : String} {t : TaggedProfile}
    (h : s.getProfile name = .ok t) : getProfileOp.output.Returns t t := by
  obtain ⟨p, found, rfl⟩ := map_eq_ok_iff.mp h
  exact TaggedProfile.returns (hl p (Registry.mem_of_get? (profile_eq_ok_iff.mp found)))

theorem returns_listPlatforms {input : ListPlatforms} {p : Page SigningPlatform}
    (h : listPlatforms input = .ok p) : listPlatformsOp.output.Returns p p := by
  rw [listPlatforms, pass_eq_ok_iff] at h
  have known : ∀ q ∈ SigningPlatform.catalogue, q.maxSizeInMb ≤ Text.greatestWord32 := by decide
  refine returns_page (by decide) fun q hq => SigningPlatform.returns ?_
  have listed := Page.mem_of_ofList (mapError_eq_ok_iff.mp h.2) q hq
  exact known q (List.mem_filter.mp listed).1

end SigningService

end ControlPlane
