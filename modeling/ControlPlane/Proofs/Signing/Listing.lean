import ControlPlane.Proofs.Region.Listing
import ControlPlane.Proofs.Signing.Change

/-!
The code signing service lists its profiles in pages, canceled ones too if they are asked for, in
the order of the store and each with its tags, and finds each by its name.
-/

namespace ControlPlane

namespace SigningService

variable {s : SigningService} {name : String}

def shown (s : SigningService) (p : SigningProfile) : Json :=
  TaggedProfile.record.codec.encode (s.withTags p)

theorem textAt?_name (s : SigningService) (p : SigningProfile) :
    (s.shown p).textAt? ["profileName"] = some p.name := by
  rw [Json.textAt?, shown, Record.at?_encode]
  simp [TaggedProfile.record, SigningProfile.record, withTags]

theorem getProfile_eq_ok_iff {p : TaggedProfile} :
    s.getProfile name = .ok p ↔ ∃ q, s.profiles.get? name = some q ∧ s.withTags q = p := by
  simp only [getProfile, map_eq_ok_iff, profile_eq_ok_iff]

theorem decode_listBag {limit : Option Nat} (h : Access.ofProfile.Admits limit)
    (token : Option String) :
    ListProfiles.record.codec.decodeBag (Access.ofProfile.listBag limit token) =
      .ok ⟨true, none, [], limit, token⟩ := by
  cases limit with
  | none => cases token <;> rfl
  | some n =>
    have bound : n ≤ Text.greatestWord32 := Nat.le_trans (h.bounds rfl n rfl).2 (by decide)
    cases token <;>
      simp [Access.ofProfile, pageMembers, Codec.decodeBag, ListProfiles.record, Record.codec,
        Record.decode, Record.checkMembers, Record.optional, Record.listOrEmpty, Record.defaulted,
        Record.member, Record.start, Member.optional, Member.defaulted, Json.member?, Entries.get?,
        Codec.nullable, Codec.text, Codec.flag, decode_word32 bound, Except.map]

theorem list_page {limit : Option Nat} (h : Access.ofProfile.Admits limit) {token : Option String}
    {p : Page TaggedProfile}
    (hp : Page.ofList (s.profiles.records.map s.withTags) token (limit.getD defaultMaxResults) =
      .ok p) :
    s.listProfiles ⟨true, none, [], limit, token⟩ = .ok p := by
  have checked : runChecks (maxResultsChecks limit) = .ok () :=
    runChecks_eq_ok_iff.mpr (forall_limit_checks (h.bounds rfl))
  have all : s.profiles.list (isListed ⟨true, none, [], limit, token⟩) = s.profiles.records :=
    List.filter_eq_self.mpr fun _ _ => rfl
  rw [listProfiles, pass_eq_ok_iff, all]
  exact ⟨checked, mapError_eq_ok_iff.mpr hp⟩

section PageRecord

variable {α : Type} (list : String) (c : Codec α) (p : Page α)

theorem items?_pageRecord : (((pageRecord list c).codec.encode p).at? [list]).bind Json.items? =
    some (p.items.map c.encode) := by
  rw [Record.at?_encode]
  simp [pageRecord]

theorem textAt?_next_pageRecord (other : list ≠ "nextToken") :
    ((pageRecord list c).codec.encode p).textAt? ["nextToken"] = p.next := by
  rw [Json.textAt?, Record.at?_encode]
  simp [pageRecord, other]

end PageRecord

end SigningService

namespace Region

open SigningService

variable {r : Region}

theorem mirrors_profiles (r : Region) :
    Mirrors r .profile r.signing.profiles r.signing.shown where
  idOf := by
    intro p
    simp only [ResourceKind.access, Access.ofProfile]
    exact textAt?_name _ p
  found := by
    intro at_ p hp
    have live := Registry.get?_eq_some_iff.mpr ⟨hp, rfl⟩
    have seen := getProfile_eq_ok_iff.mpr ⟨p, live, rfl⟩
    exact ⟨_, (serve_look .signing at_ r rfl rfl).trans (looked_of_ok seen r), rfl⟩
  missing := by
    intro at_ name absent
    have unseen : ∀ p, r.signing.getProfile name ≠ .ok p := by
      intro p seen
      obtain ⟨q, live, -⟩ := getProfile_eq_ok_iff.mp seen
      cases absent.symm.trans live
    obtain ⟨e, he⟩ := exists_looked_eq_error unseen r
    exact ⟨e, (serve_look .signing at_ r rfl rfl).trans he⟩

theorem shows_profiles (fits : r.signing.profiles.size ≤ Text.greatestWord64) :
    Shows r .profile r.signing.profiles.keys
      (r.signing.profiles.records.map r.signing.shown) := by
  refine (mirrors_profiles r).shows (fun _ => rfl) fun asked admitted => ?_
  refine walk_of_pages ?_ ((List.length_map _).trans_le fits) admitted
  intro at_ limit admits
  refine ⟨limit.getD defaultMaxResults, ?_⟩
  intro token p hp
  have tagged : r.signing.profiles.records.map r.signing.shown =
      (r.signing.profiles.records.map r.signing.withTags).map TaggedProfile.record.codec.encode :=
    List.map_map.symm
  rw [tagged] at hp
  obtain ⟨q, hq, items, next⟩ := Page.exists_of_ofList_map hp
  refine ⟨_, (serve_look .signing at_ r rfl (decode_listBag admits token)).trans
    (looked_of_ok (list_page admits hq) r), ?_, ?_⟩
  · rw [items]
    exact items?_pageRecord "profiles" TaggedProfile.record.codec q
  · rw [next]
    exact textAt?_next_pageRecord "profiles" TaggedProfile.record.codec q (by decide)

end Region

end ControlPlane
