import ControlPlane.Proofs.Directory.Tags
import ControlPlane.Proofs.Pattern
import ControlPlane.Proofs.Region.Listing

/-!
The directory service lists its directories in pages, in the order of the store, and finds each by
its id. An id is looked up only if it has the documented form, and every id that is given out has it
as long as there are ids for all directories.
-/

namespace ControlPlane

namespace DirectoryService

open DirectoryConstraint
open Lookup hiding vpc subnet securityGroup

variable {views : Set NetworkView} {s s' : DirectoryService} {id : String}

theorem accepts_of_isDrawn (h : Identifier.IsDrawn "d" idDigits id) :
    directoryIdPattern.accepts id = true := by
  obtain ⟨n, hn, rfl⟩ := h
  have hex : ∀ c ∈ (Text.hexadecimal idDigits n).toList, Text.isHexDigit c = true := fun _ =>
    Text.isHexDigit_of_mem_hexadecimal
  have digits := Regex.matches_times hex
  rw [String.length_toList, Text.length_hexadecimal (by decide) hn] at digits
  have whole := Regex.Matches.seq (Regex.matches_literal "d-") digits
  apply Regex.accepts_iff.mpr
  rw [String.toList_append]
  exact whole

theorem check_of_isDrawn (h : Identifier.IsDrawn "d" idDigits id) :
    (directoryIdCheck id).broken = none :=
  Rule.requires_eq_none_iff.mpr (accepts_of_isDrawn h)

def Drawn (s : DirectoryService) : Prop :=
  ∀ d ∈ s.directories.records, Identifier.IsDrawn "d" idDigits d.id

theorem Drawn.replace (hd : Drawn s) {old new : Directory}
    (live : s.directories.get? new.id = some old) :
    Drawn { s with directories := s.directories.insert new } := by
  intro e he
  rcases Registry.eq_or_mem_of_mem_insert he with rfl | he
  · have same : old.id = e.id := Registry.key_of_get? live
    exact same ▸ hd old (Registry.mem_of_get? live)
  · exact hd e he

theorem Change.drawn (h : Change views s s') (fits : s'.directories.size ≤ 16 ^ idDigits)
    (hd : Drawn s) : Drawn s' := by
  cases h with
  | looked => exact hd
  | created draft id now m n a b typed accepted free named located room few first second =>
    intro d hm
    rcases (Registry.mem_insert_iff free).mp hm with hm | rfl
    · exact hd d hm
    · exact named.isDrawn (Registry.size_lt_of_insert free fits)
  | deleted d live => exact fun e he => hd e (Registry.mem_remove_iff.mp he).1
  | aliased d name live plain allowed new => exact hd.replace live
  | ssoSwitched d enabled live named => exact hd.replace live
  | tagged id tags live valid room => exact hd
  | untagged id keys live => exact hd

/-- What can be stored at all: a draw of an id ends only while one is free. -/
def Countable (scope : Scope) (quotas : DirectoryQuotas)
    (qs : List (Request × (Nat → NetworkView))) : Prop :=
  ∀ part, part <+: qs → (run scope quotas part).directories.size ≤ 16 ^ idDigits

theorem Change.size_le (h : Change views s s') :
    s'.directories.size ≤ s.directories.size + 1 := by
  cases h with
  | looked => exact Nat.le_succ _
  | created draft id now m n a b typed accepted free named located room few first second =>
    exact (Registry.size_insert free).le
  | deleted d live => exact (Registry.size_remove_le _ _).trans (Nat.le_succ _)
  | aliased d name live plain allowed new =>
    have same : (s.directories.insert (d.withAlias name)).size = s.directories.size :=
      Registry.size_insert_of_get? live
    exact same.le.trans (Nat.le_succ _)
  | ssoSwitched d enabled live named =>
    have same : (s.directories.insert { d with ssoEnabled := enabled }).size =
      s.directories.size := Registry.size_insert_of_get? live
    exact same.le.trans (Nat.le_succ _)
  | tagged id tags live valid room => exact Nat.le_succ _
  | untagged id keys live => exact Nat.le_succ _

theorem size_run_le (scope : Scope) (quotas : DirectoryQuotas)
    (qs : List (Request × (Nat → NetworkView))) :
    (run scope quotas qs).directories.size ≤ qs.length := by
  induction qs using List.reverseRecOn with
  | nil => exact Nat.le_refl _
  | append_singleton qs q ih =>
    rw [run_concat, List.length_append]
    exact (change_after _ q).size_le.trans (Nat.succ_le_succ ih)

theorem countable_of_length (scope : Scope) (quotas : DirectoryQuotas)
    {qs : List (Request × (Nat → NetworkView))} (few : qs.length ≤ 16 ^ idDigits) :
    Countable scope quotas qs :=
  fun part hp => (size_run_le scope quotas part).trans (hp.length_le.trans few)

theorem drawn_run {scope : Scope} {quotas : DirectoryQuotas}
    {qs : List (Request × (Nat → NetworkView))} (fits : Countable scope quotas qs) :
    Drawn (run scope quotas qs) := by
  induction qs using List.reverseRecOn with
  | nil => exact fun _ hd => nomatch hd
  | append_singleton qs q ih =>
    have before := ih fun part hp => fits part (hp.trans (List.prefix_append _ _))
    have now := fits _ (List.prefix_refl _)
    rw [run_concat] at now ⊢
    exact (change_after _ q).drawn now before

theorem decode_listBag {limit : Option Nat} (h : Access.ofDirectory.Admits limit)
    (token : Option String) :
    DescribeDirectories.record.codec.decodeBag (Access.ofDirectory.listBag limit token) =
      .ok ⟨[], token, limit⟩ := by
  cases limit with
  | none => cases token <;> rfl
  | some n =>
    have bound : n ≤ Text.greatestWord32 := Nat.le_trans (h.bounds rfl n rfl).2 (by decide)
    cases token <;>
      simp [Access.ofDirectory, pageMembers, Codec.decodeBag, DescribeDirectories.record,
        Record.codec, Record.decode, Record.checkMembers, Record.optional, Record.listOrEmpty,
        Record.defaulted, Record.member, Record.start, Member.optional, Member.defaulted,
        Json.member?, Entries.get?, Codec.nullable, Codec.text, decode_word32 bound, Except.map]

theorem describe_page {limit : Option Nat} {token : Option String}
    (h : Access.ofDirectory.Admits limit) {p : Page Directory}
    (hp : Page.ofList s.directories.records token (limit.getD 100) = .ok p) :
    s.describeDirectories ⟨[], token, limit⟩ = .ok p := by
  have checked : validate (limitChecks limit) = .ok () :=
    validate_eq_ok_iff.mpr (forall_limit_checks (h.bounds rfl))
  rw [describeDirectories, pass_eq_ok_iff, mapError_eq_ok_iff]
  refine ⟨checked, ?_⟩
  rw [if_pos rfl]
  exact mapError_eq_ok_iff.mpr hp

theorem describe_singleton_eq_ok_iff {p : Page Directory} :
    s.describeDirectories ⟨[id], none, none⟩ = .ok p ↔
      (directoryIdCheck id).broken = none ∧
        ∃ d, s.directories.get? id = some d ∧ p = ⟨[d], none⟩ := by
  have checks : (∀ c ∈ [id].map directoryIdCheck ++ limitChecks none, c.broken = none) ↔
      (directoryIdCheck id).broken = none := List.forall_mem_singleton
  rw [describeDirectories, pass_eq_ok_iff, mapError_eq_ok_iff, validate_eq_ok_iff, checks,
    if_neg (List.cons_ne_nil _ _), bind_eq_ok_iff]
  refine and_congr_right fun _ => ?_
  cases found : s.directories.get? id with
  | none => simp [findAll, directory, found]
  | some d =>
    have all : s.findAll [id] = .ok [d] := by
      rw [findAll, directory_eq_ok_iff.mpr found]
      rfl
    simp only [all, Except.ok.injEq, exists_eq_left', Option.some.injEq]
    have whole : page [d] none (Option.getD none 100) = .ok ⟨[d], none⟩ := rfl
    rw [whole, Except.ok.injEq, eq_comm]

end DirectoryService

namespace Region

open DirectoryService DirectoryConstraint

variable {r : Region}

theorem textAt?_id (d : Directory) :
    (Directory.record.codec.encode d).textAt? ["DirectoryId"] = some d.id := by
  rw [Json.textAt?, Record.at?_encode]
  simp [Directory.record]

theorem mirrors_directories (drawn : Drawn r.directory) :
    Mirrors r .directory r.directory.directories Directory.record.codec.encode where
  idOf := by
    intro d
    simp only [ResourceKind.access, Access.ofDirectory]
    exact textAt?_id d
  found := by
    intro at_ d hd
    have live := Registry.get?_eq_some_iff.mpr ⟨hd, rfl⟩
    have seen := describe_singleton_eq_ok_iff.mpr ⟨check_of_isDrawn (drawn d hd), d, live, rfl⟩
    refine ⟨_, (serve_look .directory at_ r rfl rfl).trans (looked_of_ok seen r), ?_⟩
    exact Page.only?_record "DirectoryDescriptions" Directory.record.codec d
  missing := by
    intro at_ id absent
    have unseen : ∀ p, r.directory.describeDirectories ⟨[id], none, none⟩ ≠ .ok p := by
      intro p seen
      obtain ⟨-, d, live, -⟩ := describe_singleton_eq_ok_iff.mp seen
      cases absent.symm.trans live
    obtain ⟨e, he⟩ := exists_looked_eq_error unseen r
    exact ⟨e, (serve_look .directory at_ r rfl rfl).trans he⟩

theorem shows_directories (drawn : Drawn r.directory)
    (fits : r.directory.directories.size ≤ Text.greatestWord64) :
    Shows r .directory r.directory.directories.keys
      (r.directory.directories.records.map Directory.record.codec.encode) := by
  refine (mirrors_directories drawn).shows (fun _ => rfl) fun asked admitted => ?_
  refine walk_of_pages ?_ ((List.length_map _).trans_le fits) admitted
  intro at_ limit admits
  refine ⟨limit.getD 100, ?_⟩
  intro token p hp
  obtain ⟨q, hq, items, next⟩ := Page.exists_of_ofList_map hp
  refine ⟨_, (serve_look .directory at_ r rfl (decode_listBag admits token)).trans
    (looked_of_ok (describe_page admits hq) r), ?_, ?_⟩
  · rw [items]
    exact Page.items?_record "DirectoryDescriptions" Directory.record.codec q
  · rw [next]
    exact Page.textAt?_next_record Directory.record.codec q (by decide)

end Region

end ControlPlane
