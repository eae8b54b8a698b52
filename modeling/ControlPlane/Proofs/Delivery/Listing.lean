import ControlPlane.Proofs.Delivery.Change
import ControlPlane.Proofs.Region.Listing
import Mathlib.Data.List.Sort

/-!
The delivery stream service lists the names of its streams in ascending order. A page goes on after
the last name of the page before; since all names are different and in order, the names after that
one are just those that have not been listed.
-/

namespace ControlPlane

namespace DeliveryService

variable {s : DeliveryService}

theorem sortedNames_eq (s : DeliveryService) :
    s.sortedNames none = s.streams.keys.mergeSort fun a b => a ≤ b := by
  have all : (s.streams.list fun t => Option.all (fun wanted => t.type == wanted) none) =
      s.streams.records :=
    List.filter_eq_self.mpr fun _ _ => rfl
  rw [sortedNames, all]
  rfl

theorem sortedNames_pairwise (s : DeliveryService) (type : Option String) :
    (s.sortedNames type).Pairwise (· < ·) := by
  have ordered : (s.sortedNames type).Pairwise fun a b => decide (a ≤ b) = true := by
    apply List.pairwise_mergeSort
    · intro a b c ab bc
      exact decide_eq_true (String.le_trans (of_decide_eq_true ab) (of_decide_eq_true bc))
    · intro a b
      simpa using String.le_total a b
  have different : (s.sortedNames type).Nodup :=
    (List.mergeSort_perm _ _).nodup_iff.mpr (s.streams.nodup.sublist (List.filter_sublist.map _))
  refine (ordered.and different).imp ?_
  intro a b ⟨le, ne⟩
  rw [← String.not_le]
  exact fun ge => ne (String.le_antisymm (of_decide_eq_true le) ge)

theorem sortedNames_eq_insertionSort (s : DeliveryService) (type : Option String) :
    s.sortedNames type = ((s.streams.list fun t => type.all fun wanted => t.type == wanted).map
      (·.name)).insertionSort (· ≤ ·) :=
  List.mergeSort_eq_insertionSort (· ≤ ·) _

theorem filter_lt_of_pairwise {before rest : List String} {last : String}
    (ordered : (before ++ last :: rest).Pairwise (· < ·)) :
    (before ++ last :: rest).filter (fun n => last < n) = rest := by
  rw [List.pairwise_append, List.pairwise_cons] at ordered
  obtain ⟨-, ⟨after, -⟩, apart⟩ := ordered
  have none : before.filter (fun n => last < n) = [] := by
    rw [List.filter_eq_nil_iff]
    intro n hn
    have less := apart n hn last List.mem_cons_self
    simpa using String.lt_asymm less
  have all : rest.filter (fun n => last < n) = rest := by
    rw [List.filter_eq_self]
    exact fun n hn => decide_eq_true (after n hn)
  rw [List.filter_append, none, List.nil_append, List.filter_cons, all]
  simp

theorem decode_listBag {limit : Option Nat} (h : Access.ofStream.Admits limit)
    (token : Option String) :
    ListStreams.record.codec.decodeBag (Access.ofStream.listBag limit token) =
      .ok ⟨limit, none, token⟩ := by
  cases limit with
  | none => cases token <;> rfl
  | some n =>
    have bound : n ≤ Text.greatestWord32 := Nat.le_trans (h.bounds rfl n rfl).2 (by decide)
    cases token <;>
      simp [Access.ofStream, pageMembers, Codec.decodeBag, ListStreams.record, Record.codec,
        Record.decode, Record.checkMembers, Record.optional, Record.member, Record.start,
        Member.optional, Json.member?, Entries.get?, Codec.nullable, Codec.text,
        decode_word32 bound, Except.map]

theorem one_le_of_limitChecks {limit : Option Nat} {greatest fallback : Nat} {u : Unit}
    (h : runChecks (limitChecks limit greatest) = .ok u) (least : limit = none → 1 ≤ fallback) :
    1 ≤ limit.getD fallback := by
  cases limit with
  | none => exact least rfl
  | some n =>
    have checked := runChecks_eq_ok_iff.mp h (.of "limit" n (.valueAtLeast 1)) List.mem_cons_self
    rw [Check.of, Rule.valueAtLeast, Rule.requires_eq_none_iff, decide_eq_true_eq] at checked
    exact checked

/-- The names of a type that are left after a token. -/
def remaining (s : DeliveryService) (type token : Option String) : List String :=
  (s.sortedNames type).filter fun n => token.all fun start => start < n

theorem listStreams_eq_ok_iff {input : ListStreams} {p : StreamNames} :
    s.listStreams input = .ok p ↔
      runChecks (limitChecks input.limit greatestLimit) = .ok () ∧
        (∀ type, input.type = some type → type ∈ streamTypes) ∧
        p = ⟨(s.remaining input.type input.after).take (input.limit.getD defaultLimit),
          input.limit.getD defaultLimit < (s.remaining input.type input.after).length⟩ := by
  have typed : (∀ c ∈ Check.ofOption "deliveryStreamType" input.type (.memberOf streamTypes),
      c.broken = none) ↔ ∀ type, input.type = some type → type ∈ streamTypes := by
    cases input.type with
    | none => simp [Check.ofOption]
    | some type => simp [Check.ofOption, Check.of, Rule.memberOf, Rule.requires_eq_none_iff]
  rw [listStreams, pass_eq_ok_iff, runChecks_eq_ok_iff, List.forall_mem_append,
    ← runChecks_eq_ok_iff, typed, pure_eq_ok_iff, and_assoc]
  exact and_congr_right fun _ => and_congr_right fun _ => eq_comm

theorem limitChecks_of_admits {limit : Option Nat} (h : Access.ofStream.Admits limit) :
    runChecks (limitChecks limit greatestLimit) = .ok () :=
  runChecks_eq_ok_iff.mpr (forall_limit_checks (h.bounds rfl))

theorem list_page {limit : Option Nat} (h : Access.ofStream.Admits limit) (token : Option String) :
    s.listStreams ⟨limit, none, token⟩ =
      .ok ⟨(s.remaining none token).take (limit.getD defaultLimit),
        limit.getD defaultLimit < (s.remaining none token).length⟩ := by
  have typed : ∀ type, none = some type → type ∈ streamTypes := fun _ given => nomatch given
  exact listStreams_eq_ok_iff.mpr ⟨limitChecks_of_admits h, typed, rfl⟩

theorem items?_names (p : StreamNames) :
    ((StreamNames.record.codec.encode p).at? ["DeliveryStreamNames"]).bind Json.items? =
      some (p.names.map .str) := by
  rw [Record.at?_encode]
  simp [StreamNames.record]

theorem at?_hasMore (p : StreamNames) :
    (StreamNames.record.codec.encode p).at? ["HasMoreDeliveryStreams"] = some (.bool p.hasMore) := by
  rw [Record.at?_encode]
  simp [StreamNames.record]

theorem next_names (p : StreamNames) :
    Access.ofStream.next (StreamNames.record.codec.encode p) =
      if p.hasMore then p.names.getLast? else none := by
  simp only [Access.ofStream, at?_hasMore, items?_names]
  cases p.hasMore with
  | false => rfl
  | true =>
    simp only [Option.bind_some, List.getLast?_map]
    cases p.names.getLast? <;> rfl

theorem at?_name (t : DeliveryStream) :
    ((Codec.single "DeliveryStreamDescription" DeliveryStream.record.codec).encode t).at?
      ["DeliveryStreamDescription", "DeliveryStreamName"] = some (.str t.name) := by
  have name : (DeliveryStream.record.codec.encode t).at? ["DeliveryStreamName"] =
      some (.str t.name) := by
    rw [Record.at?_encode]
    simp [DeliveryStream.record]
  exact Json.at?_cons_of_at? (Codec.at?_single _ _ t) name

end DeliveryService

namespace Region

open DeliveryService

variable {r : Region}

def streamPage (r : Region) (limit : Option Nat) (token : Option String) : StreamNames :=
  ⟨(r.delivery.remaining none token).take (limit.getD defaultLimit),
    limit.getD defaultLimit < (r.delivery.remaining none token).length⟩

theorem serve_streams (at_ : Moment) {limit : Option Nat} (h : Access.ofStream.Admits limit)
    (token : Option String) :
    r.serve at_ .delivery "ListDeliveryStreams" (Access.ofStream.listBag limit token) =
      .ok (StreamNames.record.codec.encode (r.streamPage limit token), r) :=
  (serve_look .delivery at_ r rfl (decode_listBag h token)).trans (looked_of_ok (list_page h token) r)

theorem remaining_of_sortedNames {before rest : List String} {last : String}
    (split : r.delivery.sortedNames none = before ++ last :: rest) :
    r.delivery.remaining none (some last) = rest := by
  have ordered := r.delivery.sortedNames_pairwise none
  rw [split] at ordered
  rw [remaining, split]
  exact filter_lt_of_pairwise ordered

theorem one_le_of_admits {limit : Option Nat} (h : Access.ofStream.Admits limit) :
    1 ≤ limit.getD defaultLimit := by
  cases limit with
  | none => decide
  | some n => exact (h.bounds rfl n rfl).1

theorem exists_take_eq_concat {α : Type} {rest : List α} {n : Nat} (positive : 1 ≤ n)
    (more : n < rest.length) :
    ∃ front last, rest.take n = front ++ [last] ∧ rest = front ++ last :: rest.drop n := by
  rcases List.eq_nil_or_concat (rest.take n) with none | ⟨front, last, page⟩
  · have length := congrArg List.length none
    rw [List.length_take, List.length_nil] at length
    omega
  · rw [List.concat_eq_append] at page
    refine ⟨front, last, page, ?_⟩
    rw [← List.singleton_append, ← List.append_assoc, ← page, List.take_append_drop]

theorem walk_streams {before rest : List String}
    (split : r.delivery.sortedNames none = before ++ rest) {token : Option String}
    (left : r.delivery.remaining none token = rest) {asked : Nat → Moment × Option Nat}
    (admitted : Admitted .stream asked) : Walk r .stream asked token (rest.map .str) := by
  induction length : rest.length using Nat.strongRecOn generalizing before rest token asked with
  | ind size ih =>
    have served := serve_streams (r := r) (asked 0).1 (admitted 0) token
    have items := items?_names (r.streamPage (asked 0).2 token)
    have next := next_names (r.streamPage (asked 0).2 token)
    have positive := one_le_of_admits (admitted 0)
    generalize limit : (asked 0).2.getD defaultLimit = n at positive
    simp only [streamPage, left, limit] at served items next
    by_cases more : n < rest.length
    · -- The page ends with a name, and what is left is what comes after that name.
      obtain ⟨front, last, page, whole⟩ := exists_take_eq_concat positive more
      have parts := List.take_append_drop n rest
      have split' : r.delivery.sortedNames none = (before ++ front) ++ last :: rest.drop n := by
        rw [split, List.append_assoc, ← whole]
      have final : (rest.take n).getLast? = some last := by rw [page, List.getLast?_concat]
      have onward := next.trans ((if_pos (decide_eq_true more)).trans final)
      have later : Walk r .stream (fun n => asked (n + 1)) (some last) ((rest.drop n).map .str) := by
        have shorter : (rest.drop n).length < size := by
          rw [List.length_drop]
          omega
        have split'' : r.delivery.sortedNames none = (before ++ rest.take n) ++ rest.drop n := by
          rw [split, List.append_assoc, parts]
        exact ih _ shorter split'' (remaining_of_sortedNames split') (fun n => admitted (n + 1)) rfl
      have walk : Walk r .stream asked token ((rest.take n).map .str ++ (rest.drop n).map .str) :=
        .more served items onward later
      rw [← List.map_append, parts] at walk
      exact walk
    · have all : rest.take n = rest := List.take_of_length_le (Nat.le_of_not_lt more)
      rw [if_neg (by simpa using more)] at next
      rw [all] at served items next
      exact .last served items next

theorem shows_streams (r : Region) :
    Shows r .stream r.delivery.streams.keys ((r.delivery.sortedNames none).map .str) where
  listed := by
    intro asked admitted xs
    have left : r.delivery.remaining none none = r.delivery.sortedNames none :=
      List.filter_eq_self.mpr fun _ _ => rfl
    have walk := walk_streams (List.nil_append _).symm left admitted
    refine ⟨fun other => other.unique walk, ?_⟩
    rintro rfl
    exact walk
  named := by
    rw [List.map_map, sortedNames_eq]
    rfl
  known := by
    intro at_ name known
    obtain ⟨t, ht, rfl⟩ := List.mem_map.mp known
    have seen := stream_eq_ok_iff.mpr (Registry.get?_eq_some_iff.mpr ⟨ht, rfl⟩)
    refine ⟨_, .str t.name, (serve_look .delivery at_ r rfl rfl).trans (looked_of_ok seen r), ?_,
      rfl, ?_⟩
    · rw [sortedNames_eq]
      exact List.mem_map_of_mem (List.mem_mergeSort.mpr known)
    · exact at?_name t
  unknown := by
    intro at_ name unknown
    have unseen : ∀ t, r.delivery.stream name ≠ .ok t := by
      intro t seen
      have live := stream_eq_ok_iff.mp seen
      exact unknown (Registry.contains_iff.mp (Registry.contains_eq_true_iff.mpr ⟨t, live⟩))
    obtain ⟨e, he⟩ := exists_looked_eq_error unseen r
    exact ⟨e, (serve_look .delivery at_ r rfl rfl).trans he⟩

end Region

end ControlPlane
