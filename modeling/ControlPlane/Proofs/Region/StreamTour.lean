import ControlPlane.Proofs.Delivery.Listing
import ControlPlane.Proofs.Region.Tour

/-!
Tours through the names of delivery streams. A place is the last name of the page before, and a
page has names behind it only, so it does not matter whether the stream of that name is still there,
nor what comes and goes on either side of it. Main statement: a tour sees names in ascending order,
each that of a stream there at its page, and in the end all that were there at every page.
-/

namespace ControlPlane

def StreamNames.page (p : StreamNames) : Page String :=
  ⟨p.names, if p.hasMore then p.names.getLast? else none⟩

namespace Region

open DeliveryService

variable {r : Region} {type place : Option String} {name : String}

def Lists (r : Region) (type : Option String) (name : String) : Prop :=
  ∃ t ∈ r.delivery.streams.records, t.name = name ∧ ∀ wanted, type = some wanted → t.type = wanted

def askStreams (type : Option String) (r : Region) (limit : Option Nat) (place : Option String) :
    Except DeliveryFault (Page String) :=
  (r.delivery.listStreams ⟨limit, type, place⟩).map StreamNames.page

def Behind (place : Option String) (name : String) : Prop :=
  ∀ start, place = some start → start < name

theorem behind_none (name : String) : Behind none name := fun _ given => nomatch given

theorem behind_some_iff {start : String} : Behind (some start) name ↔ start < name :=
  ⟨fun h => h start rfl, fun h _ given => Option.some.inj given ▸ h⟩

theorem mem_remaining_iff :
    name ∈ r.delivery.remaining type place ↔ r.Lists type name ∧ Behind place name := by
  have behind : (place.all fun start => start < name) = true ↔ Behind place name := by
    cases place with
    | none => simp [behind_none]
    | some start => simp [behind_some_iff]
  have typed : ∀ t : DeliveryStream, (type.all fun wanted => t.type == wanted) = true ↔
      ∀ wanted, type = some wanted → t.type = wanted := by
    intro t
    cases type <;> simp
  rw [remaining, List.mem_filter, behind, sortedNames, List.mem_mergeSort, List.mem_map]
  refine and_congr_left fun _ => ⟨?_, ?_⟩
  · rintro ⟨t, ht, same⟩
    obtain ⟨live, wanted⟩ := List.mem_filter.mp ht
    exact ⟨t, live, same, (typed t).mp wanted⟩
  · rintro ⟨t, live, same, wanted⟩
    exact ⟨t, List.mem_filter.mpr ⟨live, (typed t).mpr wanted⟩, same⟩

theorem remaining_pairwise (r : Region) (type place : Option String) :
    (r.delivery.remaining type place).Pairwise (· < ·) :=
  (r.delivery.sortedNames_pairwise type).filter _

theorem askStreams_cases {limit : Option Nat} {p : Page String}
    (h : askStreams type r limit place = .ok p) :
    (p.items = r.delivery.remaining type place ∧ p.next = none) ∨
      ∃ front last rest, p = ⟨front ++ [last], some last⟩ ∧
        r.delivery.remaining type place = front ++ last :: rest := by
  obtain ⟨names, listed, rfl⟩ := map_eq_ok_iff.mp h
  obtain ⟨checked, -, rfl⟩ := listStreams_eq_ok_iff.mp listed
  have positive : 1 ≤ limit.getD defaultLimit := one_le_of_limitChecks checked fun _ => by decide
  generalize limit.getD defaultLimit = n at positive
  generalize r.delivery.remaining type place = left
  simp only [StreamNames.page]
  by_cases more : n < left.length
  · right
    obtain ⟨front, last, page, whole⟩ := exists_take_eq_concat positive more
    exact ⟨front, last, left.drop n, by simp [page, more], whole⟩
  · left
    exact ⟨List.take_of_length_le (Nat.le_of_not_lt more), if_neg (by simpa using more)⟩

theorem names_ne_nil_of_hasMore {limit : Option Nat} {p : StreamNames}
    (h : r.delivery.listStreams ⟨limit, type, place⟩ = .ok p) (more : p.hasMore = true) :
    p.names ≠ [] := by
  obtain ⟨checked, -, rfl⟩ := listStreams_eq_ok_iff.mp h
  obtain ⟨front, last, page, -⟩ :=
    exists_take_eq_concat (one_le_of_limitChecks checked fun _ => by decide)
      (of_decide_eq_true more)
  rw [page]
  exact List.concat_ne_nil _ _

/-- What a tour sees from a place on. -/
structure Ascends (type place : Option String) (sights : List (Sight DeliveryFault String)) :
    Prop where
  behind : ∀ name ∈ collected sights, Behind place name
  ascending : (collected sights).Pairwise (· < ·)
  current : ∀ s ∈ sights, ∀ name ∈ s.items, s.region.Lists type name
  complete : Finished sights → ∀ name, Behind place name →
    (∀ s ∈ sights, s.region.Lists type name) → name ∈ collected sights

theorem ascends_nil (type place : Option String) : Ascends type place [] where
  behind := fun _ hn => nomatch hn
  ascending := List.Pairwise.nil
  current := fun _ hs => nomatch hs
  complete := fun ⟨_, hs, _⟩ => nomatch hs

theorem ascends_refused (r : Region) (type place : Option String) (e : DeliveryFault)
    (moments : List Region) : Ascends type place [⟨r, .error e, moments⟩] where
  behind := fun _ hn => nomatch hn
  ascending := List.Pairwise.nil
  current := by
    intro s hs name hn
    rw [List.mem_singleton.mp hs] at hn
    cases hn
  complete := by
    rintro ⟨s, hs, last⟩
    rw [List.mem_singleton.mp hs] at last
    cases last

theorem ascends_last {p : Page String} (all : p.items = r.delivery.remaining type place)
    (moments : List Region) : Ascends type place [⟨r, .ok p, moments⟩] := by
  have seen : collected [(⟨r, .ok p, moments⟩ : Sight DeliveryFault String)] =
      r.delivery.remaining type place := (collected_singleton _).trans all
  refine ⟨?_, seen ▸ remaining_pairwise r type place, ?_, ?_⟩
  · intro name hn
    exact (mem_remaining_iff.mp (seen ▸ hn)).2
  · intro s hs name hn
    rw [List.mem_singleton.mp hs] at hn ⊢
    rw [Sight.items_ok, all] at hn
    exact (mem_remaining_iff.mp hn).1
  · intro _ name behind listed
    rw [seen, mem_remaining_iff]
    exact ⟨listed _ (List.mem_singleton_self _), behind⟩

theorem Ascends.onward {front rest : List String} {last : String}
    {sights : List (Sight DeliveryFault String)} (later : Ascends type (some last) sights)
    (split : r.delivery.remaining type place = front ++ last :: rest) (moments : List Region) :
    Ascends type place (⟨r, .ok ⟨front ++ [last], some last⟩, moments⟩ :: sights) := by
  have ordered := remaining_pairwise r type place
  rw [split, ← List.singleton_append, ← List.append_assoc, List.pairwise_append] at ordered
  obtain ⟨ascending, -, apart⟩ := ordered
  have ends : last ∈ front ++ [last] := List.mem_append_right _ (List.mem_singleton_self _)
  have shown : ∀ name ∈ front ++ [last], r.Lists type name ∧ Behind place name := by
    intro name hn
    rw [← mem_remaining_iff, split, ← List.singleton_append, ← List.append_assoc]
    exact List.mem_append_left _ hn
  have final : ∀ name ∈ front ++ [last], name < last ∨ name = last := by
    intro name hn
    refine (List.mem_append.mp hn).imp (fun before => ?_) List.mem_singleton.mp
    exact (List.pairwise_append.mp ascending).2.2 name before last (List.mem_singleton_self _)
  have beyond : ∀ name ∈ collected sights, last < name := fun name hn =>
    behind_some_iff.mp (later.behind name hn)
  refine ⟨?_, ?_, ?_, ?_⟩
  · intro name hn start given
    rw [collected_cons, List.mem_append] at hn
    rcases hn with here | there
    · exact (shown name here).2 start given
    · exact String.lt_trans ((shown last ends).2 start given) (beyond name there)
  · rw [collected_cons, List.pairwise_append]
    refine ⟨ascending, later.ascending, ?_⟩
    intro a ha b hb
    rcases final a ha with before | rfl
    · exact String.lt_trans before (beyond b hb)
    · exact beyond b hb
  · intro s hs name hn
    rcases List.mem_cons.mp hs with rfl | hs
    · exact (shown name hn).1
    · exact later.current s hs name hn
  · intro finished name behind listed
    have ended := (finished_cons_iff.mp finished).resolve_left (by simp [Sight.isLast])
    have left : name ∈ r.delivery.remaining type place :=
      mem_remaining_iff.mpr ⟨listed _ List.mem_cons_self, behind⟩
    rw [split, ← List.singleton_append, ← List.append_assoc, List.mem_append] at left
    rw [collected_cons, List.mem_append]
    rcases left with here | there
    · exact Or.inl here
    · -- The name stands behind the page, and is still there when the rest is seen.
      have further := behind_some_iff.mpr (apart last ends name there)
      exact Or.inr (later.complete ended name further fun s hs =>
        listed s (List.mem_cons_of_mem _ hs))

theorem ascends_tour (type place : Option String) (r : Region) (visits : List Visit) :
    Ascends type place (tour (askStreams type) r place visits) := by
  induction visits generalizing r place with
  | nil => exact ascends_nil type place
  | cons visit rest ih =>
    rcases tour_cases (askStreams type) r place visit with ⟨items, next, answer⟩ | last
    · rw [tour_of_onward answer]
      rcases askStreams_cases answer with ⟨-, none⟩ | ⟨front, final, behind, page, split⟩
      · cases none
      · cases page
        exact (ih _ _).onward split _
    · rw [tour_of_last last]
      cases answer : askStreams type r visit.limit place with
      | error e => exact ascends_refused r type place e _
      | ok p =>
        rcases askStreams_cases answer with ⟨all, -⟩ | ⟨front, final, behind, page, -⟩
        · exact ascends_last all _
        · cases page.symm ▸ last _ answer

/-- Tours of the streams of a type, or of all, whatever happens between two pages. -/
theorem stream_tours_ascend (r : Region) (type : Option String) (visits : List Visit) :
    let sights := tour (askStreams type) r none visits
    (∀ limit place p, r.delivery.listStreams ⟨limit, type, place⟩ = .ok p →
        p.hasMore = true → p.names ≠ []) ∧
      ((∀ wanted, type = some wanted → wanted ∈ streamTypes) →
        (∀ v ∈ visits, Access.ofStream.Admits v.limit) → ∀ s ∈ sights, ∃ p, s.answer = .ok p) ∧
      (collected sights).Pairwise (· < ·) ∧
      (∀ s ∈ sights, ∀ name ∈ s.items, s.region.Lists type name) ∧
      (Finished sights → ∀ name, (∀ s ∈ sights, s.region.Lists type name) →
        name ∈ collected sights) := by
  intro sights
  have ascends := ascends_tour type none r visits
  refine ⟨fun _ _ _ => names_ne_nil_of_hasMore, ?_, ascends.ascending, ascends.current, ?_⟩
  · intro known admitted s hs
    obtain ⟨v, hv, place, answer⟩ := exists_asked_of_mem_tour hs
    have checked := limitChecks_of_admits (admitted v hv)
    rw [answer]
    exact ⟨_, map_eq_ok_iff.mpr ⟨_, listStreams_eq_ok_iff.mpr ⟨checked, known, rfl⟩, rfl⟩⟩
  · exact fun finished name => ascends.complete finished name (behind_none name)

def streamStep (action name : String) : Step :=
  .request ⟨default, []⟩ .delivery action
    (.obj [("DeliveryStreamName", .str name), ("S3DestinationConfiguration", .obj [])])

/-- One name after the other; the stream just seen goes, and others come before it and behind. -/
def neighboursChange : List Visit :=
  [⟨some 1, [streamStep "DeleteDeliveryStream" "bravo", streamStep "CreateDeliveryStream" "alpha",
      streamStep "CreateDeliveryStream" "charlie"]⟩,
    ⟨some 1, [streamStep "DeleteDeliveryStream" "delta"]⟩, ⟨none, []⟩]

theorem stream_tours_ascend_neighboursChange :
    let before := ["echo", "bravo", "delta"].map (streamStep "CreateDeliveryStream")
    let r := run ⟨"123456789012", "eu-west-1", "aws"⟩ .standard before
    let sights := tour (askStreams (some directPut)) r none neighboursChange
    Finished sights ∧ collected sights = ["bravo", "charlie", "echo"] ∧
      (collected sights).Pairwise (· < ·) ∧ ∀ s ∈ sights, ∃ p, s.answer = .ok p := by
  have known : ∀ wanted, some directPut = some wanted → wanted ∈ streamTypes := by
    rintro _ ⟨⟩
    decide
  have admitted : ∀ v ∈ neighboursChange, Access.ofStream.Admits v.limit := by
    intro v hv n given
    refine ⟨10000, rfl, ?_⟩
    simp only [neighboursChange, List.mem_cons, List.not_mem_nil, or_false] at hv
    rcases hv with rfl | rfl | rfl <;> cases given <;> decide
  refine ⟨?_, ?_, ?_, ?_⟩
  · unfold askStreams
    simp only [listStreams, sortedNames_eq_insertionSort]
    decide +kernel
  · unfold askStreams
    simp only [listStreams, sortedNames_eq_insertionSort]
    decide +kernel
  · exact (stream_tours_ascend _ (some directPut) neighboursChange).2.2.1
  · exact (stream_tours_ascend _ (some directPut) neighboursChange).2.1 known admitted

end Region

end ControlPlane
