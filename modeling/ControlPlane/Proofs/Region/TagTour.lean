import ControlPlane.Proofs.Delivery.TagOrder
import ControlPlane.Proofs.Region.Tags
import ControlPlane.Proofs.Region.Tour

/-!
Tours through the tags of a delivery stream, which stand in the order in which their keys came. A
place is the last key of the page before, and a page goes on behind it; a key that is taken away has
no place, and one that comes back stands at the end. Main statement: a tour sees a key again only if
it or a key from which the tour goes on was taken away in between, and in the end it has seen all
that were always there, unless a key from which it goes on was taken away and came back.
-/

namespace ControlPlane

/-- A page of tags, and the key behind which the next one starts if there are more. -/
def StreamTags.page (p : StreamTags) : Page Tag :=
  ⟨p.tags, if p.hasMore then p.tags.getLast?.map Tag.key else none⟩

namespace Region

open DeliveryService

variable {r : Region} {name : String} {place : Option String} {quota : Nat}

def askTags (name : String) (r : Region) (limit : Option Nat) (place : Option String) :
    Except DeliveryFault (Page Tag) :=
  (r.delivery.listTags ⟨name, place, limit⟩).map StreamTags.page

def tagsOf (r : Region) (name : String) : List Tag := r.delivery.tags.tags (r.delivery.arn name)

def tagKeys (r : Region) (name : String) : List String := (r.tagsOf name).map Tag.key

structure Carries (r : Region) (name : String) (quota : Nat) : Prop where
  live : name ∈ r.keys .stream
  labelled : DeliveryService.Labelled r.delivery
  distinct : r.delivery.tags.Distinct
  quota : r.delivery.quotas.tagsPerStream = quota

theorem Carries.nodup (h : Carries r name quota) : (r.tagKeys name).Nodup :=
  h.distinct (r.delivery.arn name)

theorem Carries.change_after (h : Carries r name quota) {step : Step}
    (spares : step.Spares .stream) :
    DeliveryService.Change r.delivery (r.after step).delivery ∧
      name ∈ (r.after step).keys .stream := by
  have kept := (keys_prefix_after spares r).subset h.live
  rcases (Region.change_after r step).delivery_change with change | empty
  · exact ⟨change, kept⟩
  · rw [keys, empty] at kept
    cases kept

theorem Carries.after (h : Carries r name quota) {step : Step} (spares : step.Spares .stream) :
    Carries (r.after step) name quota := by
  obtain ⟨change, live⟩ := h.change_after spares
  exact ⟨live, change.labelled h.labelled, change.distinct h.distinct,
    (congrArg DeliveryQuotas.tagsPerStream change.quotas_eq).trans h.quota⟩

theorem Carries.order_after (h : Carries r name quota) {step : Step} (spares : step.Spares .stream)
    {a b : String} (order : [a, b].Sublist (r.tagKeys name))
    (ha : a ∈ (r.after step).tagKeys name) (hb : b ∈ (r.after step).tagKeys name) :
    [a, b].Sublist ((r.after step).tagKeys name) := by
  obtain ⟨change, live⟩ := h.change_after spares
  have same : (r.after step).delivery.arn name = r.delivery.arn name := by
    rw [arn, arn, change.scope_eq]
  rw [tagKeys, tagsOf, same] at ha hb ⊢
  rcases change.tags_of_kept h.labelled h.live live with ⟨new, written⟩ | ⟨keys, taken⟩
  · rw [written]
    exact order.trans (Tag.keys_prefix_upsertAll _ new).sublist
  · rw [taken, Tag.keys_withoutKeys, List.mem_filter] at ha hb
    have both : [a, b].filter (fun k => !keys.contains k) = [a, b] := by
      rw [List.filter_eq_self, List.forall_mem_cons, List.forall_mem_singleton]
      exact ⟨ha.2, hb.2⟩
    rw [taken, Tag.keys_withoutKeys, ← both]
    exact order.filter _

theorem Carries.foldl (h : Carries r name quota) {steps : List Step}
    (spares : ∀ step ∈ steps, step.Spares .stream) :
    Carries (steps.foldl Region.after r) name quota := by
  induction steps generalizing r with
  | nil => exact h
  | cons step rest ih =>
    have next := h.after (spares step List.mem_cons_self)
    exact ih next fun later hl => spares later (List.mem_cons_of_mem _ hl)

theorem Carries.order_foldl (h : Carries r name quota) {steps : List Step}
    (spares : ∀ step ∈ steps, step.Spares .stream) {a b : String}
    (order : [a, b].Sublist (r.tagKeys name))
    (stay : ∀ q ∈ r.stages steps, a ∈ q.tagKeys name ∧ b ∈ q.tagKeys name) :
    [a, b].Sublist ((steps.foldl Region.after r).tagKeys name) := by
  induction steps generalizing r with
  | nil => exact order
  | cons step rest ih =>
    have spared := spares step List.mem_cons_self
    have later : ∀ q ∈ (r.after step).stages rest, a ∈ q.tagKeys name ∧ b ∈ q.tagKeys name :=
      fun q hq => stay q (List.mem_cons_of_mem _ hq)
    obtain ⟨ha, hb⟩ := later _ (self_mem_stages _ rest)
    exact ih (h.after spared) (fun step hs => spares step (List.mem_cons_of_mem _ hs))
      (h.order_after spared order ha hb) later

/-- The limit is one that the listing takes, or there is none and the quota is not zero. -/
def Turns (quota : Nat) (limit : Option Nat) : Prop :=
  (∀ n, limit = some n → 1 ≤ n ∧ n ≤ greatestTagLimit) ∧ (limit = none → quota ≠ 0)

theorem Turns.positive {limit : Option Nat} (h : Turns quota limit) : 1 ≤ limit.getD quota := by
  cases limit with
  | none => exact Nat.one_le_iff_ne_zero.mpr (h.2 rfl)
  | some n => exact (h.1 n rfl).1

theorem Carries.askTags_cases (h : Carries r name quota) {limit : Option Nat}
    (turns : Turns quota limit) (place : Option String) :
    askTags name r limit place = .ok ⟨tagsAfter (r.tagsOf name) place, none⟩ ∨
      ∃ front last rest, askTags name r limit place = .ok ⟨front ++ [last], some last.key⟩ ∧
        tagsAfter (r.tagsOf name) place = front ++ last :: rest := by
  obtain ⟨t, found⟩ := Registry.contains_eq_true_iff.mp (Registry.contains_iff.mpr h.live)
  obtain ⟨ht, named⟩ := Registry.get?_eq_some_iff.mp found
  have arn : t.arn = r.delivery.arn name := (h.labelled.streams t ht).trans (congrArg _ named)
  have checked : runChecks (limitChecks limit greatestTagLimit) = .ok () :=
    runChecks_eq_ok_iff.mpr (forall_limit_checks turns.1)
  have page : r.delivery.listTags ⟨name, place, limit⟩ = .ok _ :=
    listTags_eq_ok_iff.mpr ⟨checked, t, found, rfl⟩
  have positive := turns.positive
  rw [askTags, page]
  simp only [Except.map, StreamTags.page, arn, h.quota]
  rw [← tagsOf]
  generalize limit.getD quota = n at positive
  generalize tagsAfter (r.tagsOf name) place = left
  by_cases more : n < left.length
  · right
    obtain ⟨front, last, shown, whole⟩ := exists_take_eq_concat positive more
    exact ⟨front, last, left.drop n, by simp [shown, more], whole⟩
  · left
    rw [List.take_of_length_le (Nat.le_of_not_lt more), if_neg (by simpa using more)]

/-! ### Tours -/

/-- A stop at which a page can be asked for, and after which no stream is taken away. -/
def Visit.Browses (quota : Nat) (v : Visit) : Prop :=
  Turns quota v.limit ∧ ∀ step ∈ v.between, step.Spares .stream

/-- Keys that are there at all of some moments stand at the end in the order in which they stood. -/
def OrderKept (name : String) (r r' : Region) (moments : List Region) : Prop :=
  ∀ a b, (∀ q ∈ moments, a ∈ q.tagKeys name ∧ b ∈ q.tagKeys name) →
    [a, b].Sublist (r.tagKeys name) → [a, b].Sublist (r'.tagKeys name)

/-- The sights of a tour of the tags of a stream that is there all the time: at each, the tags
behind its place as far as the page goes, and the order of the keys that stay until the next. -/
inductive TagWalk (name : String) : Region → Option String → List (Sight DeliveryFault Tag) → Prop
  | nil (r : Region) (place : Option String) (distinct : (r.tagKeys name).Nodup) :
    TagWalk name r place []
  | last (r : Region) (place : Option String) (distinct : (r.tagKeys name).Nodup) :
    TagWalk name r place [⟨r, .ok ⟨tagsAfter (r.tagsOf name) place, none⟩, [r]⟩]
  | onward (r r' : Region) (place : Option String) (front behind : List Tag) (last : Tag)
    (moments : List Region) (sights : List (Sight DeliveryFault Tag))
    (distinct : (r.tagKeys name).Nodup)
    (split : tagsAfter (r.tagsOf name) place = front ++ last :: behind)
    (first : r ∈ moments) (final : moments.getLast? = some r')
    (order : OrderKept name r r' moments)
    (later : TagWalk name r' (some last.key) sights) :
    TagWalk name r place (⟨r, .ok ⟨front ++ [last], some last.key⟩, moments⟩ :: sights)

theorem Carries.tagWalk (h : Carries r name quota) {visits : List Visit}
    (browses : ∀ v ∈ visits, v.Browses quota) :
    TagWalk name r place (tour (askTags name) r place visits) := by
  induction visits generalizing r place with
  | nil => exact .nil r place h.nodup
  | cons visit rest ih =>
    obtain ⟨turns, spares⟩ := browses visit List.mem_cons_self
    rcases h.askTags_cases turns place with all | ⟨front, last, behind, answer, split⟩
    · have done : ∀ p, askTags name r visit.limit place = .ok p → p.next = none := by
        intro p same
        cases all.symm.trans same
        rfl
      rw [tour_of_last done, all]
      exact .last r place h.nodup
    · rw [tour_of_onward answer]
      exact .onward r _ place front behind last _ _ h.nodup split (self_mem_stages r _)
        (getLast?_stages r _) (fun a b stay order => h.order_foldl spares order stay)
        (ih (h.foldl spares) fun v hv => browses v (List.mem_cons_of_mem _ hv))

namespace Sight

def Keeps (s : Sight DeliveryFault Tag) (name key : String) : Prop :=
  ∀ q ∈ s.moments, key ∈ q.tagKeys name

def Loses (s : Sight DeliveryFault Tag) (name key : String) : Prop :=
  ∀ q ∈ s.moments.getLast?, key ∉ q.tagKeys name

/-- The key stays, and so does the one from which the tour goes on. -/
def Settles (s : Sight DeliveryFault Tag) (name key : String) : Prop :=
  s.Keeps name key ∧ ∀ next ∈ s.next, s.Keeps name next

end Sight

namespace TagWalk

variable {sights : List (Sight DeliveryFault Tag)} {start key : String}

theorem nodup (h : TagWalk name r place sights) : (r.tagKeys name).Nodup := by
  cases h <;> assumption

def keysOf (s : Sight DeliveryFault Tag) : List String := s.items.map Tag.key

def Reached (r : Region) (name start key : String) : Prop :=
  key = start ∨ [key, start].Sublist (r.tagKeys name)

theorem Reached.not_mem_tagsAfter (h : Reached r name start key) (distinct : (r.tagKeys name).Nodup)
    (known : start ∈ r.tagKeys name) :
    key ∉ (tagsAfter (r.tagsOf name) (some start)).map Tag.key := by
  intro behind
  have order := (mem_tagsAfter_iff distinct known).mp behind
  rcases h with rfl | before
  · exact List.nodup_iff_sublist.mp distinct key order
  · exact not_pair_sublist_swap distinct before order

section Onward

variable {r' : Region} {front behind : List Tag} {last : Tag} {moments : List Region}

theorem reached_of_mem_page (split : tagsAfter (r.tagsOf name) place = front ++ last :: behind)
    (shown : key ∈ (front ++ [last]).map Tag.key) : Reached r name last.key key := by
  rw [List.map_append, List.mem_append] at shown
  refine shown.symm.imp List.mem_singleton.mp fun before => ?_
  have parts := (tagsAfter_suffix (r.tagsOf name) place).sublist.map Tag.key
  rw [split, List.map_append, List.map_cons] at parts
  have pair := (List.singleton_sublist.mpr before).append
    (List.singleton_sublist.mpr (List.mem_cons_self (a := last.key) (l := behind.map Tag.key)))
  exact pair.trans parts

theorem Reached.onward (h : Reached r name start key) (distinct : (r.tagKeys name).Nodup)
    (known : start ∈ r.tagKeys name)
    (split : tagsAfter (r.tagsOf name) (some start) = front ++ last :: behind) :
    Reached r name last.key key := by
  have ahead : [start, last.key].Sublist (r.tagKeys name) := by
    rw [tagKeys, ← mem_tagsAfter_iff distinct known, split, List.map_append, List.map_cons]
    exact List.mem_append_right _ List.mem_cons_self
  rcases h with rfl | before
  · exact Or.inr ahead
  · exact Or.inr (pair_sublist_trans distinct before ahead)

theorem Reached.kept (h : Reached r name start key) {s : Sight DeliveryFault Tag}
    (settled : s.Settles name key) (next : start ∈ s.next)
    (order : OrderKept name r r' s.moments) : Reached r' name start key :=
  h.imp id (order key start fun q hq => ⟨settled.1 q hq, settled.2 start next q hq⟩)

end Onward

/-- A key that is reached by a place is seen again only if it or a place is taken away before. -/
theorem not_mem_of_reached (h : TagWalk name r place sights) (given : place = some start)
    (known : start ∈ r.tagKeys name) (reached : Reached r name start key)
    {before after : List (Sight DeliveryFault Tag)} {s : Sight DeliveryFault Tag}
    (split : sights = before ++ s :: after) (settled : ∀ s' ∈ before, s'.Settles name key) :
    key ∉ keysOf s := by
  induction h generalizing start before with
  | nil r place distinct => simp at split
  | last r place distinct =>
    subst given
    cases before with
    | nil =>
      obtain ⟨rfl, -⟩ := List.cons_eq_cons.mp split
      exact reached.not_mem_tagsAfter distinct known
    | cons first before => exact absurd (List.cons_eq_cons.mp split).2 (by simp)
  | onward r r' place front behind last moments sights distinct split' first final order later ih =>
    subst given
    cases before with
    | nil =>
      obtain ⟨rfl, rfl⟩ := List.cons_eq_cons.mp split
      have unseen := reached.not_mem_tagsAfter distinct known
      rw [split', ← List.singleton_append, ← List.append_assoc, List.map_append,
        List.mem_append, not_or] at unseen
      exact unseen.1
    | cons s' before =>
      obtain ⟨rfl, rest⟩ := List.cons_eq_cons.mp split
      have here := settled _ List.mem_cons_self
      have next := (reached.onward distinct known split').kept here rfl order
      have still := here.2 last.key rfl r' (List.mem_of_getLast? final)
      exact ih rfl still next rest fun s' hs => settled s' (List.mem_cons_of_mem _ hs)

theorem exists_unsettled_between (h : TagWalk name r place sights)
    {before between after : List (Sight DeliveryFault Tag)} {s s' : Sight DeliveryFault Tag}
    (split : sights = before ++ s :: (between ++ s' :: after)) (shown : key ∈ keysOf s)
    (again : key ∈ keysOf s') : ∃ seen ∈ s :: between, ¬seen.Settles name key := by
  by_contra settled
  push Not at settled
  induction h generalizing before with
  | nil r place distinct => simp at split
  | last r place distinct => simp [List.singleton_eq_append_iff] at split
  | onward r r' place front behind last moments sights distinct split' first final order later ih =>
    cases before with
    | nil =>
      obtain ⟨rfl, rest⟩ := List.cons_eq_cons.mp split
      have here := settled _ List.mem_cons_self
      have next := (reached_of_mem_page split' shown).kept here rfl order
      have still := here.2 last.key rfl r' (List.mem_of_getLast? final)
      exact later.not_mem_of_reached rfl still next rest
        (fun s hs => settled s (List.mem_cons_of_mem _ hs)) again
    | cons first before => exact ih (List.cons_eq_cons.mp split).2

theorem not_mem_collected_of_reached (h : TagWalk name r (some start) sights)
    (known : start ∈ r.tagKeys name) (reached : Reached r name start key)
    (settled : ∀ s ∈ sights, s.Settles name key) : key ∉ (collected sights).map Tag.key := by
  intro seen
  obtain ⟨t, ht, rfl⟩ := List.mem_map.mp seen
  obtain ⟨s, hs, shown⟩ := mem_collected_iff.mp ht
  obtain ⟨before, after, rfl⟩ := List.append_of_mem hs
  exact h.not_mem_of_reached rfl known reached rfl
    (fun s hs => settled s (List.mem_append_left _ hs)) (List.mem_map_of_mem shown)

theorem count_le_one (h : TagWalk name r place sights)
    (settled : ∀ s ∈ sights, s.Settles name key) :
    ((collected sights).map Tag.key).count key ≤ 1 := by
  induction h with
  | nil r place distinct => exact Nat.zero_le _
  | last r place distinct =>
    have part := (tagsAfter_suffix (r.tagsOf name) place).sublist.map Tag.key
    rw [collected_singleton, Sight.items_ok]
    exact List.nodup_iff_count_le_one.mp (distinct.sublist part) key
  | onward r r' place front behind last moments sights distinct split first final order later ih =>
    have here := settled _ List.mem_cons_self
    have after := fun s hs => settled s (List.mem_cons_of_mem _ hs)
    rw [collected_cons, Sight.items_ok, List.map_append, List.count_append]
    by_cases shown : key ∈ (front ++ [last]).map Tag.key
    · -- It stands on this page, once, and is reached by whatever comes later.
      have next := (reached_of_mem_page split shown).kept here rfl order
      have still := here.2 last.key rfl r' (List.mem_of_getLast? final)
      rw [List.count_eq_zero_of_not_mem (later.not_mem_collected_of_reached still next after)]
      have part := (tagsAfter_suffix (r.tagsOf name) place).sublist.map Tag.key
      rw [split, ← List.singleton_append, ← List.append_assoc, List.map_append] at part
      exact List.nodup_iff_count_le_one.mp (List.nodup_append.mp (distinct.sublist part)).1 key
    · rw [List.count_eq_zero_of_not_mem shown, Nat.zero_add]
      exact ih after

theorem mem_collected (h : TagWalk name r place sights) (finished : Finished sights)
    (ahead : key ∈ (tagsAfter (r.tagsOf name) place).map Tag.key)
    (stays : ∀ s ∈ sights, s.Keeps name key)
    (places : ∀ s ∈ sights, ∀ next ∈ s.next, s.Keeps name next ∨ s.Loses name next) :
    key ∈ (collected sights).map Tag.key := by
  induction h with
  | nil r place distinct =>
    obtain ⟨s, hs, -⟩ := finished
    cases hs
  | last r place distinct =>
    rw [collected_singleton]
    exact ahead
  | onward r r' place front behind last moments sights distinct split first final order later ih =>
    have ended := (finished_cons_iff.mp finished).resolve_left (by simp [Sight.isLast])
    have here := stays _ List.mem_cons_self
    have part := (tagsAfter_suffix (r.tagsOf name) place).sublist.map Tag.key
    rw [split, ← List.singleton_append, ← List.append_assoc, List.map_append] at ahead part
    rw [collected_cons, Sight.items_ok, List.map_append, List.mem_append]
    refine (List.mem_append.mp ahead).imp id fun rest => ?_
    have next : key ∈ (tagsAfter (r'.tagsOf name) (some last.key)).map Tag.key := by
      rcases places _ List.mem_cons_self last.key rfl with place | gone
      · -- It stands behind the page, and therefore behind the place of the next.
        have pair : [last.key, key].Sublist (r.tagKeys name) := by
          rw [List.map_append, List.append_assoc] at part
          have tail := (List.singleton_sublist.mpr rest).cons_cons last.key
          exact (tail.trans (List.sublist_append_right _ _)).trans part
        have still := place r' (List.mem_of_getLast? final)
        exact (mem_tagsAfter_iff later.nodup still).mpr
          (order last.key key (fun q hq => ⟨place q hq, here q hq⟩) pair)
      · -- The next page starts over.
        rw [tagsAfter_of_not_mem (gone r' final)]
        exact here r' (List.mem_of_getLast? final)
    exact ih ended next (fun s hs => stays s (List.mem_cons_of_mem _ hs)) fun s hs =>
      places s (List.mem_cons_of_mem _ hs)

theorem answered (h : TagWalk name r place sights) :
    ∀ s ∈ sights, ∃ p, s.answer = .ok p ∧ p.items.Sublist (s.region.tagsOf name) ∧
      (p.items.map Tag.key).Nodup := by
  have page : ∀ (place : Option String) {q : Region} {items : List Tag},
      items.Sublist (tagsAfter (q.tagsOf name) place) → (q.tagKeys name).Nodup →
        items.Sublist (q.tagsOf name) ∧ (items.map Tag.key).Nodup := by
    intro place q items part distinct
    have whole := part.trans (tagsAfter_suffix (q.tagsOf name) place).sublist
    exact ⟨whole, distinct.sublist (whole.map _)⟩
  induction h with
  | nil r place distinct => exact fun _ hs => nomatch hs
  | last r place distinct =>
    intro s hs
    rw [List.mem_singleton.mp hs]
    exact ⟨_, rfl, page place (List.Sublist.refl _) distinct⟩
  | onward r r' place front behind last moments sights distinct split first final order later ih =>
    intro s hs
    rcases List.mem_cons.mp hs with rfl | hs
    · refine ⟨_, rfl, page place ?_ distinct⟩
      rw [split]
      exact (List.singleton_sublist.mpr List.mem_cons_self).append_left front
    · exact ih s hs

end TagWalk

/-- What a tour has seen, by what was taken away meanwhile. -/
structure Proper (name : String) (sights : List (Sight DeliveryFault Tag)) : Prop where
  answered : ∀ s ∈ sights, ∃ p, s.answer = .ok p ∧ p.items.Sublist (s.region.tagsOf name) ∧
    (p.items.map Tag.key).Nodup
  unrepeated : ∀ before s between s' after, sights = before ++ s :: (between ++ s' :: after) →
    ∀ key ∈ s.items.map Tag.key, key ∈ s'.items.map Tag.key →
      ∃ seen ∈ s :: between, ¬seen.Settles name key
  complete : Finished sights → ∀ key, (∀ s ∈ sights, s.Keeps name key) →
    (∀ s ∈ sights, ∀ next ∈ s.next, s.Keeps name next ∨ s.Loses name next) →
      key ∈ (collected sights).map Tag.key
  once : Finished sights → ∀ key, (∀ s ∈ sights, s.Settles name key) →
    ((collected sights).map Tag.key).count key = 1

theorem TagWalk.mem_tagKeys_of_finished {sights : List (Sight DeliveryFault Tag)} {key : String}
    (h : TagWalk name r place sights) (finished : Finished sights)
    (stays : ∀ s ∈ sights, s.Keeps name key) : key ∈ r.tagKeys name := by
  cases h with
  | nil =>
    obtain ⟨s, hs, -⟩ := finished
    cases hs
  | last => exact stays _ List.mem_cons_self r (List.mem_singleton_self r)
  | onward _ r' _ front behind last moments sights distinct split first =>
    exact stays _ List.mem_cons_self r first

theorem TagWalk.proper {sights : List (Sight DeliveryFault Tag)} (h : TagWalk name r none sights) :
    Proper name sights := by
  have complete : Finished sights → ∀ key, (∀ s ∈ sights, s.Keeps name key) →
      (∀ s ∈ sights, ∀ next ∈ s.next, s.Keeps name next ∨ s.Loses name next) →
        key ∈ (collected sights).map Tag.key := fun finished key stays =>
    h.mem_collected finished (h.mem_tagKeys_of_finished finished stays) stays
  refine ⟨h.answered, ?_, complete, ?_⟩
  · exact fun _ _ _ _ _ split _ shown again => h.exists_unsettled_between split shown again
  · intro finished key settled
    have seen := complete finished key (fun s hs => (settled s hs).1) fun s hs next told =>
      Or.inl ((settled s hs).2 next told)
    exact le_antisymm (h.count_le_one settled) (List.one_le_count_iff.mpr seen)

/-! ### Histories -/

theorem Change.delivery_distinct {r' : Region} (h : Change r r') (hd : r.delivery.tags.Distinct) :
    r'.delivery.tags.Distinct := by
  rcases h.delivery_change with change | empty
  · exact change.distinct hd
  · rw [empty]
    exact TagStore.distinct_empty

theorem carries_run (scope : Scope) (quotas : Quotas) (steps : List Step)
    (live : name ∈ (run scope quotas steps).keys .stream) :
    Carries (run scope quotas steps) name quotas.delivery.tagsPerStream where
  live := live
  labelled := (labelled_run scope quotas steps).delivery
  distinct := run_induction TagStore.distinct_empty
    (fun _ _ change held => change.delivery_distinct held) steps
  quota := congrArg DeliveryQuotas.tagsPerStream (delivery_quotas_run scope quotas steps)

theorem tags_ne_nil_of_hasMore {limit : Option Nat} {p : StreamTags}
    (h : r.delivery.listTags ⟨name, place, limit⟩ = .ok p) (more : p.hasMore = true)
    (limited : limit = none → r.delivery.quotas.tagsPerStream ≠ 0) : p.tags ≠ [] := by
  obtain ⟨checked, t, -, rfl⟩ := listTags_eq_ok_iff.mp h
  have positive : 1 ≤ limit.getD r.delivery.quotas.tagsPerStream :=
    one_le_of_limitChecks checked fun unlimited =>
      Nat.one_le_iff_ne_zero.mpr (limited unlimited)
  obtain ⟨front, last, page, -⟩ := exists_take_eq_concat positive (of_decide_eq_true more)
  rw [page]
  exact List.concat_ne_nil _ _

theorem listTags_of_not_mem (hl : DeliveryService.Labelled r.delivery) {key : String}
    (absent : key ∉ r.tagKeys name) (limit : Option Nat) :
    r.delivery.listTags ⟨name, some key, limit⟩ = r.delivery.listTags ⟨name, none, limit⟩ := by
  rw [listTags, listTags]
  cases found : r.delivery.stream name with
  | error e => rfl
  | ok t =>
    obtain ⟨ht, named⟩ := Registry.get?_eq_some_iff.mp (stream_eq_ok_iff.mp found)
    have arn : t.arn = r.delivery.arn name := (hl.streams t ht).trans (congrArg _ named)
    have again : tagsAfter (r.delivery.tags.tags t.arn) (some key) =
        tagsAfter (r.delivery.tags.tags t.arn) none := by
      rw [arn]
      exact tagsAfter_of_not_mem absent
    simp only [bind, Except.bind, again]

/-- Tours of the tags of a stream after any history. -/
theorem tag_tours_proper (scope : Scope) (quotas : Quotas) (before : List Step) (name : String)
    (visits : List Visit) :
    let r := run scope quotas before
    (∀ limit place p, r.delivery.listTags ⟨name, place, limit⟩ = .ok p → p.hasMore = true →
        (limit = none → quotas.delivery.tagsPerStream ≠ 0) → p.tags ≠ []) ∧
      (∀ limit key, key ∉ r.tagKeys name →
        r.delivery.listTags ⟨name, some key, limit⟩ = r.delivery.listTags ⟨name, none, limit⟩) ∧
      (name ∈ r.keys .stream → (∀ v ∈ visits, v.Browses quotas.delivery.tagsPerStream) →
        Proper name (tour (askTags name) r none visits)) := by
  intro r
  refine ⟨?_, ?_, ?_⟩
  · intro limit place p listed more limited
    exact tags_ne_nil_of_hasMore listed more (delivery_quotas_run scope quotas before ▸ limited)
  · intro limit key absent
    exact listTags_of_not_mem (labelled_run scope quotas before).delivery absent limit
  · intro live browses
    exact ((carries_run scope quotas before live).tagWalk browses).proper

def ordersWith (keys : List String) : Step :=
  .request ⟨default, []⟩ .delivery "CreateDeliveryStream"
    (.obj [("DeliveryStreamName", .str "orders"), ("S3DestinationConfiguration", .obj []),
      ("Tags", .arr (keys.map fun key => .obj [("Key", .str key)]))])

def tagOrders (key : String) : Step :=
  .request ⟨default, []⟩ .delivery "TagDeliveryStream"
    (.obj [("DeliveryStreamName", .str "orders"), ("Tags", .arr [.obj [("Key", .str key)]])])

def untagOrders (key : String) : Step :=
  .request ⟨default, []⟩ .delivery "UntagDeliveryStream"
    (.obj [("DeliveryStreamName", .str "orders"), ("TagKeys", .arr [.str key])])

/-- The first key comes back at the end after it was seen, and is seen again. -/
def firstComesBack : List Visit :=
  [⟨some 2, [untagOrders "a", tagOrders "d", tagOrders "a"]⟩, ⟨some 2, []⟩, ⟨none, []⟩]

theorem tag_tours_proper_firstComesBack :
    let r := run ⟨"123456789012", "eu-west-1", "aws"⟩ .standard [ordersWith ["a", "b", "c"]]
    let sights := tour (askTags "orders") r none firstComesBack
    ("orders" ∈ r.keys .stream ∧ ∀ v ∈ firstComesBack, v.Browses 50) ∧ Finished sights ∧
      (collected sights).map Tag.key = ["a", "b", "c", "d", "a"] ∧ Proper "orders" sights := by
  intro r sights
  have browses : ∀ v ∈ firstComesBack, v.Browses 50 := by
    intro v hv
    simp only [firstComesBack, List.mem_cons, List.not_mem_nil, or_false] at hv
    rcases hv with rfl | rfl | rfl
    · exact ⟨⟨fun _ given => Option.some.inj given ▸ by decide, fun given => nomatch given⟩,
        by decide⟩
    · exact ⟨⟨fun _ given => Option.some.inj given ▸ by decide, fun given => nomatch given⟩,
        by decide⟩
    · exact ⟨⟨fun _ given => (nomatch given), fun _ => by decide⟩, by decide⟩
  have live : "orders" ∈ r.keys .stream := by decide +kernel
  have proper := (tag_tours_proper ⟨"123456789012", "eu-west-1", "aws"⟩ .standard
    [ordersWith ["a", "b", "c"]] "orders" firstComesBack).2.2 live browses
  exact ⟨⟨live, browses⟩, by decide +kernel, by decide +kernel, proper⟩

/-- A tour sees a key again that was always there where the key from which it goes on is taken away,
and never sees one that was always there where that key also comes back; and where the quota is
zero, a page without a limit is empty although there are more. -/
theorem tag_tours_repeat_and_skip :
    let scope : Scope := ⟨"123456789012", "eu-west-1", "aws"⟩
    let r := run scope .standard [ordersWith ["a", "b", "c"]]
    let repeats := tour (askTags "orders") r none [⟨some 2, [untagOrders "b"]⟩, ⟨none, []⟩]
    let skips :=
      tour (askTags "orders") r none [⟨some 2, [untagOrders "b", tagOrders "b"]⟩, ⟨none, []⟩]
    let bare := run scope ⟨.standard, .standard, ⟨50, 0⟩⟩ [ordersWith ["a"]]
    (Finished repeats ∧ (∀ s ∈ repeats, ∀ q ∈ s.moments, "a" ∈ q.tagKeys "orders") ∧
        (collected repeats).map Tag.key = ["a", "b", "a", "c"]) ∧
      (Finished skips ∧ (∀ s ∈ skips, ∀ q ∈ s.moments, "c" ∈ q.tagKeys "orders") ∧
        (collected skips).map Tag.key = ["a", "b"]) ∧
      (bare.delivery.listTags ⟨"orders", none, none⟩).toOption = some ⟨[], true⟩ := by
  decide +kernel

end Region

end ControlPlane
