import ControlPlane.Proofs.Region.Listing
import ControlPlane.Proofs.Resolver.Note

/-!
The name resolver service lists endpoints, rules and associations in pages, in the order of their
stores, and finds each by its id. An id is looked up only if it is short, as all ids are that are
given out while there are numerals for all records.
-/

namespace ControlPlane

namespace ResolverService

open ResolverConstraint
open Lookup hiding vpc subnet securityGroup

variable {views : Set NetworkView} {s s' : ResolverService} {id : String}

theorem check_of_isDrawn {kind : String} (h : Identifier.IsDrawn kind idDigits id)
    (short : kind.length ≤ 46) (field : String) : runChecks [idCheck field id] = .ok () := by
  have length : id.length ≤ 64 := by
    rw [h.length (by decide), idDigits]
    omega
  rw [runChecks_eq_ok_iff]
  intro c hc
  rw [List.mem_singleton.mp hc]
  exact Rule.requires_eq_none_iff.mpr (decide_eq_true length)

theorem length_endpointKind (direction : String) : (endpointKind direction).length ≤ 46 := by
  rw [endpointKind]
  split
  · decide
  · decide

structure Drawn (s : ResolverService) : Prop where
  endpoints : ∀ e ∈ s.endpoints.records,
    Identifier.IsDrawn (endpointKind e.direction) idDigits e.id
  rules : ∀ r ∈ s.rules.records, Identifier.IsDrawn "rslvr-rr" idDigits r.id
  associations : ∀ a ∈ s.associations.records, Identifier.IsDrawn "rslvr-rrassoc" idDigits a.id

structure Countable (s : ResolverService) : Prop where
  endpoints : s.endpoints.size ≤ 16 ^ idDigits
  rules : s.rules.size ≤ 16 ^ idDigits
  associations : s.associations.size ≤ 16 ^ idDigits

theorem Change.drawn (h : Change views s s') (fits : Countable s') (hd : Drawn s) : Drawn s' := by
  cases h with
  | looked => exact hd
  | endpointCreated e tags accepted room free numbered arn new granted count least greatest =>
    refine { hd with endpoints := ?_ }
    intro d hm
    rcases (Registry.mem_insert_iff free).mp hm with hm | rfl
    · exact hd.endpoints d hm
    · exact numbered.isDrawn (Registry.size_lt_of_insert free fits.endpoints)
  | endpointReplaced old new live arn requestId direction addresses =>
    refine { hd with endpoints := ?_ }
    intro d hm
    rcases Registry.eq_or_mem_of_mem_insert hm with rfl | hm
    · have same : old.id = d.id := Registry.key_of_get? live
      rw [direction, ← same]
      exact hd.endpoints old (Registry.mem_of_get? live)
    · exact hd.endpoints d hm
  | endpointDeleted old live unused =>
    exact { hd with endpoints := fun e he => hd.endpoints e (Registry.mem_remove_iff.mp he).1 }
  | ruleCreated r tags accepted room free numbered arn new bare targets out =>
    refine { hd with rules := ?_ }
    intro q hm
    rcases (Registry.mem_insert_iff free).mp hm with hm | rfl
    · exact hd.rules q hm
    · exact numbered.isDrawn (Registry.size_lt_of_insert free fits.rules)
  | ruleDeleted old live unused =>
    exact { hd with rules := fun q hq => hd.rules q (Registry.mem_remove_iff.mp hq).1 }
  | associated a r live new room free numbered =>
    refine { hd with associations := ?_ }
    intro b hm
    rcases (Registry.mem_insert_iff free).mp hm with hm | rfl
    · exact hd.associations b hm
    · exact numbered.isDrawn (Registry.size_lt_of_insert free fits.associations)
  | disassociated a live =>
    exact { hd with
      associations := fun b hb => hd.associations b (Registry.mem_remove_iff.mp hb).1 }
  | tagged arn tags live accepted room => exact { hd with }
  | untagged arn keys live => exact { hd with }

theorem association_eq_ok_iff {a : RuleAssociation} :
    s.association id = .ok a ↔
      runChecks [idCheck "resolverRuleAssociationId" id] = .ok () ∧
        s.associations.get? id = some a := by
  rw [association, pass_eq_ok_iff]
  cases s.associations.get? id <;> simp [throw_eq_ok_iff, pure_eq_ok_iff]

theorem decode_listBag {limit : Option Nat} (h : ∀ n, limit = some n → 1 ≤ n ∧ n ≤ 100)
    (token : Option String) :
    ListRecords.record.codec.decodeBag
        (.obj (pageMembers "MaxResults" "NextToken" limit token)) =
      .ok ⟨limit, token, []⟩ := by
  cases limit with
  | none => cases token <;> rfl
  | some n =>
    have bound : n ≤ Text.greatestWord32 := Nat.le_trans (h n rfl).2 (by decide)
    cases token <;>
      simp [pageMembers, Codec.decodeBag, ListRecords.record, Record.codec, Record.decode,
        Record.checkMembers, Record.optional, Record.listOrEmpty, Record.defaulted, Record.member,
        Record.start, Member.optional, Member.defaulted, Json.member?, Entries.get?,
        Codec.nullable, Codec.text, decode_word32 bound, Except.map]

variable {α : Type} {record : Record α α} {allowed : List String} {filters : List Filter}
  {records : List α}

def matching (record : Record α α) (filters : List Filter) (records : List α) : List α :=
  records.filter fun a => filters.all (Filtering.holds (record.write a))

theorem matching_nil (record : Record α α) (records : List α) :
    matching record [] records = records :=
  List.filter_eq_self.mpr fun _ _ => rfl

theorem select_eq_ok (known : ∀ f ∈ filters, f.name ∈ allowed) :
    Filtering.select record allowed filters records = .ok (matching record filters records) := by
  have none : filters.find? (fun f => !allowed.contains f.name) = none := by
    rw [List.find?_eq_none]
    intro f hf
    simpa using known f hf
  rw [Filtering.select, none]
  rfl

theorem listFiltered_page (known : ∀ f ∈ filters, f.name ∈ allowed) {limit : Option Nat}
    (h : ∀ n, limit = some n → 1 ≤ n ∧ n ≤ 100) {token : Option String} {p : Page α}
    (hp : Page.ofList (matching record filters records) token (limit.getD defaultMaxResults) =
      .ok p) :
    listFiltered record allowed records ⟨limit, token, filters⟩ =
      .ok ⟨p, limit.getD defaultMaxResults⟩ := by
  have checked : runChecks (maxResultsChecks limit) = .ok () :=
    runChecks_eq_ok_iff.mpr (forall_limit_checks h)
  have paged : page (matching record filters records) token (limit.getD defaultMaxResults) =
      .ok p := mapError_eq_ok_iff.mpr hp
  rw [listFiltered, pass_eq_ok_iff]
  refine ⟨checked, bind_eq_ok_iff.mpr ⟨_, select_eq_ok known, ?_⟩⟩
  exact map_eq_ok_iff.mpr ⟨p, paged, rfl⟩

theorem exists_listFiltered_page (known : ∀ f ∈ filters, f.name ∈ allowed)
    {limit : Option Nat} (bounds : ∀ n, limit = some n → 1 ≤ n ∧ n ≤ 100) {token : Option String}
    {start : Nat}
    (h : Page.offset? (matching record filters records).length token = some start) :
    ∃ size, (listFiltered record allowed records ⟨limit, token, filters⟩).map (·.page) =
      .ok (Page.take (matching record filters records) start size) := by
  have page := listFiltered_page known bounds (Page.ofList_eq_of_offset? h _)
  exact ⟨_, map_eq_ok_iff.mpr ⟨_, page, rfl⟩⟩

theorem listFiltered_of_find? {bad : Filter}
    (found : filters.find? (fun f => !allowed.contains f.name) = some bad) {limit : Option Nat}
    (h : ∀ n, limit = some n → 1 ≤ n ∧ n ≤ 100) (token : Option String) :
    listFiltered record allowed records ⟨limit, token, filters⟩ =
      .error (.invalidFilter bad.name) := by
  have checked : runChecks (maxResultsChecks limit) = .ok () :=
    runChecks_eq_ok_iff.mpr (forall_limit_checks h)
  rw [listFiltered, checked]
  simp only [Filtering.select, found]
  rfl

theorem listFiltered_refused (unknown : ¬∀ f ∈ filters, f.name ∈ allowed) {limit : Option Nat}
    (h : ∀ n, limit = some n → 1 ≤ n ∧ n ≤ 100) (token : Option String) :
    ∃ f ∈ filters, f.name ∉ allowed ∧
      listFiltered record allowed records ⟨limit, token, filters⟩ =
        .error (.invalidFilter f.name) := by
  cases found : filters.find? fun f => !allowed.contains f.name with
  | none =>
    rw [List.find?_eq_none] at found
    exact absurd (fun f hf => by simpa using found f hf) unknown
  | some bad =>
    exact ⟨bad, List.mem_of_find?_eq_some found, by simpa using List.find?_some found,
      listFiltered_of_find? found h token⟩

variable (list : String) (c : Codec α) (l : Listing α)

theorem items?_listing (first : list ≠ "NextToken") (second : list ≠ "MaxResults") :
    (((Listing.record list c).codec.encode l).at? [list]).bind Json.items? =
      some (l.page.items.map c.encode) := by
  rw [Record.at?_encode]
  simp [Listing.record, first.symm, second.symm]

theorem textAt?_next_listing (other : list ≠ "NextToken") :
    ((Listing.record list c).codec.encode l).textAt? ["NextToken"] = l.page.next := by
  rw [Json.textAt?, Record.at?_encode]
  simp [Listing.record, other]

end ResolverService

namespace Region

open ResolverService ResolverConstraint

variable {r : Region} {kind : ResourceKind} {α : Type} [Keyed α] {store : Registry α}
  {record : Record α α} {allowed : List String} {list answer : String}
  {look : ListRecords → Except ResolverFault (Listing α)} {find : String → Except ResolverFault α}

/-- What the three kinds have in common: a listing with filters, and a reading by id. -/
structure Filed (r : Region) (kind : ResourceKind) (store : Registry α) (record : Record α α)
    (allowed : List String) (list answer : String)
    (look : ListRecords → Except ResolverFault (Listing α))
    (find : String → Except ResolverFault α) : Prop where
  idOf : ∀ a, (record.codec.encode a).textAt? ["Id"] = some (Keyed.key a)
  finds : ∀ a ∈ store.records, find (Keyed.key a) = .ok a
  misses : ∀ id, store.get? id = none → ∀ a, find id ≠ .ok a
  looks : ∀ input, look input = listFiltered record allowed store.records input
  lists : ∀ at_ limit token, (∀ n, limit = some n → 1 ≤ n ∧ n ≤ 100) →
    r.serve at_ kind.service kind.access.listAction (kind.access.listBag limit token) =
      looked r (Listing.record list record.codec).codec (look ⟨limit, token, []⟩)
  reads : ∀ at_ id, r.serve at_ kind.service kind.access.readAction (kind.access.readBag id) =
    looked r (.single answer record.codec) (find id)
  names : kind.access.idOf = Json.textAt? ["Id"]
  greatest : kind.access.greatest = some 100
  items : ∀ l, kind.access.items ((Listing.record list record.codec).codec.encode l) =
    some (l.page.items.map record.codec.encode)
  next : ∀ l, kind.access.next ((Listing.record list record.codec).codec.encode l) = l.page.next
  found : kind.access.found = Json.at? [answer]

theorem Filed.mirrors (h : Filed r kind store record allowed list answer look find) :
    Mirrors r kind store record.codec.encode where
  idOf := by
    rw [h.names]
    exact h.idOf
  found := by
    intro at_ a ha
    refine ⟨_, (h.reads at_ _).trans (looked_of_ok (h.finds a ha) r), ?_⟩
    rw [h.found]
    exact Codec.at?_single answer record.codec a
  missing := by
    intro at_ id absent
    obtain ⟨e, he⟩ := exists_looked_eq_error (h.misses id absent) r
    exact ⟨e, (h.reads at_ id).trans he⟩

theorem Filed.shows (h : Filed r kind store record allowed list answer look find)
    (ordered : ∀ ids, kind.arranged ids = ids) (fits : store.size ≤ Text.greatestWord64) :
    Shows r kind store.keys (store.records.map record.codec.encode) := by
  refine h.mirrors.shows ordered fun asked admitted => ?_
  refine walk_of_pages ?_ ((List.length_map _).trans_le fits) admitted
  intro at_ limit admits
  have bounds := admits.bounds h.greatest
  refine ⟨limit.getD defaultMaxResults, ?_⟩
  intro token p hp
  obtain ⟨q, hq, items, next⟩ := Page.exists_of_ofList_map hp
  have unfiltered : ∀ f ∈ ([] : List Filter), f.name ∈ allowed := fun _ hf => nomatch hf
  rw [← matching_nil record store.records] at hq
  have seen := (h.looks _).trans (listFiltered_page unfiltered bounds hq)
  refine ⟨_, (h.lists at_ limit token bounds).trans (looked_of_ok seen r), ?_, ?_⟩
  · rw [items]
    exact h.items _
  · rw [next]
    exact h.next _

theorem shows_endpoints (drawn : Drawn r.resolver)
    (fits : r.resolver.endpoints.size ≤ Text.greatestWord64) :
    Shows r .endpoint r.resolver.endpoints.keys
      (r.resolver.endpoints.records.map Endpoint.record.codec.encode) := by
  have filed : Filed r .endpoint r.resolver.endpoints Endpoint.record Filtering.endpointNames
      "ResolverEndpoints" "ResolverEndpoint" r.resolver.listEndpoints r.resolver.endpoint :=
    { idOf := textAt?_id_endpoint
      finds := by
        intro e he
        have checked := check_of_isDrawn (drawn.endpoints e he) (length_endpointKind _)
        exact endpoint_eq_ok_iff.mpr ⟨checked _, Registry.get?_eq_some_iff.mpr ⟨he, rfl⟩⟩
      misses := by
        intro id absent e found
        cases absent.symm.trans (endpoint_eq_ok_iff.mp found).2
      looks := fun _ => rfl
      lists := fun at_ _ token bounds => serve_look .resolver at_ r rfl (decode_listBag bounds token)
      reads := fun at_ _ => serve_look .resolver at_ r rfl rfl
      names := rfl
      greatest := rfl
      items := fun l => items?_listing "ResolverEndpoints" _ l (by decide) (by decide)
      next := fun l => textAt?_next_listing "ResolverEndpoints" _ l (by decide)
      found := rfl }
  exact filed.shows (fun _ => rfl) fits

theorem shows_rules (drawn : Drawn r.resolver)
    (fits : r.resolver.rules.size ≤ Text.greatestWord64) :
    Shows r .rule r.resolver.rules.keys
      (r.resolver.rules.records.map ForwardingRule.record.codec.encode) := by
  have filed : Filed r .rule r.resolver.rules ForwardingRule.record Filtering.ruleNames
      "ResolverRules" "ResolverRule" r.resolver.listRules r.resolver.rule :=
    { idOf := textAt?_id_rule
      finds := by
        intro q hq
        have checked := check_of_isDrawn (drawn.rules q hq) (by decide)
        exact rule_eq_ok_iff.mpr ⟨checked _, Registry.get?_eq_some_iff.mpr ⟨hq, rfl⟩⟩
      misses := by
        intro id absent q found
        cases absent.symm.trans (rule_eq_ok_iff.mp found).2
      looks := fun _ => rfl
      lists := fun at_ _ token bounds => serve_look .resolver at_ r rfl (decode_listBag bounds token)
      reads := fun at_ _ => serve_look .resolver at_ r rfl rfl
      names := rfl
      greatest := rfl
      items := fun l => items?_listing "ResolverRules" _ l (by decide) (by decide)
      next := fun l => textAt?_next_listing "ResolverRules" _ l (by decide)
      found := rfl }
  exact filed.shows (fun _ => rfl) fits

theorem shows_associations (drawn : Drawn r.resolver)
    (fits : r.resolver.associations.size ≤ Text.greatestWord64) :
    Shows r .association r.resolver.associations.keys
      (r.resolver.associations.records.map RuleAssociation.record.codec.encode) := by
  have filed : Filed r .association r.resolver.associations RuleAssociation.record
      Filtering.associationNames "ResolverRuleAssociations" "ResolverRuleAssociation"
      r.resolver.listAssociations r.resolver.association :=
    { idOf := textAt?_id_association
      finds := by
        intro a ha
        have checked := check_of_isDrawn (drawn.associations a ha) (by decide)
        exact association_eq_ok_iff.mpr ⟨checked _, Registry.get?_eq_some_iff.mpr ⟨ha, rfl⟩⟩
      misses := by
        intro id absent a found
        cases absent.symm.trans (association_eq_ok_iff.mp found).2
      looks := fun _ => rfl
      lists := fun at_ _ token bounds => serve_look .resolver at_ r rfl (decode_listBag bounds token)
      reads := fun at_ _ => serve_look .resolver at_ r rfl rfl
      names := rfl
      greatest := rfl
      items := fun l => items?_listing "ResolverRuleAssociations" _ l (by decide) (by decide)
      next := fun l => textAt?_next_listing "ResolverRuleAssociations" _ l (by decide)
      found := rfl }
  exact filed.shows (fun _ => rfl) fits

end Region

end ControlPlane
