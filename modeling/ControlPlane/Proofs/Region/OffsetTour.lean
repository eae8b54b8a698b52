import ControlPlane.Proofs.Directory.Listing
import ControlPlane.Proofs.Region.Tour
import ControlPlane.Proofs.Resolver.Listing

/-!
Tours through the listings whose places are offsets. While nothing of a kind is taken away, its
records only get others behind them, and those that match some filters go on to match, so an offset
goes on to tell the records before it from those after it. Main statement: such a tour is never sent
away with its token, sees nothing twice, and in the end has seen all that matched when it started,
in the order in which it was created.
-/

namespace ControlPlane

namespace Region

open ResolverService

variable {ε α : Type} [Keyed α] {r : Region}

/-- A listing with offsets for tokens: how a page of it is asked for, which records of a region it
is to show, and what it may refuse whatever page is asked for. -/
structure Paged (ε α : Type) where
  kind : ResourceKind
  ask : Region → Option Nat → Option String → Except ε (Page α)
  matching : Region → List α
  refuses : ε → Prop

def directoryPages : Paged DirectoryFault Directory where
  kind := .directory
  ask r limit token := r.directory.describeDirectories ⟨[], token, limit⟩
  matching r := r.directory.directories.records
  refuses _ := False

def filteredPages (kind : ResourceKind)
    (look : Region → ListRecords → Except ResolverFault (Listing α))
    (record : Record α α) (allowed : List String) (store : Region → Registry α)
    (filters : List Filter) : Paged ResolverFault α where
  kind := kind
  ask r limit token := (look r ⟨limit, token, filters⟩).map (·.page)
  matching r := ResolverService.matching record filters (store r).records
  refuses e := ∃ f ∈ filters, f.name ∉ allowed ∧ e = .invalidFilter f.name

def rulePages : List Filter → Paged ResolverFault ForwardingRule :=
  filteredPages .rule (·.resolver.listRules) ForwardingRule.record Filtering.ruleNames
    (·.resolver.rules)

def associationPages : List Filter → Paged ResolverFault RuleAssociation :=
  filteredPages .association (·.resolver.listAssociations) RuleAssociation.record
    Filtering.associationNames (·.resolver.associations)

namespace Paged

variable (l : Paged ε α)

def keysOf (r : Region) : List String := (l.matching r).map Keyed.key

def sights (r : Region) (visits : List Visit) : List (Sight ε α) := tour l.ask r none visits

/-- A tour with limits that the listing takes, while nothing that it lists is taken away and offsets
are words of sixty-four bits. -/
structure Fair (r : Region) (visits : List Visit) : Prop where
  suits : ∀ v ∈ visits, v.Suits l.kind
  fits : ∀ s ∈ l.sights r visits, (s.region.keys l.kind).length ≤ Text.greatestWord64

/-- What a tour that starts in a region has seen, `live` being the ids of what is there then, in the
order of their creation. -/
structure Steady (r : Region) (live : List String) (visits : List Visit) : Prop where
  answered : ∀ s ∈ l.sights r visits, ∀ e, s.answer = .error e → l.refuses e
  current : ∀ s ∈ l.sights r visits, ∀ a ∈ s.items, a ∈ l.matching s.region
  distinct : ((collected (l.sights r visits)).map Keyed.key).Nodup
  ordered : (l.keysOf r).Sublist live
  complete : Finished (l.sights r visits) →
    l.keysOf r <+: (collected (l.sights r visits)).map Keyed.key

structure Grows : Prop where
  answers : ∀ r limit token start, l.kind.access.Admits limit →
    Page.offset? (l.matching r).length token = some start →
      ∃ size, l.ask r limit token = .ok (Page.take (l.matching r) start size)
  stored : ∀ r, (l.keysOf r).Sublist (r.keys l.kind)
  kept : ∀ r (step : Step), step.Spares l.kind → l.keysOf r <+: l.keysOf (r.after step)

variable {l}

theorem Grows.kept_foldl (h : l.Grows) {steps : List Step}
    (spare : ∀ step ∈ steps, step.Spares l.kind) (r : Region) :
    l.keysOf r <+: l.keysOf (steps.foldl after r) := by
  induction steps generalizing r with
  | nil => exact List.prefix_refl _
  | cons step rest ih =>
    have now := h.kept r step (spare step List.mem_cons_self)
    exact now.trans (ih (fun later hl => spare later (List.mem_cons_of_mem _ hl)) (r.after step))

theorem length_keysOf (l : Paged ε α) (r : Region) : (l.keysOf r).length = (l.matching r).length :=
  List.length_map _

theorem length_le_of_keysOf {r r' : Region} (grown : l.keysOf r <+: l.keysOf r') :
    (l.matching r).length ≤ (l.matching r').length := by
  rw [← length_keysOf, ← length_keysOf]
  exact grown.length_le

theorem Grows.length_le (h : l.Grows) (r : Region) :
    (l.matching r).length ≤ (r.keys l.kind).length := by
  rw [← length_keysOf]
  exact (h.stored r).length_le

theorem Grows.nodup (h : l.Grows) (r : Region) : (l.keysOf r).Nodup :=
  (r.nodup_keys l.kind).sublist (h.stored r)

def Tells (place : Option String) (start : Nat) : Prop :=
  (place = none ∧ start = 0) ∨ place = some (toString start)

theorem Tells.offset? {place : Option String} {start size : Nat} (h : Tells place start)
    (inside : start ≤ size) (fits : size ≤ Text.greatestWord64) :
    Page.offset? size place = some start := by
  rcases h with ⟨rfl, rfl⟩ | rfl
  · rfl
  · exact Page.offset?_toString inside fits

/-- From an offset on, a tour sees what stands behind that offset when it ends. -/
structure Unrolls (l : Paged ε α) (r : Region) (start : Nat) (final : List String)
    (sights : List (Sight ε α)) : Prop where
  answered : ∀ s ∈ sights, ∃ p, s.answer = .ok p ∧ p.items ⊆ l.matching s.region
  grown : l.keysOf r <+: final
  distinct : final.Nodup
  seen : (collected sights).map Keyed.key <+: final.drop start
  whole : Finished sights → (collected sights).map Keyed.key = final.drop start

theorem Grows.unrolls_nil (h : l.Grows) (r : Region) (start : Nat) :
    Unrolls l r start (l.keysOf r) [] where
  answered := fun _ hs => nomatch hs
  grown := List.prefix_refl _
  distinct := h.nodup r
  seen := List.nil_prefix
  whole := fun ⟨_, hs, _⟩ => nomatch hs

theorem Grows.unrolls_last (h : l.Grows) {r : Region} {start : Nat} {p : Page α}
    (all : p.items = (l.matching r).drop start) (moments : List Region) :
    Unrolls l r start (l.keysOf r) [⟨r, .ok p, moments⟩] := by
  have seen : (collected [(⟨r, .ok p, moments⟩ : Sight ε α)]).map Keyed.key =
      (l.keysOf r).drop start := by
    rw [collected_singleton, Sight.items_ok, all, List.map_drop, keysOf]
  refine ⟨?_, List.prefix_refl _, h.nodup r, seen ▸ List.prefix_refl _, fun _ => seen⟩
  intro s hs
  rw [List.mem_singleton.mp hs]
  exact ⟨p, rfl, all ▸ List.drop_subset _ _⟩

theorem Unrolls.onward {r r' : Region} {start stop : Nat} {final : List String}
    {sights : List (Sight ε α)} (later : Unrolls l r' stop final sights)
    (grown : l.keysOf r <+: l.keysOf r') {items : List α} {next : String}
    (inside : start ≤ (l.matching r).length) (short : stop ≤ (l.matching r).length)
    (split : items ++ (l.matching r).drop stop = (l.matching r).drop start)
    (moments : List Region) :
    Unrolls l r start final (⟨r, .ok ⟨items, some next⟩, moments⟩ :: sights) := by
  have parts : final.drop start = items.map Keyed.key ++ final.drop stop := by
    obtain ⟨new, rfl⟩ := grown.trans later.grown
    rw [← length_keysOf] at inside short
    have here := congrArg (List.map Keyed.key) split
    rw [List.map_append, List.map_drop, List.map_drop, ← keysOf] at here
    rw [List.drop_append_of_le_length inside, List.drop_append_of_le_length short, ← here,
      List.append_assoc]
  refine ⟨?_, grown.trans later.grown, later.distinct, ?_, ?_⟩
  · intro s hs
    rcases List.mem_cons.mp hs with rfl | hs
    · refine ⟨_, rfl, fun a ha => ?_⟩
      have left : a ∈ (l.matching r).drop start := split ▸ List.mem_append_left _ ha
      exact List.mem_of_mem_drop left
    · exact later.answered s hs
  · rw [collected_cons, List.map_append, parts]
    exact (List.prefix_append_right_inj _).mpr later.seen
  · intro finished
    have last := (finished_cons_iff.mp finished).resolve_left (by simp [Sight.isLast])
    rw [collected_cons, List.map_append, parts, later.whole last]
    rfl

theorem Grows.exists_unrolls (h : l.Grows) {visits : List Visit}
    (suits : ∀ v ∈ visits, v.Suits l.kind) {place : Option String} {start : Nat}
    (told : Tells place start) (inside : start ≤ (l.matching r).length)
    (fits : ∀ s ∈ tour l.ask r place visits,
      (s.region.keys l.kind).length ≤ Text.greatestWord64) :
    ∃ final, Unrolls l r start final (tour l.ask r place visits) := by
  induction visits generalizing r place start with
  | nil => exact ⟨_, h.unrolls_nil r start⟩
  | cons visit rest ih =>
    obtain ⟨s, hs, rfl⟩ := exists_mem_tour_cons l.ask r place visit rest
    have few := (h.length_le s.region).trans (fits s hs)
    obtain ⟨admits, spares⟩ := suits visit List.mem_cons_self
    obtain ⟨size, answer⟩ :=
      h.answers s.region visit.limit place start admits (told.offset? inside few)
    rcases Page.take_cases (l.matching s.region) start size with
      ⟨all, last⟩ | ⟨stop, -, short, split, more⟩
    · have final : ∀ p, l.ask s.region visit.limit place = .ok p → p.next = none := by
        intro p same
        cases answer.symm.trans same
        exact last
      rw [tour_of_last final, answer]
      exact ⟨_, h.unrolls_last all _⟩
    · generalize Page.take (l.matching s.region) start size = p at answer split more
      obtain ⟨items, next⟩ := p
      cases more
      have grown := h.kept_foldl spares s.region
      have inside' := short.trans (length_le_of_keysOf grown)
      rw [tour_of_onward answer] at fits ⊢
      obtain ⟨final, later⟩ := ih (fun v hv => suits v (List.mem_cons_of_mem _ hv)) (Or.inr rfl)
        inside' fun s' hs' => fits s' (List.mem_cons_of_mem _ hs')
      exact ⟨final, later.onward grown inside short split _⟩

theorem Grows.steady (h : l.Grows) {visits : List Visit} (fair : l.Fair r visits)
    {live : List String} (same : r.keys l.kind = live) : l.Steady r live visits := by
  obtain ⟨final, unrolls⟩ :=
    h.exists_unrolls fair.suits (Or.inl ⟨rfl, rfl⟩) (Nat.zero_le _) fair.fits
  rw [← sights] at unrolls
  refine ⟨?_, ?_, ?_, ?_, ?_⟩
  · intro s hs e refused
    obtain ⟨p, answer, -⟩ := unrolls.answered s hs
    cases answer.symm.trans refused
  · intro s hs a ha
    obtain ⟨p, answer, shown⟩ := unrolls.answered s hs
    rw [Sight.items, answer] at ha
    exact shown ha
  · exact unrolls.distinct.sublist unrolls.seen.sublist
  · exact same ▸ h.stored r
  · intro finished
    rw [unrolls.whole finished, List.drop_zero]
    exact unrolls.grown

theorem steady_of_refused {visits : List Visit} (fair : l.Fair r visits)
    (refused : ∀ r limit token, l.kind.access.Admits limit →
      ∃ e, l.ask r limit token = .error e ∧ l.refuses e)
    (stored : (l.keysOf r).Sublist (r.keys l.kind)) {live : List String}
    (same : r.keys l.kind = live) : l.Steady r live visits := by
  have only : ∀ s ∈ l.sights r visits, ∃ e, s.answer = .error e ∧ l.refuses e := by
    intro s hs
    obtain ⟨v, hv, token, answer⟩ := exists_asked_of_mem_tour hs
    rw [answer]
    exact refused s.region v.limit token (fair.suits v hv).1
  have empty : ∀ s ∈ l.sights r visits, s.items = [] := by
    intro s hs
    obtain ⟨e, answer, -⟩ := only s hs
    rw [Sight.items, answer]
  have none : collected (l.sights r visits) = [] := List.flatMap_eq_nil_iff.mpr empty
  refine ⟨?_, ?_, ?_, same ▸ stored, ?_⟩
  · intro s hs e answer
    obtain ⟨e', answer', refuses⟩ := only s hs
    cases answer.symm.trans answer'
    exact refuses
  · intro s hs a ha
    rw [empty s hs] at ha
    cases ha
  · rw [none]
    exact List.nodup_nil
  · rintro ⟨s, hs, last⟩
    obtain ⟨e, answer, -⟩ := only s hs
    rw [Sight.isLast, answer] at last
    cases last

end Paged

theorem grows_directoryPages : directoryPages.Grows where
  answers := by
    intro r limit token start admits h
    exact ⟨_, DirectoryService.describe_page admits (Page.ofList_eq_of_offset? h _)⟩
  stored := fun _ => List.Sublist.refl _
  kept := fun r _ spares => keys_prefix_after spares r

theorem rules_prefix_after {step : Step} (spares : step.Spares .rule) (r : Region) :
    r.resolver.rules.records <+: (r.after step).resolver.rules.records := by
  have kept := keys_prefix_after spares r
  rcases (change_after r step).resolver_change with change | empty
  · exact change.rules_prefix kept
  · rw [keys, keys, empty] at kept
    exact empty ▸ Registry.records_prefix_empty kept

theorem associations_prefix_after {step : Step} (spares : step.Spares .association) (r : Region) :
    r.resolver.associations.records <+: (r.after step).resolver.associations.records := by
  have kept := keys_prefix_after spares r
  rcases (change_after r step).resolver_change with change | empty
  · exact change.associations_prefix kept
  · rw [keys, keys, empty] at kept
    exact empty ▸ Registry.records_prefix_empty kept

section Filtered

variable {kind : ResourceKind} {look : Region → ListRecords → Except ResolverFault (Listing α)}
  {record : Record α α} {allowed : List String} {store : Region → Registry α}
  {filters : List Filter}

theorem steady_filteredPages
    (looks : ∀ r input, look r input = listFiltered record allowed (store r).records input)
    (greatest : kind.access.greatest = some 100) (stored : ∀ r, (store r).keys = r.keys kind)
    (kept : ∀ (step : Step), step.Spares kind → ∀ r,
      (store r).records <+: (store (r.after step)).records)
    {visits : List Visit} {live : List String}
    (fair : (filteredPages kind look record allowed store filters).Fair r visits)
    (same : r.keys kind = live) :
    (filteredPages kind look record allowed store filters).Steady r live visits := by
  have part : ∀ r, ((filteredPages kind look record allowed store filters).keysOf r).Sublist
      (r.keys kind) := fun r => stored r ▸ List.filter_sublist.map _
  by_cases known : ∀ f ∈ filters, f.name ∈ allowed
  · refine Paged.Grows.steady ⟨?_, part, ?_⟩ fair same
    · intro r limit token start admits h
      obtain ⟨size, page⟩ := exists_listFiltered_page known (admits.bounds greatest) h
      exact ⟨size, (congrArg (Except.map _) (looks r _)).trans page⟩
    · exact fun r step spares => ((kept step spares r).filter _).map _
  · refine Paged.steady_of_refused fair ?_ (part r) same
    intro r limit token admits
    obtain ⟨f, hf, other, answer⟩ : ∃ f ∈ filters, f.name ∉ allowed ∧
        listFiltered record allowed (store r).records ⟨limit, token, filters⟩ =
          .error (.invalidFilter f.name) :=
      listFiltered_refused known (admits.bounds greatest) token
    refine ⟨.invalidFilter f.name, ?_, f, hf, other, rfl⟩
    exact congrArg (Except.map _) ((looks r _).trans answer)

end Filtered

/-- Tours of directories, and of rules and associations through whatever filters, that start after
any history and meet no deletion of what they list. -/
theorem offset_tours_steady (scope : Scope) (quotas : Quotas) (before : List Step)
    (filters : List Filter) (visits : List Visit) :
    let r := run scope quotas before
    let live := fun kind => Note.live (notes kind (new scope quotas) before)
    (directoryPages.Fair r visits → directoryPages.Steady r (live .directory) visits) ∧
      ((rulePages filters).Fair r visits → (rulePages filters).Steady r (live .rule) visits) ∧
      ((associationPages filters).Fair r visits →
        (associationPages filters).Steady r (live .association) visits) := by
  intro r live
  have same : ∀ kind, r.keys kind = live kind := fun kind => keys_run scope quotas kind before
  refine ⟨fun fair => ?_, fun fair => ?_, fun fair => ?_⟩
  · exact grows_directoryPages.steady fair (same .directory)
  · exact steady_filteredPages (fun _ _ => rfl) rfl (fun _ => rfl)
      (fun _ spares => rules_prefix_after spares) fair (same .rule)
  · exact steady_filteredPages (fun _ _ => rfl) rfl (fun _ => rfl)
      (fun _ spares => associations_prefix_after spares) fair (same .association)

def systemRule (draw : Nat) (name domain : String) : Step :=
  .request ⟨default, [draw]⟩ .resolver "CreateResolverRule"
    (.obj [("CreatorRequestId", .str name), ("DomainName", .str domain),
      ("RuleType", .str "SYSTEM")])

/-- One rule after the other; behind the first of two, a third is created and the second tagged. -/
def thirdRuleComes : List Visit :=
  [⟨some 1, [systemRule 7 "third" "c.example",
      .request ⟨default, []⟩ .resolver "TagResource"
        (.obj [("ResourceArn", .str ("arn:aws:route53resolver:eu-west-1:123456789012:" ++
            "resolver-rule/rslvr-rr-00000000000000006")),
          ("Tags", .arr [.obj [("Key", .str "team")]])])]⟩,
    ⟨some 1, []⟩, ⟨none, []⟩]

theorem offset_tours_steady_thirdRuleComes :
    let before := [systemRule 5 "first" "a.example", systemRule 6 "second" "b.example"]
    let r := run ⟨"123456789012", "eu-west-1", "aws"⟩ .standard before
    let pages := rulePages [⟨"RuleType", ["SYSTEM"]⟩]
    pages.Fair r thirdRuleComes ∧ Finished (pages.sights r thirdRuleComes) ∧
      (collected (pages.sights r thirdRuleComes)).map (·.domain) =
        ["a.example", "b.example", "c.example"] ∧
      pages.Steady r ["rslvr-rr-00000000000000005", "rslvr-rr-00000000000000006"]
        thirdRuleComes := by
  intro before r pages
  have one : Access.Admits (ResourceKind.access .rule) (some 1) := by
    rintro _ ⟨⟩
    exact ⟨100, rfl, by decide⟩
  have unlimited : Access.Admits (ResourceKind.access .rule) none := fun _ given => nomatch given
  have fair : pages.Fair r thirdRuleComes := by
    refine ⟨?_, by decide +kernel⟩
    intro v hv
    simp only [thirdRuleComes, List.mem_cons, List.not_mem_nil, or_false] at hv
    rcases hv with rfl | rfl | rfl
    · exact ⟨one, by decide⟩
    · exact ⟨one, by decide⟩
    · exact ⟨unlimited, by decide⟩
  have live : Note.live (notes .rule (new ⟨"123456789012", "eu-west-1", "aws"⟩ .standard) before) =
      ["rslvr-rr-00000000000000005", "rslvr-rr-00000000000000006"] := by decide +kernel
  have steady := (offset_tours_steady ⟨"123456789012", "eu-west-1", "aws"⟩ .standard before
    [⟨"RuleType", ["SYSTEM"]⟩] thirdRuleComes).2.1 fair
  exact ⟨fair, by decide +kernel, by decide +kernel, live ▸ steady⟩

end Region

end ControlPlane
