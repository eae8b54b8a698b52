import ControlPlane.Proofs.Page
import ControlPlane.Proofs.Resolver.Ledger
import ControlPlane.Proofs.Resolver.Listing

/-!
What the filters of the name resolver service mean. The service looks a filter up in the JSON form
of a record; what a client means is a field of the record. The two agree for each name that may be
asked for: every such name is that of a member which is written from the field that the name tells,
a field that is absent has no texts, a count has its decimals for text and a list the texts of its
strings.

Main statement: in every state that requests lead to, the three listings refuse the first filter of
another name; else they show, page after page, exactly those records for which all filters hold, in
the order in which the history of requests created them.
-/

namespace ControlPlane

/-- One of the texts of the field that the filter names is one of its values. -/
def Filter.HoldsFor (f : Filter) (texts : String → List String) : Prop :=
  ∃ text ∈ texts f.name, text ∈ f.values

instance (f : Filter) (texts : String → List String) : Decidable (f.HoldsFor texts) :=
  inferInstanceAs (Decidable (∃ text ∈ texts f.name, text ∈ f.values))

def Endpoint.texts (e : Endpoint) : String → List String
  | "CreatorRequestId" => [e.requestId]
  | "Direction" => [e.direction]
  | "HostVPCId" => [e.vpc]
  | "IpAddressCount" => [toString e.addressCount]
  | "Name" => e.name.toList
  | "SecurityGroupIds" => e.groups
  | "Status" => [e.status]
  | _ => []

def ForwardingRule.texts (r : ForwardingRule) : String → List String
  | "CreatorRequestId" => [r.requestId]
  | "DomainName" => [r.domain]
  | "Name" => r.name.toList
  | "ResolverEndpointId" => r.endpoint.toList
  | "Status" => [r.status]
  | "RuleType" => [r.type]
  | _ => []

def RuleAssociation.texts (a : RuleAssociation) : String → List String
  | "Name" => a.name.toList
  | "ResolverRuleId" => [a.rule]
  | "Status" => [a.status]
  | "VPCId" => [a.vpc]
  | _ => []

namespace Filtering

def textsOf : Json → List String
  | .str s => [s]
  | .int n => [toString n]
  | .arr items => items.filterMap Json.text?
  | _ => []

def written (members : List (String × Json)) (name : String) : List String :=
  (Json.member? name members).elim [] textsOf

theorem isOneOf_iff {values : List String} {j : Json} :
    isOneOf values j = true ↔ ∃ text, j.text? = some text ∧ text ∈ values := by
  cases j <;> simp [isOneOf, Json.text?]

theorem valueHolds_iff {values : List String} {j : Json} :
    valueHolds values j = true ↔ ∃ text ∈ textsOf j, text ∈ values := by
  cases j with
  | arr items =>
    simp only [valueHolds, textsOf, List.any_eq_true, isOneOf_iff, List.mem_filterMap]
    constructor
    · rintro ⟨item, there, text, read, wanted⟩
      exact ⟨text, ⟨item, there, read⟩, wanted⟩
    · rintro ⟨text, ⟨item, there, read⟩, wanted⟩
      exact ⟨item, there, text, read, wanted⟩
  | _ => simp [valueHolds, textsOf]

theorem holds_iff {members : List (String × Json)} {f : Filter} :
    holds members f = true ↔ f.HoldsFor (written members) := by
  rw [holds, Filter.HoldsFor, written]
  cases Json.member? f.name members with
  | none => simp
  | some j => simp [valueHolds_iff]

/-- The members of the names that may be asked for have the texts of the fields. -/
def Faithful {α : Type} (record : Record α α) (allowed : List String)
    (texts : α → String → List String) : Prop :=
  ∀ a, ∀ name ∈ allowed, written (record.write a) name = texts a name

@[simp]
theorem textsOf_str (text : String) : textsOf (.str text) = [text] := rfl

@[simp]
theorem textsOf_word64 (n : Nat) : textsOf (Codec.word64.encode n) = [toString n] := rfl

@[simp]
theorem textsOf_texts (texts : List String) :
    textsOf (.arr (texts.map Codec.text.encode)) = texts := by
  simp [textsOf, List.filterMap_map, Function.comp_def]

@[simp]
theorem elim_textsOf_text (text? : Option String) :
    text?.elim [] (textsOf ∘ Codec.text.encode) = text?.toList := by
  cases text? with
  | none => rfl
  | some text => rfl

theorem faithful_endpoint : Faithful Endpoint.record endpointNames Endpoint.texts := by
  intro e name known
  simp only [endpointNames, List.mem_cons, List.not_mem_nil, or_false] at known
  rcases known with rfl | rfl | rfl | rfl | rfl | rfl | rfl <;>
    simp [written, Endpoint.record, Endpoint.texts]

theorem faithful_rule : Faithful ForwardingRule.record ruleNames ForwardingRule.texts := by
  intro r name known
  simp only [ruleNames, List.mem_cons, List.not_mem_nil, or_false] at known
  rcases known with rfl | rfl | rfl | rfl | rfl | rfl <;>
    simp [written, ForwardingRule.record, ForwardingRule.texts]

theorem faithful_association :
    Faithful RuleAssociation.record associationNames RuleAssociation.texts := by
  intro a name known
  simp only [associationNames, List.mem_cons, List.not_mem_nil, or_false] at known
  rcases known with rfl | rfl | rfl | rfl <;>
    simp [written, RuleAssociation.record, RuleAssociation.texts]

theorem select_append {α : Type} (record : Record α α) (allowed : List String)
    (fs gs : List Filter) (records : List α) :
    select record allowed (fs ++ gs) records =
      (select record allowed fs records).bind (select record allowed gs) := by
  rw [select, List.find?_append]
  cases first : fs.find? fun f => !allowed.contains f.name with
  | some bad => simp only [select, first, Option.some_or, Except.bind]
  | none =>
    simp only [select, first, Option.none_or, Except.bind]
    cases gs.find? fun f => !allowed.contains f.name with
    | some bad => rfl
    | none =>
      refine congrArg Except.ok ?_
      simp only [List.filter_filter, List.all_append, Bool.and_comm]

end Filtering

structure ResolverQuotas.Words (q : ResolverQuotas) : Prop where
  endpoints : q.endpoints ≤ Text.greatestWord64
  rules : q.rules ≤ Text.greatestWord64
  associations : q.associations ≤ Text.greatestWord64

namespace ResolverService

open ResolverConstraint

variable {s : ResolverService}

section Listings

variable {α : Type} {record : Record α α} {allowed : List String}
  {texts : α → String → List String} {filters : List Filter} {limit : Option Nat}

def Takes (limit : Option Nat) : Prop := ∀ n, limit = some n → 1 ≤ n ∧ n ≤ 100

theorem matching_eq (faithful : Filtering.Faithful record allowed texts)
    (known : ∀ f ∈ filters, f.name ∈ allowed) (records : List α) :
    matching record filters records =
      records.filter fun a => ∀ f ∈ filters, f.HoldsFor (texts a) := by
  refine List.filter_congr fun a _ => ?_
  rw [Bool.eq_iff_iff, List.all_eq_true, decide_eq_true_iff]
  refine forall₂_congr fun f hf => ?_
  rw [Filtering.holds_iff, Filter.HoldsFor, faithful a f.name (known f hf), Filter.HoldsFor]

theorem listFiltered_unchecked (refused : ¬Takes limit) (token : Option String)
    (records : List α) :
    ∃ e, listFiltered record allowed records ⟨limit, token, filters⟩ = .error (.validation e) := by
  rw [listFiltered, runChecks]
  cases checked : validate (maxResultsChecks limit) with
  | error e => exact ⟨e, rfl⟩
  | ok u =>
    refine absurd ?_ refused
    rintro n rfl
    have all := validate_eq_ok_iff.mp checked
    simpa [maxResultsChecks, Check.ofOption, Check.of, Rule.valueAtLeast, Rule.valueAtMost,
      Rule.requires_eq_none_iff] using all

variable [Keyed α] {store : Registry α}

/-- What the filters of a listing do to the records of its store. -/
structure FiltersByFields (s : ResolverService) (notes : List Note) (store : Registry α)
    (record : Record α α) (allowed : List String) (texts : α → String → List String)
    (action list : String) (look : ListRecords → Except ResolverFault (Listing α)) : Prop where
  -- the store has what the history left, in the order of creation
  created : store.keys = Note.live notes
  -- a request for the listing is answered with what is seen, and nothing changes
  served : ∀ at_ bag input, ListRecords.record.codec.decodeBag bag = .ok input →
    operations.serve s at_ action bag =
      pure (((look input).mapError .ofFault).map fun l =>
        ((Listing.record list record.codec).codec.encode l, s))
  limited : ∀ limit token filters, ¬Takes limit →
    ∃ e, look ⟨limit, token, filters⟩ = .error (.validation e)
  refused : ∀ limit token good bad later, Takes limit → (∀ f ∈ good, f.name ∈ allowed) →
    bad.name ∉ allowed →
      (look ⟨limit, token, good ++ bad :: later⟩).mapError ServiceError.ofFault =
        .error ⟨"InvalidParameterException", "The filter '" ++ bad.name ++ "' is invalid", 400⟩
  -- each page may be asked for with a limit of its own
  shown : ∀ filters, (∀ f ∈ filters, f.name ∈ allowed) →
    ∀ asked : Nat → Option Nat, (∀ n, Takes (asked n)) → ∀ xs,
    Page.Walk (fun n token => (look ⟨asked n, token, filters⟩).map (·.page)) none xs ↔
      xs = store.records.filter fun a => ∀ f ∈ filters, f.HoldsFor (texts a)
  composed : ∀ fs gs records, Filtering.select record allowed (fs ++ gs) records =
    (Filtering.select record allowed fs records).bind (Filtering.select record allowed gs)

theorem filtersByFields_of_faithful {notes : List Note} {action list : String}
    {look : ListRecords → Except ResolverFault (Listing α)}
    (faithful : Filtering.Faithful record allowed texts) (created : store.keys = Note.live notes)
    (fits : store.size ≤ Text.greatestWord64)
    (looks : ∀ input, look input = listFiltered record allowed store.records input)
    (served : ∀ at_ bag input, ListRecords.record.codec.decodeBag bag = .ok input →
      operations.serve s at_ action bag =
        pure (((look input).mapError .ofFault).map fun l =>
          ((Listing.record list record.codec).codec.encode l, s))) :
    FiltersByFields s notes store record allowed texts action list look where
  created := created
  served := served
  limited := by
    intro limit token filters refused
    rw [looks]
    exact listFiltered_unchecked refused token _
  refused := by
    intro limit token good bad later taken allGood unknown
    have found : (good ++ bad :: later).find? (fun f => !allowed.contains f.name) = some bad := by
      have first : (!allowed.contains bad.name) = true := by simpa using unknown
      have before : ∀ f ∈ good, (!!allowed.contains f.name) = true := by simpa using allGood
      exact List.find?_eq_some_iff_append.mpr ⟨first, good, later, rfl, before⟩
    rw [looks, listFiltered_of_find? found taken]
    rfl
  shown := by
    intro filters known asked taken xs
    rw [← matching_eq faithful known]
    have few : (matching record filters store.records).length ≤ Text.greatestWord64 :=
      (List.length_filter_le _ _).trans fits
    refine Page.walk_iff ?_ few
    intro n
    refine ⟨(asked n).getD defaultMaxResults, fun token p page => ?_⟩
    have seen := (looks _).trans (listFiltered_page known (taken n) page)
    exact map_eq_ok_iff.mpr ⟨_, seen, rfl⟩
  composed := Filtering.select_append record allowed

end Listings

/-- In every state that requests lead to, the filters of the three listings mean what their names
say. -/
theorem listings_filter_by_fields (scope : Scope) (quotas : ResolverQuotas) (words : quotas.Words)
    (qs : List (Request × (Nat → NetworkView))) :
    let s := run scope quotas qs
    let told := fun kind => notes kind (empty scope quotas) qs
    FiltersByFields s (told .endpoint) s.endpoints Endpoint.record Filtering.endpointNames
        Endpoint.texts "ListResolverEndpoints" "ResolverEndpoints" s.listEndpoints ∧
      FiltersByFields s (told .rule) s.rules ForwardingRule.record Filtering.ruleNames
        ForwardingRule.texts "ListResolverRules" "ResolverRules" s.listRules ∧
      FiltersByFields s (told .association) s.associations RuleAssociation.record
        Filtering.associationNames RuleAssociation.texts "ListResolverRuleAssociations"
        "ResolverRuleAssociations" s.listAssociations := by
  intro s told
  have recounted : Recounted s told := recounted_run scope quotas qs
  have same : s.quotas = quotas :=
    run_induction (p := fun s => s.quotas = quotas) rfl
      (fun _ _ change held => change.quotas_eq.trans held) qs
  have consistent : Consistent s :=
    run_induction (consistent_empty scope quotas) (fun _ _ change held => change.consistent held) qs
  refine ⟨?_, ?_, ?_⟩
  · have fits := consistent.endpoints_le.trans (same ▸ words.endpoints)
    exact filtersByFields_of_faithful Filtering.faithful_endpoint recounted.endpoints fits
      (fun _ => rfl) fun at_ _ _ decoded => Catalog.serve_reading rfl decoded s at_
  · have fits := consistent.rules_le.trans (same ▸ words.rules)
    exact filtersByFields_of_faithful Filtering.faithful_rule recounted.rules fits
      (fun _ => rfl) fun at_ _ _ decoded => Catalog.serve_reading rfl decoded s at_
  · have fits := consistent.associations_le.trans (same ▸ words.associations)
    exact filtersByFields_of_faithful Filtering.faithful_association recounted.associations fits
      (fun _ => rfl) fun at_ _ _ decoded => Catalog.serve_reading rfl decoded s at_

def ruleRequest (draw : Nat) (domain : String) (name : Option String) :
    Request × (Nat → NetworkView) :=
  (⟨⟨default, [draw]⟩, "CreateResolverRule", .obj ([("CreatorRequestId", .str domain),
      ("DomainName", .str domain), ("RuleType", .str "SYSTEM")] ++
        (name.map fun text => ("Name", .str text)).toList)⟩,
    fun _ => (NetworkService.empty ⟨"123456789012", "eu-west-1", "aws"⟩).view)

def namedRules : List (Request × (Nat → NetworkView)) :=
  [ruleRequest 5 "a.example" (some "inner"), ruleRequest 6 "b.example" none,
    ruleRequest 7 "c.example" (some "outer"), ruleRequest 8 "d.example" (some "inner")]

theorem listings_filter_by_fields_namedRules :
    let s := run ⟨"123456789012", "eu-west-1", "aws"⟩ .standard namedRules
    let filters : List Filter := [⟨"Name", ["inner", ""]⟩, ⟨"RuleType", ["SYSTEM"]⟩]
    ResolverQuotas.standard.Words ∧
      ∃ rules, Page.Walk (fun _ token => (s.listRules ⟨some 1, token, filters⟩).map (·.page))
          none rules ∧
        rules.map (·.domain) = ["a.example", "d.example"] := by
  intro s filters
  have words : ResolverQuotas.standard.Words := ⟨by decide, by decide, by decide⟩
  have one : Takes (some 1) := by
    rintro _ ⟨⟩
    decide
  have meant := listings_filter_by_fields ⟨"123456789012", "eu-west-1", "aws"⟩ .standard words
    namedRules
  have shown := meant.2.1.shown filters (by decide) (fun _ => some 1) fun _ => one
  exact ⟨words, _, (shown _).mpr rfl, by decide +kernel⟩

end ResolverService

end ControlPlane
