import ControlPlane.Proofs.Json.Return
import ControlPlane.Proofs.Page
import ControlPlane.Proofs.Region.Note
import ControlPlane.Proofs.Region.Seat
import ControlPlane.Proofs.Registry

/-!
How a client sees the resources of a region: it walks through the pages of a listing, or asks for
one resource by its id. A walk goes on with the token of each page until a page has none; every page
may be asked for with a limit of its own.
-/

namespace ControlPlane

/-- How the resources of a kind are listed and read. A listing that takes limits takes those from
one to the greatest. -/
structure Access where
  listAction : String
  listBag : Option Nat → Option String → Json
  greatest : Option Nat
  items : Json → Option (List Json)
  next : Json → Option String
  idOf : Json → Option String
  readAction : String
  readBag : String → Json
  found : Json → Option Json

def pageMembers (limitName tokenName : String) (limit : Option Nat) (token : Option String) :
    List (String × Json) :=
  (limit.map fun n => (limitName, Json.int n)).toList ++
    (token.map fun t => (tokenName, Json.str t)).toList

namespace Access

def ofNetwork (action list ids id : String) : Access where
  listAction := action
  listBag _ _ := .obj []
  greatest := none
  items j := (j.at? [list]).bind Json.items?
  next _ := none
  idOf := Json.textAt? [id]
  readAction := action
  readBag i := .obj [(ids, .arr [.str i])]
  found j := (j.at? [list]).bind Json.only?

def ofDirectory : Access where
  listAction := "DescribeDirectories"
  listBag limit token := .obj (pageMembers "Limit" "NextToken" limit token)
  greatest := some 100
  items j := (j.at? ["DirectoryDescriptions"]).bind Json.items?
  next := Json.textAt? ["NextToken"]
  idOf := Json.textAt? ["DirectoryId"]
  readAction := "DescribeDirectories"
  readBag i := .obj [("DirectoryIds", .arr [.str i])]
  found j := (j.at? ["DirectoryDescriptions"]).bind Json.only?

def ofResolver (listAction list readAction parameter answer : String) : Access where
  listAction := listAction
  listBag limit token := .obj (pageMembers "MaxResults" "NextToken" limit token)
  greatest := some 100
  items j := (j.at? [list]).bind Json.items?
  next := Json.textAt? ["NextToken"]
  idOf := Json.textAt? ["Id"]
  readAction := readAction
  readBag i := .obj [(parameter, .str i)]
  found := Json.at? [answer]

/-- The listing has names alone, and goes on after the last name of a page if that is not all. -/
def ofStream : Access where
  listAction := "ListDeliveryStreams"
  listBag limit token :=
    .obj (pageMembers "Limit" "ExclusiveStartDeliveryStreamName" limit token)
  greatest := some 10000
  items j := (j.at? ["DeliveryStreamNames"]).bind Json.items?
  next j :=
    match j.at? ["HasMoreDeliveryStreams"] with
    | some (.bool true) =>
      (((j.at? ["DeliveryStreamNames"]).bind Json.items?).bind List.getLast?).bind Json.text?
    | _ => none
  idOf := Json.text?
  readAction := "DescribeDeliveryStream"
  readBag i := .obj [("DeliveryStreamName", .str i)]
  found := Json.at? ["DeliveryStreamDescription", "DeliveryStreamName"]

/-- Canceled profiles are asked for too. -/
def ofProfile : Access where
  listAction := "ListSigningProfiles"
  listBag limit token :=
    .obj (("includeCanceled", .bool true) :: pageMembers "maxResults" "nextToken" limit token)
  greatest := some 25
  items j := (j.at? ["profiles"]).bind Json.items?
  next := Json.textAt? ["nextToken"]
  idOf := Json.textAt? ["profileName"]
  readAction := "GetSigningProfile"
  readBag i := .obj [("profileName", .str i)]
  found := some

/-- A page may be asked for without a limit, or with one that the listing takes. -/
def Admits (a : Access) (limit : Option Nat) : Prop :=
  ∀ n, limit = some n → ∃ g, a.greatest = some g ∧ 1 ≤ n ∧ n ≤ g

end Access

namespace ResourceKind

def access : ResourceKind → Access
  | vpc => .ofNetwork "DescribeVpcs" "Vpcs" "VpcIds" "VpcId"
  | subnet => .ofNetwork "DescribeSubnets" "Subnets" "SubnetIds" "SubnetId"
  | securityGroup => .ofNetwork "DescribeSecurityGroups" "SecurityGroups" "GroupIds" "GroupId"
  | directory => .ofDirectory
  | endpoint =>
    .ofResolver "ListResolverEndpoints" "ResolverEndpoints" "GetResolverEndpoint"
      "ResolverEndpointId" "ResolverEndpoint"
  | rule =>
    .ofResolver "ListResolverRules" "ResolverRules" "GetResolverRule" "ResolverRuleId" "ResolverRule"
  | association =>
    .ofResolver "ListResolverRuleAssociations" "ResolverRuleAssociations"
      "GetResolverRuleAssociation" "ResolverRuleAssociationId" "ResolverRuleAssociation"
  | stream => .ofStream
  | profile => .ofProfile

/-- The order of a listing: that of creation, but for streams that of their names. -/
def arranged : ResourceKind → List String → List String
  | stream, ids => ids.mergeSort fun a b => a ≤ b
  | _, ids => ids

end ResourceKind

theorem decode_word32 {n : Nat} (h : n ≤ Text.greatestWord32) :
    Codec.word32.decode (.int n) = .ok n :=
  Codec.returns_upTo h

theorem forall_limit_checks {field : String} {limit : Option Nat} {greatest : Nat}
    (h : ∀ n, limit = some n → 1 ≤ n ∧ n ≤ greatest) :
    ∀ c ∈ Check.ofOption field limit (.valueAtLeast 1) ++
      Check.ofOption field limit (.valueAtMost greatest), c.broken = none := by
  cases limit with
  | none => exact fun _ hc => nomatch hc
  | some n =>
    obtain ⟨least, most⟩ := h n rfl
    intro c hc
    simp only [Check.ofOption, Option.map_some, Option.toList_some, List.cons_append,
      List.nil_append, List.mem_cons, List.not_mem_nil, or_false] at hc
    rcases hc with rfl | rfl
    · exact Rule.requires_eq_none_iff.mpr (decide_eq_true least)
    · exact Rule.requires_eq_none_iff.mpr (decide_eq_true most)

theorem Access.Admits.bounds {a : Access} {limit : Option Nat} {g : Nat} (h : a.Admits limit)
    (greatest : a.greatest = some g) : ∀ n, limit = some n → 1 ≤ n ∧ n ≤ g := by
  intro n given
  obtain ⟨g', same, bounds⟩ := h n given
  cases greatest.symm.trans same
  exact bounds

namespace Page

variable {α : Type} (name : String) (c : Codec α) (p : Page α)

theorem at?_record : ((record name c).codec.encode p).at? [name] =
    some (.arr (p.items.map c.encode)) := by
  rw [Record.at?_encode]
  simp [record]

theorem items?_record : (((record name c).codec.encode p).at? [name]).bind Json.items? =
    some (p.items.map c.encode) := by
  rw [at?_record name c]
  rfl

theorem only?_record (a : α) :
    (((record name c).codec.encode ⟨[a], none⟩).at? [name]).bind Json.only? =
      some (c.encode a) := by
  rw [at?_record name c]
  rfl

theorem textAt?_next_record {name : String} (other : name ≠ "NextToken") :
    ((record name c).codec.encode p).textAt? ["NextToken"] = p.next := by
  rw [Json.textAt?, Record.at?_encode]
  simp [record, other]

end Page

namespace Region

variable {r : Region} {kind : ResourceKind}

/-- The items of a listing from a token on, page after page; `asked n` is the moment and the limit
of the page that `n` others come before. -/
inductive Walk (r : Region) (kind : ResourceKind) :
    (Nat → Moment × Option Nat) → Option String → List Json → Prop where
  | last {asked : Nat → Moment × Option Nat} {token : Option String} {j : Json} {xs : List Json}
    (served : r.serve (asked 0).1 kind.service kind.access.listAction
      (kind.access.listBag (asked 0).2 token) = .ok (j, r))
    (items : kind.access.items j = some xs) (done : kind.access.next j = none) :
    Walk r kind asked token xs
  | more {asked : Nat → Moment × Option Nat} {token : Option String} {j : Json}
    {xs ys : List Json} {next : String}
    (served : r.serve (asked 0).1 kind.service kind.access.listAction
      (kind.access.listBag (asked 0).2 token) = .ok (j, r))
    (items : kind.access.items j = some xs) (onward : kind.access.next j = some next)
    (rest : Walk r kind (fun n => asked (n + 1)) (some next) ys) :
    Walk r kind asked token (xs ++ ys)

theorem walk_of_page {xs : List Json}
    (page : ∀ at_ limit, kind.access.Admits limit → ∃ j,
      r.serve at_ kind.service kind.access.listAction (kind.access.listBag limit none) =
          .ok (j, r) ∧
        kind.access.items j = some xs ∧ kind.access.next j = none)
    {asked : Nat → Moment × Option Nat} (admitted : ∀ n, kind.access.Admits (asked n).2) :
    Walk r kind asked none xs := by
  obtain ⟨j, served, items, done⟩ := page (asked 0).1 (asked 0).2 (admitted 0)
  exact .last served items done

theorem Walk.unique {asked : Nat → Moment × Option Nat} {token : Option String}
    {xs ys : List Json} (h : Walk r kind asked token xs) (h' : Walk r kind asked token ys) :
    xs = ys := by
  induction h generalizing ys with
  | last served items done =>
    cases h' with
    | last served' items' done' =>
      cases served.symm.trans served'
      exact Option.some.inj (items.symm.trans items')
    | more served' items' onward' rest' =>
      cases served.symm.trans served'
      cases done.symm.trans onward'
  | more served items onward rest ih =>
    cases h' with
    | last served' items' done' =>
      cases served.symm.trans served'
      cases done'.symm.trans onward
    | more served' items' onward' rest' =>
      cases served.symm.trans served'
      cases onward.symm.trans onward'
      rw [Option.some.inj (items.symm.trans items'), ih rest']

def Admitted (kind : ResourceKind) (asked : Nat → Moment × Option Nat) : Prop :=
  ∀ n, kind.access.Admits (asked n).2

/-- The region lists these items and no others, in this order, for these ids; it finds by its id
each of them, as the listing has it, and nothing else. -/
structure Shows (r : Region) (kind : ResourceKind) (ids : List String) (items : List Json) :
    Prop where
  listed : ∀ asked, Admitted kind asked → ∀ xs, Walk r kind asked none xs ↔ xs = items
  named : items.map kind.access.idOf = (kind.arranged ids).map some
  known : ∀ at_, ∀ id ∈ ids, ∃ j item,
    r.serve at_ kind.service kind.access.readAction (kind.access.readBag id) = .ok (j, r) ∧
      item ∈ items ∧ kind.access.idOf item = some id ∧ kind.access.found j = some item
  unknown : ∀ at_, ∀ id, id ∉ ids → ∃ e,
    r.serve at_ kind.service kind.access.readAction (kind.access.readBag id) = .error e

def looked {ε Output : Type} [Fault ε] (r : Region) (output : Codec Output)
    (seen : Except ε Output) : Except ServiceError (Json × Region) :=
  (seen.mapError .ofFault).map fun o => (output.encode o, r)

section Looking

variable {ε Output : Type} [Fault ε] {output : Codec Output} {seen : Except ε Output}

theorem looked_of_ok {o : Output} (h : seen = .ok o) (r : Region) :
    looked r output seen = .ok (output.encode o, r) := by
  rw [h]
  rfl

theorem exists_looked_eq_error (h : ∀ o, seen ≠ .ok o) (r : Region) :
    ∃ e, looked r output seen = .error e := by
  cases seen with
  | ok o => exact absurd rfl (h o)
  | error e => exact ⟨_, rfl⟩

end Looking

theorem serve_look {m : Type → Type} [Monad m] {σ ε Input Output : Type} [Fault ε]
    (seat : Seat m σ ε) {action : String} {input : Codec Input} {output : Codec Output}
    {look : σ → Input → Except ε Output} {bag : Json} {i : Input} (at_ : Moment) (r : Region)
    (hop : seat.operations action = some (.reading input output look))
    (hd : input.decodeBag bag = .ok i) :
    r.serve at_ seat.service action bag = looked r output (look (seat.state r) i) := by
  rw [seat.serve_eq_map_run hop hd]
  simp only [Seat.run, Operation.reading, seat.answer_pure]
  cases look (seat.state r) i with
  | error e => rfl
  | ok o => exact congrArg (fun r' => Except.ok (output.encode o, r')) (seat.put_state r)

def Pages (r : Region) (kind : ResourceKind) (items : List Json) : Prop :=
  ∀ at_ limit, kind.access.Admits limit → ∃ size, ∀ token p, Page.ofList items token size = .ok p →
    ∃ j, r.serve at_ kind.service kind.access.listAction (kind.access.listBag limit token) =
        .ok (j, r) ∧
      kind.access.items j = some p.items ∧ kind.access.next j = p.next

/-- A walk through pages is one through the answers that show them. -/
theorem walk_of_walk {asked : Nat → Moment × Option Nat}
    {ask : Nat → Option String → Except InvalidNextToken (Page Json)} {token : Option String}
    {xs : List Json} (h : Page.Walk ask token xs)
    (shows : ∀ n token p, ask n token = .ok p → ∃ j,
      r.serve (asked n).1 kind.service kind.access.listAction
          (kind.access.listBag (asked n).2 token) = .ok (j, r) ∧
        kind.access.items j = some p.items ∧ kind.access.next j = p.next) :
    Walk r kind asked token xs := by
  induction h generalizing asked with
  | last page =>
    obtain ⟨j, served, items, done⟩ := shows 0 _ _ page
    exact .last served items done
  | more page rest ih =>
    obtain ⟨j, served, items, onward⟩ := shows 0 _ _ page
    exact .more served items onward (ih fun n => shows (n + 1))

theorem walk_of_pages {items : List Json} (pages : Pages r kind items)
    (fits : items.length ≤ Text.greatestWord64) {asked : Nat → Moment × Option Nat}
    (admitted : Admitted kind asked) : Walk r kind asked none items := by
  choose size shows using fun n => pages (asked n).1 (asked n).2 (admitted n)
  have cut : Page.Pages (fun n token => Page.ofList items token (size n)) items :=
    fun n => ⟨size n, fun _ _ page => page⟩
  exact walk_of_walk ((Page.walk_iff cut fits).mpr rfl) shows

structure Mirrors {α : Type} [Keyed α] (r : Region) (kind : ResourceKind) (store : Registry α)
    (shown : α → Json) : Prop where
  idOf : ∀ a, kind.access.idOf (shown a) = some (Keyed.key a)
  found : ∀ at_, ∀ a ∈ store.records, ∃ j,
    r.serve at_ kind.service kind.access.readAction (kind.access.readBag (Keyed.key a)) =
        .ok (j, r) ∧
      kind.access.found j = some (shown a)
  missing : ∀ at_ id, store.get? id = none → ∃ e,
    r.serve at_ kind.service kind.access.readAction (kind.access.readBag id) = .error e

theorem Mirrors.shows {α : Type} [Keyed α] {store : Registry α} {shown : α → Json}
    (h : Mirrors r kind store shown) (ordered : ∀ ids, kind.arranged ids = ids)
    (walks : ∀ asked, Admitted kind asked → Walk r kind asked none (store.records.map shown)) :
    Shows r kind store.keys (store.records.map shown) where
  listed := by
    intro asked admitted xs
    refine ⟨fun walk => walk.unique (walks asked admitted), ?_⟩
    rintro rfl
    exact walks asked admitted
  named := by
    rw [ordered, Registry.keys, List.map_map, List.map_map]
    exact List.map_congr_left fun a _ => h.idOf a
  known := by
    intro at_ id known
    obtain ⟨a, ha, rfl⟩ := List.mem_map.mp known
    obtain ⟨j, served, found⟩ := h.found at_ a ha
    exact ⟨j, shown a, served, List.mem_map_of_mem ha, h.idOf a, found⟩
  unknown := by
    intro at_ id unknown
    apply h.missing
    rw [Registry.get?_eq_none_iff, ← Bool.not_eq_true, Registry.contains_iff]
    exact unknown

end Region

end ControlPlane
