import ControlPlane.Proofs.Region.Renewal
import ControlPlane.Provider

/-!
A provider is its regions. Each pair of an account and a region's name that is configured stands for
one region, and what happens there is what would happen if there were no other: the steps that are
addressed to the pair, in their order, are its whole history.
-/

namespace ControlPlane

namespace Catalogue

theorem mem_partitions_of_regions? {partition : String} {names : List String}
    (h : regions? partition = some names) : partition ∈ partitions := by
  unfold regions? at h
  split at h
  · decide
  · decide
  · decide
  · cases h

theorem partitionOf?_of_mem :
    ∀ p ∈ partitions, ∀ region ∈ (regions? p).getD [], partitionOf? region = some p := by
  decide +kernel

theorem partitionOf?_eq_some_iff {region partition : String} :
    partitionOf? region = some partition ↔
      ∃ names, regions? partition = some names ∧ region ∈ names := by
  refine ⟨fun h => ?_, fun ⟨names, known, within⟩ => ?_⟩
  · have within := List.find?_some h
    rw [Option.any_eq_true] at within
    obtain ⟨names, known, within⟩ := within
    exact ⟨names, known, List.contains_iff_mem.mp within⟩
  · refine partitionOf?_of_mem partition (mem_partitions_of_regions? known) region ?_
    rw [known]
    exact within

end Catalogue

def Configuration.Serves (c : Configuration) (scope : Scope) : Prop :=
  scope.account ∈ c.accounts ∧ scope.partition ∈ c.partitions ∧
    Catalogue.partitionOf? scope.region = some scope.partition

instance (c : Configuration) (scope : Scope) : Decidable (c.Serves scope) :=
  inferInstanceAs (Decidable (_ ∧ _ ∧ _))

namespace Provider

variable {c : Configuration} {s s' : Provider} {account name : String}

def at? (s : Provider) (account name : String) : Option Region :=
  s.regions.find? (isAt account name)

theorem isAt_iff {r : Region} :
    isAt account name r = true ↔ r.scope.account = account ∧ r.scope.region = name := by
  rw [isAt, Bool.and_eq_true, beq_iff_eq, beq_iff_eq]

theorem isAt_congr {r r' : Region} (h : isAt r.scope.account r.scope.region r' = true) :
    isAt account name r = isAt account name r' := by
  obtain ⟨accounts, names⟩ := isAt_iff.mp h
  rw [isAt, isAt, accounts, names]

theorem find?_map {f : Region → Region} (keeps : ∀ r, isAt account name (f r) = isAt account name r)
    (regions : List Region) :
    (regions.map f).find? (isAt account name) = (regions.find? (isAt account name)).map f := by
  rw [List.find?_map]
  congr 2
  funext r
  exact keeps r

theorem find?_replace (regions : List Region) (r : Region) :
    (regions.map fun r' => if isAt r.scope.account r.scope.region r' then r else r').find?
        (isAt account name) =
      (regions.find? (isAt account name)).map fun r' => if isAt account name r then r else r' := by
  rw [find?_map]
  · cases found : regions.find? (isAt account name) with
    | none => rfl
    | some r' =>
      have place := isAt_iff.mp (List.find?_some found)
      have same : isAt r.scope.account r.scope.region r' = isAt account name r := by
        rw [Bool.eq_iff_iff, isAt_iff, isAt_iff, place.1, place.2, eq_comm, eq_comm (a := name)]
      simp only [Option.map_some, same]
  · intro r'
    split
    · rename_i same
      exact isAt_congr same
    · rfl

/-- What is inserted is found at its place, and all else where it was. -/
theorem find?_insert (regions : List Region) (r : Region) :
    (insert regions r).find? (isAt account name) =
      if isAt account name r then some r else regions.find? (isAt account name) := by
  rw [insert]
  split
  · rename_i known
    rw [find?_replace]
    by_cases here : isAt account name r = true
    · obtain ⟨rfl, rfl⟩ := isAt_iff.mp here
      rw [List.any_eq_true, ← List.find?_isSome, Option.isSome_iff_exists] at known
      obtain ⟨r', found⟩ := known
      rw [found, if_pos here, Option.map_some, if_pos here]
    · simp only [here, Bool.false_eq_true, if_false, Option.map_id_fun', id]
  · rename_i absent
    rw [List.find?_append]
    by_cases here : isAt account name r = true
    · obtain ⟨rfl, rfl⟩ := isAt_iff.mp here
      rw [List.any_eq_true, ← List.find?_isSome, Option.not_isSome_iff_eq_none] at absent
      rw [absent, if_pos here, Option.none_or, List.find?_singleton, if_pos here]
    · rw [if_neg here, List.find?_singleton, if_neg here, Option.or_none]

theorem find?_inserted_of_not_mem {added : List Region} (regions : List Region)
    (absent : ∀ r ∈ added, ¬isAt account name r = true) :
    (added.foldl insert regions).find? (isAt account name) =
      regions.find? (isAt account name) := by
  induction added generalizing regions with
  | nil => rfl
  | cons r rest ih =>
    rw [List.foldl_cons, ih _ fun q hq => absent q (List.mem_cons_of_mem r hq), find?_insert,
      if_neg (absent r List.mem_cons_self)]

theorem find?_inserted_of_mem {added : List Region} {r : Region} (regions : List Region)
    (member : r ∈ added) (here : isAt account name r = true)
    (alone : ∀ q ∈ added, isAt account name q = true → q = r) :
    (added.foldl insert regions).find? (isAt account name) = some r := by
  induction added generalizing regions with
  | nil => cases member
  | cons q rest ih =>
    rw [List.foldl_cons]
    have others : ∀ p ∈ rest, isAt account name p = true → p = r := fun p hp =>
      alone p (List.mem_cons_of_mem q hp)
    by_cases again : r ∈ rest
    · exact ih _ again others
    · have first : r = q := (List.mem_cons.mp member).resolve_right again
      subst first
      rw [find?_inserted_of_not_mem, find?_insert, if_pos here]
      exact fun p hp same => again (others p hp same ▸ hp)

theorem mem_scopes_iff {scope : Scope} : scope ∈ scopes c ↔ c.Serves scope := by
  obtain ⟨account, region, partition⟩ := scope
  simp only [scopes, List.mem_flatMap, List.mem_map, Scope.mk.injEq, Configuration.Serves,
    Catalogue.partitionOf?_eq_some_iff]
  refine ⟨?_, ?_⟩
  · rintro ⟨_, ha, p, hp, region, hr, rfl, rfl, rfl⟩
    refine ⟨ha, hp, ?_⟩
    cases known : Catalogue.regions? p with
    | none =>
      rw [known] at hr
      cases hr
    | some names =>
      rw [known] at hr
      exact ⟨names, rfl, hr⟩
  · rintro ⟨ha, hp, names, known, hr⟩
    refine ⟨account, ha, partition, hp, region, ?_, rfl, rfl, rfl⟩
    rw [known]
    exact hr

theorem eq_of_serves {scope scope' : Scope} (h : c.Serves scope) (h' : c.Serves scope')
    (account : scope.account = scope'.account) (region : scope.region = scope'.region) :
    scope = scope' := by
  obtain ⟨a, n, p⟩ := scope
  obtain ⟨a', n', p'⟩ := scope'
  cases account
  cases region
  have partition := h.2.2.symm.trans h'.2.2
  cases partition
  rfl

/-- At the beginning each pair that is configured stands for a new region, whatever is repeated in
the configuration. -/
theorem at?_start_of_serves (started : start c = .ok s) {scope : Scope} (h : c.Serves scope) :
    s.at? scope.account scope.region = some (Region.new scope c.quotas) := by
  obtain ⟨-, -, rfl⟩ := map_eq_ok_iff.mp started
  refine find?_inserted_of_mem [] (List.mem_map.mpr ⟨scope, mem_scopes_iff.mpr h, rfl⟩)
    (isAt_iff.mpr ⟨rfl, rfl⟩) ?_
  intro q hq same
  obtain ⟨scope', hs, rfl⟩ := List.mem_map.mp hq
  obtain ⟨account, region⟩ := isAt_iff.mp same
  rw [eq_of_serves (mem_scopes_iff.mp hs) h account region]

theorem at?_start_of_not_serves (started : start c = .ok s)
    (h : ∀ partition, ¬c.Serves ⟨account, name, partition⟩) : s.at? account name = none := by
  obtain ⟨-, -, rfl⟩ := map_eq_ok_iff.mp started
  refine find?_inserted_of_not_mem [] ?_
  intro q hq same
  obtain ⟨scope, hs, rfl⟩ := List.mem_map.mp hq
  obtain ⟨rfl, rfl⟩ := isAt_iff.mp same
  exact h _ (mem_scopes_iff.mp hs)

/-- What a step is for the region of one pair, if it is addressed to it. A reset is for the region
of that name in every account. -/
def Step.at? (account name : String) : Step → Option Region.Step
  | .request a n at_ service action bag =>
    if a = account ∧ n = name then some (.request at_ service action bag) else none
  | .reset n service => if n = name then some (.reset service) else none
  | .restart => some .restart

theorem at?_put (s : Provider) (r : Region) :
    (s.put r).at? account name = if isAt account name r then some r else s.at? account name :=
  find?_insert s.regions r

theorem map_at?_eq {f : Region → Region} {a n : String} (kept : ∀ r, s.at? a n = some r → f r = r) :
    (s.at? account name).map (fun r => if a = account ∧ n = name then f r else r) =
      s.at? account name := by
  by_cases here : a = account ∧ n = name
  · obtain ⟨rfl, rfl⟩ := here
    cases found : s.at? a n with
    | none => rfl
    | some r => rw [Option.map_some, if_pos ⟨rfl, rfl⟩, kept r found]
  · simp only [if_neg here, Option.map_id_fun', id]

theorem at?_request (s : Provider) (a n : String) (at_ : Moment) (service : ServiceName)
    (action : String) (bag : Json) :
    (s.after (.request a n at_ service action bag)).at? account name =
      (s.at? account name).map fun r =>
        if a = account ∧ n = name then r.after (.request at_ service action bag) else r := by
  rw [after, serve, region]
  cases found : s.regions.find? (isAt a n) with
  | none =>
    have absent : ∀ r, s.at? a n ≠ some r := fun r same => nomatch found.symm.trans same
    exact (map_at?_eq fun r same => absurd same (absent r)).symm
  | some r =>
    have place := isAt_iff.mp (List.find?_some found)
    simp only [Except.map]
    cases served : r.serve at_ service action bag with
    | error e =>
      refine (map_at?_eq fun q same => ?_).symm
      cases found.symm.trans same
      rw [Region.after, served]
    | ok answered =>
      obtain ⟨j, r'⟩ := answered
      have next : r.after (.request at_ service action bag) = r' := by rw [Region.after, served]
      have scope := (Region.change_of_serve served).scope_eq
      have there : isAt account name r' = true ↔ a = account ∧ n = name := by
        rw [isAt_iff, scope, place.1, place.2]
      rw [at?_put]
      by_cases here : a = account ∧ n = name
      · rw [if_pos (there.mpr here)]
        obtain ⟨rfl, rfl⟩ := here
        rw [at?, found, Option.map_some, if_pos ⟨rfl, rfl⟩, next]
      · rw [if_neg (mt there.mp here)]
        simp only [if_neg here, Option.map_id_fun', id]

theorem at?_reset (s : Provider) (n : String) (service : ServiceName) :
    (s.after (.reset n service)).at? account name =
      (s.at? account name).map fun r => if r.scope.region = n then r.reset service else r := by
  rw [after, reset]
  by_cases known : s.regions.any (fun r => r.scope.region == n) = true
  · rw [if_pos known]
    refine find?_map (fun r => ?_) s.regions
    split
    · cases service <;> rfl
    · rfl
  · rw [if_neg known]
    change s.at? account name = _
    cases found : s.at? account name with
    | none => rfl
    | some r =>
      have other : r.scope.region ≠ n := fun same =>
        known (List.any_eq_true.mpr ⟨r, List.mem_of_find?_eq_some found, beq_iff_eq.mpr same⟩)
      rw [Option.map_some, if_neg other]

/-- A step does to the region of a pair what it is for that region, and no step adds a region or
takes one away. -/
theorem at?_after (s : Provider) (account name : String) (step : Step) :
    (s.after step).at? account name =
      (s.at? account name).map fun r =>
        match step.at? account name with
        | some own => r.after own
        | none => r := by
  cases step with
  | request a n at_ service action bag =>
    rw [at?_request, Step.at?]
    split <;> rfl
  | reset n service =>
    rw [at?_reset, Step.at?]
    cases found : s.at? account name with
    | none => rfl
    | some r =>
      have place := (isAt_iff.mp (List.find?_some found)).2
      simp only [Option.map_some, place, eq_comm (a := n)]
      split <;> rfl
  | restart =>
    refine find?_map (fun r => ?_) s.regions
    rfl

def run (s : Provider) (steps : List Step) : Provider := steps.foldl after s

/-- The steps that are addressed to a pair, as steps of its region. -/
def own (account name : String) (steps : List Step) : List Region.Step :=
  steps.filterMap (Step.at? account name)

theorem at?_run (s : Provider) (account name : String) (steps : List Step) :
    (s.run steps).at? account name =
      (s.at? account name).map ((own account name steps).foldl Region.after) := by
  induction steps generalizing s with
  | nil => exact Option.map_id'.symm
  | cons step rest ih =>
    rw [run, List.foldl_cons, ← run, ih, at?_after, Option.map_map, own, own]
    cases addressed : step.at? account name with
    | none =>
      rw [List.filterMap_cons_none addressed]
      rfl
    | some mine =>
      rw [List.filterMap_cons_some addressed]
      rfl

/-- What is answered to a step. A reset is answered without a value. -/
def reply (s : Provider) : Step → Except UnknownRegion (Option (Except ServiceError Json))
  | .request account region at_ service action bag =>
    (s.serve account region at_ service action bag).map fun answered => some answered.1
  | .reset region service => (s.reset region service).map fun _ => none
  | .restart => .ok none

def repliesAt (account name : String) (s : Provider) :
    List Step → List (Except UnknownRegion (Option (Except ServiceError Json)))
  | [] => []
  | step :: rest =>
    if (step.at? account name).isSome then
      s.reply step :: (s.after step).repliesAt account name rest
    else (s.after step).repliesAt account name rest

theorem reply_eq {r : Region} (here : s.at? account name = some r) {step : Step}
    {mine : Region.Step} (addressed : step.at? account name = some mine) :
    s.reply step = .ok (r.reply mine) := by
  cases step with
  | request a n at_ service action bag =>
    obtain ⟨⟨rfl, rfl⟩, same⟩ := Option.ite_none_right_eq_some.mp addressed
    cases same
    have found : s.regions.find? (isAt a n) = some r := here
    rw [reply, serve, region, found, Region.reply]
    simp only [Except.map]
    cases r.serve at_ service action bag <;> rfl
  | reset n service =>
    obtain ⟨rfl, same⟩ := Option.ite_none_right_eq_some.mp addressed
    cases same
    have place := (isAt_iff.mp (List.find?_some here)).2
    have known : s.regions.any (fun q => q.scope.region == n) = true :=
      List.any_eq_true.mpr ⟨r, List.mem_of_find?_eq_some here, beq_iff_eq.mpr place⟩
    rw [reply, reset, if_pos known]
    rfl
  | restart =>
    cases addressed
    rfl

theorem repliesAt_eq {r : Region} (here : s.at? account name = some r) (steps : List Step) :
    s.repliesAt account name steps = (r.replies (own account name steps)).map .ok := by
  induction steps generalizing s r with
  | nil => rfl
  | cons step rest ih =>
    have next := at?_after s account name step
    rw [here, Option.map_some] at next
    rw [repliesAt, own]
    cases addressed : step.at? account name with
    | none =>
      simp only [addressed] at next
      rw [List.filterMap_cons_none addressed, ih next]
      rfl
    | some mine =>
      simp only [addressed] at next
      rw [List.filterMap_cons_some addressed, ih next, reply_eq here addressed]
      rfl

/-- What holds of a provider of a configuration after some steps: each pair that is configured has
gone its own way and has answered on its own, also after resets, and there is nothing else. -/
structure Isolated (c : Configuration) (s : Provider) (steps : List Step) : Prop where
  region : ∀ scope, c.Serves scope → (s.run steps).region scope.account scope.region =
    .ok (Region.run scope c.quotas (own scope.account scope.region steps))
  replies : ∀ scope, c.Serves scope → s.repliesAt scope.account scope.region steps =
    ((Region.new scope c.quotas).replies (own scope.account scope.region steps)).map .ok
  renewed : ∀ scope, c.Serves scope → ∀ service,
    (Region.run scope c.quotas (own scope.account scope.region steps)).Renewed service
  elsewhere : ∀ account name, (∀ partition, ¬c.Serves ⟨account, name, partition⟩) →
    (s.run steps).region account name = .error ⟨account, name⟩

def repeated : Configuration := ⟨["first", "second", "first"], ["aws-cn", "aws-cn"], 32, .standard⟩

def interleaved : List Step :=
  [.request "first" "cn-north-1" ⟨default, [5]⟩ .network "CreateVpc"
      (.obj [("CidrBlock", .str "10.0.0.0/16")]),
    .request "second" "cn-north-1" ⟨default, [5]⟩ .network "DescribeVpcs" (.obj []),
    .reset "cn-north-1" .network,
    .request "first" "cn-north-1" ⟨default, []⟩ .network "DescribeVpcs" (.obj []),
    .restart]

end Provider

end ControlPlane
