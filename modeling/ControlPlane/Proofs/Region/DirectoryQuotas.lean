import ControlPlane.Proofs.Directory.Tally
import ControlPlane.Proofs.Region.Run

/-!
The quotas of directories along a history. After every history the register counts what the requests
and their answers tell: of each type, the directories that were created and not deleted since the
service was last reset. The report of the limits shows these counts, and it says that a limit is
reached if and only if the next directory of that type is refused for it.
-/

namespace ControlPlane.Region

variable {scope : Scope} {quotas : Quotas} {r r' : Region} {t : Tally}

def Step.creates : Step → Option DirectoryType
  | .request _ _ action _ => DirectoryType.createdBy action
  | .reset _ => none
  | .restart => none

/-- The tally after some steps, by what was asked and answered. -/
def tally (scope : Scope) (quotas : Quotas) (steps : List Step) : Tally :=
  ((steps.map Step.creates).zip (notes .directory (new scope quotas) steps)).foldl
    (fun t (type?, note) => t.next type? note) .zero

theorem length_notes (kind : ResourceKind) (r : Region) (steps : List Step) :
    (notes kind r steps).length = steps.length := by
  induction steps generalizing r with
  | nil => rfl
  | cons step rest ih => rw [notes, List.length_cons, List.length_cons, ih]

theorem tally_concat (scope : Scope) (quotas : Quotas) (steps : List Step) (step : Step) :
    tally scope quotas (steps ++ [step]) =
      (tally scope quotas steps).next step.creates
        ((run scope quotas steps).note .directory step) := by
  have lengths : (steps.map Step.creates).length =
      (notes .directory (new scope quotas) steps).length := by
    rw [List.length_map, length_notes]
  rw [tally, tally, notes_concat, List.map_append, List.zip_append lengths, List.foldl_append]
  rfl

theorem directory_of_serve {at_ : Moment} {service : ServiceName} {action : String} {bag j : Json}
    (h : r.serve at_ service action bag = .ok (j, r')) (other : service ≠ .directory) :
    r'.directory = r.directory := by
  cases service with
  | directory => exact absurd rfl other
  | _ =>
    obtain ⟨_, -, same⟩ := map_eq_ok_iff.mp h
    cases same
    rfl

theorem exists_of_serve_directory {at_ : Moment} {action : String} {bag j : Json}
    (h : r.serve at_ .directory action bag = .ok (j, r')) :
    ∃ op input output, DirectoryService.operations action = some op ∧
      .ok (output, r'.directory) ∈
        (op.run r.directory at_ input).outcomes {r.network.view} ∧ j = op.output.encode output := by
  obtain ⟨⟨_, s⟩, served, same⟩ := map_eq_ok_iff.mp h
  cases same
  obtain ⟨op, input, output, hop, -, hr, told⟩ :=
    Catalog.exists_of_mem_outcomes_serve (Lookup.mem_outcomes_singleton_iff.mpr served.symm)
  exact ⟨op, input, output, hop, hr, told⟩

theorem agrees_of_serve {at_ : Moment} {action : String} {bag j : Json}
    (h : r.serve at_ .directory action bag = .ok (j, r')) (agrees : t.Agrees r.directory) :
    (t.next (DirectoryType.createdBy action)
      (ResourceKind.directory.note action bag j)).Agrees r'.directory := by
  obtain ⟨op, input, output, hop, hr, rfl⟩ := exists_of_serve_directory h
  exact DirectoryService.agrees_of_run hop hr bag agrees

theorem exists_came_of_serve {at_ : Moment} {action : String} {bag j : Json} {type : DirectoryType}
    (creates : DirectoryType.createdBy action = some type)
    (h : r.serve at_ .directory action bag = .ok (j, r')) :
    ∃ id, ResourceKind.directory.note action bag j = .came id := by
  obtain ⟨op, input, output, hop, -, rfl⟩ := exists_of_serve_directory h
  exact DirectoryService.exists_came creates output hop bag

theorem exists_went_of_serve {at_ : Moment} {bag j : Json}
    (h : r.serve at_ .directory "DeleteDirectory" bag = .ok (j, r'))
    (agrees : t.Agrees r.directory) :
    ∃ id type, ResourceKind.directory.note "DeleteDirectory" bag j = .went id ∧
      t.types id = some type := by
  obtain ⟨op, input, output, hop, hr, rfl⟩ := exists_of_serve_directory h
  cases hop
  exact DirectoryService.exists_went hr.symm agrees bag

theorem agrees_after (step : Step) (agrees : t.Agrees r.directory) :
    (t.next step.creates (r.note .directory step)).Agrees (r.after step).directory := by
  cases step with
  | request at_ service action bag =>
    simp only [after, note, Step.creates]
    cases served : r.serve at_ service action bag with
    | error e =>
      simp only [ite_self]
      exact agrees
    | ok result =>
      by_cases own : service = .directory
      · subst own
        exact agrees_of_serve served agrees
      · have other : service ≠ ResourceKind.directory.service := own
        simp only [if_neg other]
        rw [directory_of_serve served own]
        exact agrees
  | reset service =>
    cases service with
    | directory => exact Tally.agrees_zero r.scope r.quotas.directory
    | _ => exact agrees
  | restart => exact Tally.agrees_zero r.scope r.quotas.directory

theorem tally_agrees (scope : Scope) (quotas : Quotas) (steps : List Step) :
    (tally scope quotas steps).Agrees (run scope quotas steps).directory := by
  induction steps using List.reverseRecOn with
  | nil => exact Tally.agrees_zero scope quotas.directory
  | append_singleton steps step ih =>
    rw [tally_concat, run_concat]
    exact agrees_after step ih

structure KeepsQuotas (r : Region) : Prop where
  own : r.directory.quotas = r.quotas.directory
  within : r.directory.WithinQuota

theorem Change.keepsQuotas (h : Change r r') (keeps : r.KeepsQuotas) : r'.KeepsQuotas := by
  rcases h.directory_change with change | empty
  · refine ⟨?_, change.withinQuota keeps.within⟩
    rw [change.quotas_eq, h.quotas_eq]
    exact keeps.own
  · refine ⟨?_, ?_⟩
    · rw [empty, h.quotas_eq]
      rfl
    · rw [empty]
      exact DirectoryService.withinQuota_empty r.scope r.quotas.directory

theorem keepsQuotas_run (scope : Scope) (quotas : Quotas) (steps : List Step) :
    (run scope quotas steps).KeepsQuotas :=
  run_induction ⟨rfl, DirectoryService.withinQuota_empty scope quotas.directory⟩
    (fun _ _ change keeps => change.keepsQuotas keeps) steps

theorem directory_quotas_run (scope : Scope) (quotas : Quotas) (steps : List Step) :
    (run scope quotas steps).directory.quotas = quotas.directory := by
  rw [(keepsQuotas_run scope quotas steps).own, run_quotas]

theorem usage_run (scope : Scope) (quotas : Quotas) (steps : List Step) (type : DirectoryType) :
    (run scope quotas steps).directory.usage type =
      (tally scope quotas steps).usage quotas.directory type := by
  rw [(tally_agrees scope quotas steps).usage_eq type, directory_quotas_run]

theorem serve_limits (r : Region) (at_ : Moment) (bag : Json) :
    r.serve at_ .directory "GetDirectoryLimits" bag =
      .ok (limitsReport r.directory.usage, r) := by
  rw [serve, DirectoryService.serve_limits]
  rfl

section Creation

variable {at_ : Moment} {action : String} {bag : Json} {type : DirectoryType}

theorem serve_of_reached (creates : DirectoryType.createdBy action = some type)
    (passes : DirectoryService.Passes r.network.view action bag)
    (reached : (r.directory.usage type).reached = true) :
    r.serve at_ .directory action bag =
      .error (.ofFault (DirectoryFault.directoryLimit (r.directory.usage type).limit)) := by
  rw [serve, DirectoryService.serve_of_full at_ creates passes (of_decide_eq_true reached)]
  rfl

theorem code_of_unreached (creates : DirectoryType.createdBy action = some type)
    (passes : DirectoryService.Passes r.network.view action bag)
    (unreached : (r.directory.usage type).reached = false) {e : ServiceError}
    (failed : r.serve at_ .directory action bag = .error e) :
    e.code ≠ "DirectoryLimitExceededException" :=
  DirectoryService.code_of_room at_ creates passes (Nat.not_le.mp (of_decide_eq_false unreached))
    (map_eq_error_iff.mp failed)

end Creation

/-- What the quotas of directories mean in a region with a tally. -/
structure QuotasExact (quotas : DirectoryQuotas) (r : Region) (t : Tally) : Prop where
  counted : ∀ type, r.directory.count type + t.deleted type = t.created type
  -- the tally misses no creation and no deletion that succeeds
  created : ∀ at_ action bag type j r', DirectoryType.createdBy action = some type →
    r.serve at_ .directory action bag = .ok (j, r') →
      ∃ id, ResourceKind.directory.note action bag j = .came id
  deleted : ∀ at_ bag j r', r.serve at_ .directory "DeleteDirectory" bag = .ok (j, r') →
    ∃ id type, ResourceKind.directory.note "DeleteDirectory" bag j = .went id ∧
      t.types id = some type
  within : ∀ type, t.current type ≤ quotas.limit type
  reported : ∀ at_ bag, r.serve at_ .directory "GetDirectoryLimits" bag =
    .ok (limitsReport (t.usage quotas), r)
  -- the report is right about every request that gets as far as the quota
  refused_iff : ∀ at_ action bag type, DirectoryType.createdBy action = some type →
    DirectoryService.Passes r.network.view action bag →
      ((t.usage quotas type).reached = true ↔ r.serve at_ .directory action bag =
        .error (.ofFault (DirectoryFault.directoryLimit (quotas.limit type))))
  admitted : ∀ at_ action bag type, DirectoryType.createdBy action = some type →
    DirectoryService.Passes r.network.view action bag → (t.usage quotas type).reached = false →
      ∀ e, r.serve at_ .directory action bag = .error e →
        e.code ≠ "DirectoryLimitExceededException"
  -- two histories that agree on the type agree on all that is said of it
  alone : ∀ scope' quotas' steps' type, quotas'.directory.limit type = quotas.limit type →
    (tally scope' quotas' steps').current type = t.current type →
      (run scope' quotas' steps').directory.usage type = r.directory.usage type

theorem directory_quotas_exact (scope : Scope) (quotas : Quotas) (steps : List Step) :
    QuotasExact quotas.directory (run scope quotas steps) (tally scope quotas steps) where
  counted := (tally_agrees scope quotas steps).balance
  created := fun _ _ _ _ _ _ creates served => exists_came_of_serve creates served
  deleted := fun _ _ _ _ served => exists_went_of_serve served (tally_agrees scope quotas steps)
  within := by
    intro type
    have within := (keepsQuotas_run scope quotas steps).within type
    rw [(tally_agrees scope quotas steps).count_eq type, directory_quotas_run] at within
    exact within
  reported := by
    intro at_ bag
    rw [serve_limits, funext (usage_run scope quotas steps)]
  refused_iff := by
    intro at_ action bag type creates passes
    rw [← usage_run]
    refine ⟨fun reached => ?_, fun answered => ?_⟩
    · rw [serve_of_reached creates passes reached, usage_run]
      rfl
    · by_contra unreached
      exact code_of_unreached creates passes (Bool.eq_false_iff.mpr unreached) answered rfl
  admitted := by
    intro at_ action bag type creates passes unreached e failed
    rw [← usage_run] at unreached
    exact code_of_unreached creates passes unreached failed
  alone := by
    intro scope' quotas' steps' type limits currents
    rw [usage_run, usage_run, Tally.usage, Tally.usage, limits, currents]

end ControlPlane.Region
