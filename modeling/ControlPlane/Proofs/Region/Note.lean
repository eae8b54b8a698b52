import ControlPlane.Proofs.Json.Member
import ControlPlane.Region
import Mathlib.Data.List.Induction

/-!
What the requests to a region and the answers to them tell of its resources. Nothing here looks at
the state: a creation that succeeds tells the id that it gave out or was given, a deletion that
succeeds tells the id of what went, and all that a service had is gone when it is reset. The notes
of a history, taken together, say which resources there are and in which order they came.
-/

namespace ControlPlane

inductive ResourceKind where
  | vpc
  | subnet
  | securityGroup
  | directory
  | endpoint
  | rule
  | association
  | stream
  | profile
  deriving Repr, DecidableEq

inductive Note where
  | came (id : String)
  | put (id : String)
  | went (id : String)
  | cleared
  | nothing
  deriving Repr, DecidableEq

namespace Note

/-- The ids after a note. What is put and was there keeps its place. -/
def apply (ids : List String) : Note → List String
  | came id => ids ++ [id]
  | put id => if id ∈ ids then ids else ids ++ [id]
  | went id => ids.filter (· != id)
  | cleared => []
  | nothing => ids

/-- The ids of what is there after some notes, in the order in which they came. -/
def live (notes : List Note) : List String := notes.foldl apply []

theorem length_apply_le (ids : List String) (n : Note) : (apply ids n).length ≤ ids.length + 1 := by
  cases n with
  | came id => exact Nat.le_of_eq List.length_append
  | put id =>
    rw [apply]
    split
    · exact Nat.le_succ _
    · exact Nat.le_of_eq List.length_append
  | went id => exact Nat.le_succ_of_le (List.length_filter_le _ _)
  | cleared => exact Nat.zero_le _
  | nothing => exact Nat.le_succ _

def told (tell : String → Note) : Option String → Note
  | some id => tell id
  | none => nothing

def Ends (id : String) (n : Note) : Prop := n = went id ∨ n = cleared

def Begins (id : String) (n : Note) : Prop := n = came id ∨ n = put id

theorem live_concat (notes : List Note) (n : Note) : live (notes ++ [n]) = apply (live notes) n := by
  rw [live, live, List.foldl_append, List.foldl_cons, List.foldl_nil]

theorem mem_apply_iff {ids : List String} {n : Note} {id : String} :
    id ∈ apply ids n ↔ Begins id n ∨ (id ∈ ids ∧ ¬Ends id n) := by
  have last : ∀ other, id ∈ ids ++ [other] ↔ other = id ∨ id ∈ ids := by
    intro other
    rw [List.mem_append, List.mem_singleton, or_comm, eq_comm]
  cases n with
  | came other => simp [apply, Begins, Ends, last]
  | put other =>
    rw [apply]
    split
    · rename_i known
      simp only [Begins, Ends, reduceCtorEq, put.injEq, false_or, or_false, not_false_eq_true,
        and_true]
      exact ⟨Or.inr, fun h => h.elim (fun same => same ▸ known) fun old => old⟩
    · simp [Begins, Ends, last]
  | went other =>
    rw [apply, List.mem_filter, bne_iff_ne]
    simp only [Begins, Ends, reduceCtorEq, went.injEq, false_or, or_false]
    exact ⟨fun h => ⟨h.1, Ne.symm h.2⟩, fun h => ⟨h.1, Ne.symm h.2⟩⟩
  | cleared => simp [apply, Begins, Ends]
  | nothing => simp [apply, Begins, Ends]

/-- Some note tells that the id was given out, and none after it that it has gone. -/
def Stands (id : String) (notes : List Note) : Prop :=
  ∃ before n after, notes = before ++ n :: after ∧ Begins id n ∧ ∀ m ∈ after, ¬Ends id m

theorem mem_live_iff {notes : List Note} {id : String} : id ∈ live notes ↔ Stands id notes := by
  induction notes using List.reverseRecOn with
  | nil => simp [live, Stands]
  | append_singleton notes n ih =>
    rw [live_concat, mem_apply_iff, ih]
    refine ⟨?_, ?_⟩
    · rintro (begins | ⟨⟨before, m, after, rfl, begins, kept⟩, stays⟩)
      · exact ⟨notes, n, [], rfl, begins, fun _ hm => nomatch hm⟩
      · refine ⟨before, m, after ++ [n], by simp, begins, ?_⟩
        intro k hk
        rcases List.mem_append.mp hk with hk | hk
        · exact kept k hk
        · rw [List.mem_singleton.mp hk]
          exact stays
    · rintro ⟨before, m, after, same, begins, kept⟩
      -- The creation is the last note, or it is one of those before.
      rcases List.eq_nil_or_concat after with rfl | ⟨after, last, rfl⟩
      · obtain ⟨-, last⟩ := List.append_inj' same rfl
        cases last
        exact Or.inl begins
      · rw [List.concat_eq_append, ← List.cons_append, ← List.append_assoc] at same
        rw [List.concat_eq_append] at kept
        obtain ⟨rfl, last⟩ := List.append_inj' same rfl
        cases last
        refine Or.inr ⟨⟨before, m, after, rfl, begins, ?_⟩, ?_⟩
        · exact fun k hk => kept k (List.mem_append_left _ hk)
        · exact kept n (List.mem_append_right _ (List.mem_singleton_self n))

end Note

namespace ResourceKind

def service : ResourceKind → ServiceName
  | vpc | subnet | securityGroup => .network
  | directory => .directory
  | endpoint | rule | association => .resolver
  | stream => .delivery
  | profile => .signing

def creations : ResourceKind → List String
  | vpc => ["CreateVpc"]
  | subnet => ["CreateSubnet"]
  | securityGroup => ["CreateSecurityGroup"]
  | directory => ["CreateDirectory", "CreateMicrosoftAD", "ConnectDirectory"]
  | endpoint => ["CreateResolverEndpoint"]
  | rule => ["CreateResolverRule"]
  | association => ["AssociateResolverRule"]
  | stream => ["CreateDeliveryStream"]
  | profile => ["PutSigningProfile"]

/-- The operations that delete one. A profile is canceled, never deleted. -/
def deletions : ResourceKind → List String
  | vpc => ["DeleteVpc"]
  | subnet => ["DeleteSubnet"]
  | securityGroup => ["DeleteSecurityGroup"]
  | directory => ["DeleteDirectory"]
  | endpoint => ["DeleteResolverEndpoint"]
  | rule => ["DeleteResolverRule"]
  | association => ["DisassociateResolverRule"]
  | stream => ["DeleteDeliveryStream"]
  | profile => []

def asked {α : Type} (c : Codec α) (id : α → String) (bag : Json) : Option String :=
  match c.decodeBag bag with
  | .ok input => some (id input)
  | .error _ => none

theorem asked_eq {α : Type} {c : Codec α} {bag : Json} {input : α}
    (h : c.decodeBag bag = .ok input) (id : α → String) : asked c id bag = some (id input) := by
  rw [asked, h]

/-- The id of what was created: the answer shows it, except where the request chooses a name. -/
def createdId (kind : ResourceKind) (bag answer : Json) : Option String :=
  match kind with
  | vpc => answer.textAt? ["Vpc", "VpcId"]
  | subnet => answer.textAt? ["Subnet", "SubnetId"]
  | securityGroup => answer.textAt? ["GroupId"]
  | directory => answer.textAt? ["DirectoryId"]
  | endpoint => answer.textAt? ["ResolverEndpoint", "Id"]
  | rule => answer.textAt? ["ResolverRule", "Id"]
  | association => answer.textAt? ["ResolverRuleAssociation", "Id"]
  | stream => asked CreateStream.record.codec CreateStream.name bag
  | profile => asked PutProfile.record.codec PutProfile.name bag

def deletedId (kind : ResourceKind) (bag answer : Json) : Option String :=
  match kind with
  | vpc => asked (.single "VpcId" .text) id bag
  | subnet => asked (.single "SubnetId" .text) id bag
  | securityGroup => asked (.single "GroupId" .text) id bag
  | directory => answer.textAt? ["DirectoryId"]
  | endpoint => answer.textAt? ["ResolverEndpoint", "Id"]
  | rule => answer.textAt? ["ResolverRule", "Id"]
  | association => answer.textAt? ["ResolverRuleAssociation", "Id"]
  | stream => asked (.single "DeliveryStreamName" .text) id bag
  | profile => none

/-- The bag that asks to delete what an answered request has created. An association is asked for by
its rule and its cloud, which the answer shows beside its id. -/
def deletionBag? (kind : ResourceKind) (bag answer : Json) : Option Json :=
  match kind with
  | vpc => named "VpcId"
  | subnet => named "SubnetId"
  | securityGroup => named "GroupId"
  | directory => named "DirectoryId"
  | endpoint => named "ResolverEndpointId"
  | rule => named "ResolverRuleId"
  | association => do
    let rule ← answer.textAt? ["ResolverRuleAssociation", "ResolverRuleId"]
    let vpc ← answer.textAt? ["ResolverRuleAssociation", "VPCId"]
    return .obj [("VPCId", .str vpc), ("ResolverRuleId", .str rule)]
  | stream => named "DeliveryStreamName"
  | profile => none
where
  named (parameter : String) : Option Json :=
    (kind.createdId bag answer).map fun id => .obj [(parameter, .str id)]

/-- How a creation is noted: a profile may be put again under its name. -/
def begin : ResourceKind → String → Note
  | profile => .put
  | _ => .came

def note (kind : ResourceKind) (action : String) (bag answer : Json) : Note :=
  if action ∈ kind.creations then .told kind.begin (kind.createdId bag answer)
  else if action ∈ kind.deletions then .told .went (kind.deletedId bag answer)
  else .nothing

section Noting

variable {kind : ResourceKind} {action id : String} {bag answer : Json} {ids ids' : List String}

theorem eq_apply_of_created (h : ids' = (kind.begin id).apply ids)
    (creation : action ∈ kind.creations) (told : kind.createdId bag answer = some id) :
    ids' = (kind.note action bag answer).apply ids := by
  rw [note, if_pos creation, told]
  exact h

theorem named_of_createdId (told : kind.createdId bag answer = some id) (parameter : String) :
    deletionBag?.named kind bag answer parameter = some (.obj [(parameter, .str id)]) := by
  rw [deletionBag?.named, told]
  rfl

theorem eq_apply_of_deleted (h : ids' = ids.filter (· != id)) (other : action ∉ kind.creations)
    (deletion : action ∈ kind.deletions) (told : kind.deletedId bag answer = some id) :
    ids' = (kind.note action bag answer).apply ids := by
  rw [note, if_neg other, if_pos deletion, told]
  exact h

end Noting

end ResourceKind

namespace Region

/-- What a step tells of the resources of a kind. A request that fails tells nothing. -/
def note (r : Region) (kind : ResourceKind) : Step → Note
  | .request at_ service action bag =>
    if service = kind.service then
      match r.serve at_ service action bag with
      | .ok (answer, _) => kind.note action bag answer
      | .error _ => .nothing
    else .nothing
  | .reset service => if service = kind.service then .cleared else .nothing
  | .restart => .cleared

def notes (kind : ResourceKind) : Region → List Step → List Note
  | _, [] => []
  | r, step :: rest => r.note kind step :: notes kind (r.after step) rest

theorem notes_concat (kind : ResourceKind) (r : Region) (steps : List Step) (step : Step) :
    notes kind r (steps ++ [step]) = notes kind r steps ++ [(steps.foldl after r).note kind step] := by
  induction steps generalizing r with
  | nil => rfl
  | cons first rest ih => rw [List.cons_append, notes, ih, notes, List.foldl_cons, List.cons_append]

end Region

end ControlPlane
