import ControlPlane.Proofs.Directory.Change
import ControlPlane.Proofs.Page

/-!
The directory service keeps passwords and never tells them. A password is looked at once, by a rule,
when a directory is created; the message of a broken rule on it does not depend on its value, and
neither does any other step. So what an operation answers, and what it leaves behind but for stored
passwords, can be computed from the service without its passwords.
-/

namespace ControlPlane

section Except

variable {ε δ α β γ : Type}

theorem mapError_bind (f : ε → δ) (x : Except ε α) (g : α → Except ε β) :
    (x >>= g).mapError f = x.mapError f >>= fun a => (g a).mapError f := by
  cases x <;> rfl

theorem mapError_map (f : ε → δ) (g : α → β) (x : Except ε α) :
    (g <$> x).mapError f = g <$> x.mapError f := by
  cases x <;> rfl

theorem guard_map {c : Prop} [Decidable c] {e : ε} {f : α → β} {g : γ → Except ε α}
    {g' : γ → Except ε β} {x : Except ε α} {x' : Except ε β} (h : x' = f <$> x) :
    (if c then throw e >>= g' else x') = f <$> if c then throw e >>= g else x := by
  split
  · rfl
  · exact h

end Except

/-- A report on a batch of checks does not depend on the value of a secret field. -/
theorem validate_secret {c : Check} (secret : c.field = "password") (value : String)
    (before after : List Check) :
    (validate (before ++ { c with value := value } :: after)).mapError ValidationError.message =
      (validate (before ++ c :: after)).mapError ValidationError.message := by
  rw [validate_eq, validate_eq]
  simp only [List.filterMap_append, List.filterMap_cons]
  cases broken : c.broken with
  | none =>
    simp only [Check.violation?, broken, Option.map_none]
    rfl
  | some constraint =>
    have hides : Violation.hidesValue ⟨c.field, c.value, constraint⟩ = true := beq_iff_eq.mpr secret
    have told := Violation.message_of_hidesValue hides value
    simp only [Check.violation?, broken, Option.map_some, List.append_eq_nil_iff, reduceCtorEq,
      and_false, if_false, Except.mapError, ValidationError.message, List.length_append,
      List.length_cons, List.map_append, List.map_cons, told]

def Directory.withoutPassword (d : Directory) : Directory := { d with password := "" }

theorem Directory.key_withoutPassword (d : Directory) :
    Keyed.key d.withoutPassword = Keyed.key d := rfl

def DirectoryDraft.withPassword (d : DirectoryDraft) (password : String) : DirectoryDraft :=
  { d with password := password }

/-! Whether a request makes a draft has nothing to do with its password. -/

theorem CreateDirectory.draft_withPassword (input : CreateDirectory) (password : String) :
    CreateDirectory.draft { input with password := password } =
      input.draft.map (·.withPassword password) := by
  rw [draft, draft]
  cases input.settings <;> rfl

theorem CreateMicrosoftDirectory.draft_withPassword (input : CreateMicrosoftDirectory)
    (password : String) :
    CreateMicrosoftDirectory.draft { input with password := password } =
      input.draft.map (·.withPassword password) := by
  rw [draft, draft]
  cases input.settings <;> rfl

theorem ConnectDirectory.draft_withPassword (input : ConnectDirectory) (password : String) :
    ConnectDirectory.draft { input with password := password } =
      input.draft.map (·.withPassword password) := by
  rw [draft, draft]
  cases input.settings <;> rfl

namespace DirectoryService

open DirectoryConstraint

def withoutPasswords (s : DirectoryService) : DirectoryService :=
  { s with
    directories := s.directories.map Directory.withoutPassword Directory.key_withoutPassword }

theorem withoutPasswords_withoutPasswords (s : DirectoryService) :
    s.withoutPasswords.withoutPasswords = s.withoutPasswords := by
  have same : s.withoutPasswords.withoutPasswords.directories = s.withoutPasswords.directories :=
    Registry.ext List.map_map
  exact congrArg (fun directories => { s with directories := directories }) same

theorem withoutPasswords_insert (s : DirectoryService) (d : Directory) (tags : TagStore) :
    withoutPasswords { s with directories := s.directories.insert d, tags := tags } =
      { s.withoutPasswords with
        directories := s.withoutPasswords.directories.insert d.withoutPassword
        tags := tags } := by
  simp only [withoutPasswords, Registry.insert_map]

theorem withoutPasswords_remove (s : DirectoryService) (id : String) (tags : TagStore) :
    withoutPasswords { s with directories := s.directories.remove id, tags := tags } =
      { s.withoutPasswords with
        directories := s.withoutPasswords.directories.remove id
        tags := tags } := by
  simp only [withoutPasswords, Registry.remove_map]

theorem tags_withoutPasswords (s : DirectoryService) : s.withoutPasswords.tags = s.tags := rfl

/-! ### Looking -/

theorem directory_withoutPasswords (s : DirectoryService) (id : String) :
    s.withoutPasswords.directory id = Directory.withoutPassword <$> s.directory id := by
  simp only [directory, withoutPasswords, Registry.get?_map]
  cases s.directories.get? id <;> rfl

theorem count_withoutPasswords (s : DirectoryService) (type : DirectoryType) :
    s.withoutPasswords.count type = s.count type :=
  Registry.count_map Directory.key_withoutPassword (fun _ => rfl) _

theorem usedAddresses_withoutPasswords (s : DirectoryService) :
    s.withoutPasswords.usedAddresses = s.usedAddresses :=
  List.flatMap_map _ _ _

theorem fresh_withoutPasswords (s : DirectoryService) (draws : List Nat) :
    Identifier.fresh s.withoutPasswords.directories "d" idDigits draws =
      Identifier.fresh s.directories "d" idDigits draws :=
  Identifier.fresh_congr (Registry.keys_map Directory.key_withoutPassword _) _ _ _

theorem requireRoom_withoutPasswords (s : DirectoryService) (type : DirectoryType) :
    s.withoutPasswords.requireRoom type = s.requireRoom type := by
  rw [requireRoom, requireRoom, count_withoutPasswords]
  rfl

theorem requireDirectory_withoutPasswords (s : DirectoryService) (id : String) :
    s.withoutPasswords.requireDirectory id = s.requireDirectory id := by
  simp only [requireDirectory, directory_withoutPasswords, bind_map_left]

theorem findAll_withoutPasswords (s : DirectoryService) (ids : List String) :
    s.withoutPasswords.findAll ids = List.map Directory.withoutPassword <$> s.findAll ids := by
  induction ids with
  | nil => rfl
  | cons id rest ih =>
    rw [findAll, findAll, directory_withoutPasswords, ih]
    cases s.directory id with
    | error e => rfl
    | ok d =>
      cases s.findAll rest <;> rfl

theorem limits_withoutPasswords (s : DirectoryService) : s.withoutPasswords.limits = s.limits := by
  simp only [limits, usage, count_withoutPasswords]
  rfl

def pageWithoutPasswords (p : Page Directory) : Page Directory :=
  ⟨p.items.map Directory.withoutPassword, p.next⟩

theorem page_withoutPasswords (items : List Directory) (token : Option String) (limit : Nat) :
    page (items.map Directory.withoutPassword) token limit =
      pageWithoutPasswords <$> page items token limit := by
  rw [page, page, Page.ofList_map, ← mapError_map]
  rfl

theorem describeDirectories_withoutPasswords (s : DirectoryService) (input : DescribeDirectories) :
    s.withoutPasswords.describeDirectories input =
      pageWithoutPasswords <$> s.describeDirectories input := by
  rw [describeDirectories, describeDirectories, map_bind]
  refine bind_congr fun _ => ?_
  by_cases all : input.ids = []
  · rw [if_pos all, if_pos all]
    exact page_withoutPasswords s.directories.records _ _
  · rw [if_neg all, if_neg all, findAll_withoutPasswords, bind_map_left, map_bind]
    exact bind_congr fun chosen => page_withoutPasswords chosen _ _

theorem listTags_withoutPasswords (s : DirectoryService) (input : ListDirectoryTags) :
    s.withoutPasswords.listTags input = s.listTags input := by
  rw [listTags, listTags, requireDirectory_withoutPasswords, tags_withoutPasswords]

/-- A result with the passwords taken out of the state. -/
def concealed {α : Type} (result : α × DirectoryService) : α × DirectoryService :=
  (result.1, result.2.withoutPasswords)

theorem deleteDirectory_withoutPasswords (s : DirectoryService) (id : String) :
    s.withoutPasswords.deleteDirectory id = concealed <$> s.deleteDirectory id := by
  simp only [deleteDirectory, directory_withoutPasswords, map_bind, bind_map_left, map_pure,
    concealed, withoutPasswords_remove]
  rfl

theorem addTags_withoutPasswords (s : DirectoryService) (input : AddTags) :
    s.withoutPasswords.addTags input = concealed <$> s.addTags input := by
  simp only [addTags, requireDirectory_withoutPasswords, tags_withoutPasswords, map_bind]
  refine bind_congr fun _ => bind_congr fun _ => ?_
  exact guard_map rfl

theorem removeTags_withoutPasswords (s : DirectoryService) (input : RemoveTags) :
    s.withoutPasswords.removeTags input = concealed <$> s.removeTags input := by
  simp only [removeTags, requireDirectory_withoutPasswords, map_bind, map_pure]
  rfl

theorem createAlias_withoutPasswords (s : DirectoryService) (input : CreateAlias) :
    s.withoutPasswords.createAlias input = concealed <$> s.createAlias input := by
  have taken : (s.withoutPasswords.directories.find? fun e => e.aliasName == input.aliasName) =
      (s.directories.find? fun e => e.aliasName == input.aliasName).map Directory.withoutPassword :=
    Registry.find?_map Directory.key_withoutPassword (fun _ => rfl) _
  simp only [createAlias, directory_withoutPasswords, taken, Option.isSome_map, map_bind,
    bind_map_left]
  refine bind_congr fun _ => bind_congr fun d => guard_map (guard_map ?_)
  rw [map_pure, concealed, withoutPasswords_insert]
  rfl

theorem switchSso_withoutPasswords (s : DirectoryService) (d : Directory) (enabled : Bool) :
    s.withoutPasswords.switchSso d.withoutPassword enabled =
      (s.switchSso d enabled).withoutPasswords :=
  (s.withoutPasswords_insert { d with ssoEnabled := enabled } s.tags).symm

theorem enableSso_withoutPasswords (s : DirectoryService) (input : SwitchSso) :
    s.withoutPasswords.enableSso input = concealed <$> s.enableSso input := by
  simp only [enableSso, directory_withoutPasswords, map_bind, bind_map_left,
    switchSso_withoutPasswords]
  refine bind_congr fun _ => bind_congr fun d => ?_
  exact guard_map rfl

theorem disableSso_withoutPasswords (s : DirectoryService) (input : SwitchSso) :
    s.withoutPasswords.disableSso input = concealed <$> s.disableSso input := by
  simp only [disableSso, directory_withoutPasswords, map_bind, bind_map_left, map_pure,
    switchSso_withoutPasswords, concealed]

/-! ### Creation -/

/-- Only the stored password of a new directory comes from the password of its draft. -/
theorem register_withoutPasswords (s : DirectoryService) (at_ : Moment) (d : DirectoryDraft)
    (subnets : List Subnet) :
    s.withoutPasswords.register at_ (d.withPassword "") subnets =
      concealed <$> s.register at_ d subnets := by
  simp only [register, usedAddresses_withoutPasswords, fresh_withoutPasswords, map_bind, map_pure,
    concealed, withoutPasswords_insert]
  rfl

theorem answer_create (view : NetworkView) (s : DirectoryService) (at_ : Moment)
    (draft : Except DirectoryFault DirectoryDraft) :
    (s.create at_ draft).run.answer view = (do
      let d ← draft
      d.accept
      let subnets ← (locate d.vpc d.subnets).run.answer view
      s.requireRoom d.type
      requireFewTags d.tags
      s.register at_ d subnets) := by
  simp only [create, Lookup.answer_run_bind]
  rfl

def passwordCheck (d : DirectoryDraft) : Check :=
  .of "password" d.password (.satisfies passwordPattern)

theorem told_validate (cs : List Check) :
    ((validate cs).mapError DirectoryFault.validation).mapError ServiceError.ofFault =
      ((validate cs).mapError ValidationError.message).mapError fun message =>
        ⟨"ValidationException", message, ServiceError.badRequest⟩ := by
  cases validate cs <;> rfl

theorem accept_withPassword (d : DirectoryDraft) {password : String}
    (agree : passwordPattern.accepts password = passwordPattern.accepts d.password) :
    (d.withPassword password).accept.mapError ServiceError.ofFault =
      d.accept.mapError ServiceError.ofFault := by
  have rule : Rule.satisfies passwordPattern password =
      Rule.satisfies passwordPattern d.password := by
    rw [Rule.satisfies, Rule.requires, Rule.requires, agree]
  have other : (d.withPassword password).checks =
      { passwordCheck d with value := password } :: d.checks.tail := by
    rw [passwordCheck, Check.of, ← rule]
    rfl
  have same := validate_secret (c := passwordCheck d) rfl password [] d.checks.tail
  rw [List.nil_append, List.nil_append] at same
  simp only [DirectoryDraft.accept, mapError_bind, told_validate, other]
  rw [same]
  rfl

/-- What is told of a result, and what is left of the service but for passwords. -/
def told {Output : Type} (output : Codec Output)
    (result : Except DirectoryFault (Output × DirectoryService)) :
    Except ServiceError (Json × DirectoryService) :=
  (fun r => (output.encode r.1, r.2.withoutPasswords)) <$> result.mapError .ofFault

theorem told_concealed {Output : Type} (output : Codec Output)
    (result : Except DirectoryFault (Output × DirectoryService)) :
    told output (concealed <$> result) = told output result := by
  cases result with
  | error e => rfl
  | ok r =>
    change Except.ok (output.encode r.1, r.2.withoutPasswords.withoutPasswords) =
      Except.ok (output.encode r.1, r.2.withoutPasswords)
    rw [withoutPasswords_withoutPasswords]

theorem told_create (view : NetworkView) (s : DirectoryService) (at_ : Moment)
    (draft : Except DirectoryFault DirectoryDraft) :
    told idAnswer ((s.create at_ draft).run.answer view) = told idAnswer (do
      let d ← draft
      d.accept
      let subnets ← (locate d.vpc d.subnets).run.answer view
      s.withoutPasswords.requireRoom d.type
      requireFewTags d.tags
      s.withoutPasswords.register at_ (d.withPassword "") subnets) := by
  rw [← told_concealed, answer_create]
  simp only [map_bind, register_withoutPasswords, requireRoom_withoutPasswords]

theorem told_create_withoutPasswords (view : NetworkView) (s : DirectoryService) (at_ : Moment)
    (draft : Except DirectoryFault DirectoryDraft) :
    told idAnswer ((s.withoutPasswords.create at_ draft).run.answer view) =
      told idAnswer ((s.create at_ draft).run.answer view) := by
  rw [told_create, told_create, withoutPasswords_withoutPasswords]

theorem told_create_withPassword (view : NetworkView) (s : DirectoryService) (at_ : Moment)
    (draft : Except DirectoryFault DirectoryDraft) {password other : String}
    (agree : passwordPattern.accepts password = passwordPattern.accepts other) :
    told idAnswer ((s.create at_ (draft.map (·.withPassword password))).run.answer view) =
      told idAnswer ((s.create at_ (draft.map (·.withPassword other))).run.answer view) := by
  rw [told_create, told_create]
  cases draft with
  | error e => rfl
  | ok d =>
    have accepted := accept_withPassword (d.withPassword other) agree
    change told idAnswer ((d.withPassword password).accept >>= _) =
      told idAnswer ((d.withPassword other).accept >>= _)
    rw [told, told, mapError_bind _ (d.withPassword password).accept,
      mapError_bind _ (d.withPassword other).accept, ← accepted]
    rfl

/-- An operation tells the same whatever the stored passwords are. -/
def Op.Blind (op : Op) : Prop :=
  ∀ (view : NetworkView) (s : DirectoryService) (at_ : Moment) (input : op.Input),
    told op.output ((op.run s.withoutPasswords at_ input).answer view) =
      told op.output ((op.run s at_ input).answer view)

theorem blind_of_writing {Input Output : Type} {input : Codec Input} {output : Codec Output}
    {run : DirectoryService → Moment → Input → Except DirectoryFault (Output × DirectoryService)}
    (h : ∀ s at_ i, run s.withoutPasswords at_ i = concealed <$> run s at_ i) :
    Op.Blind (.writing input output run) := by
  intro view s at_ i
  exact (congrArg (told output) (h s at_ i)).trans (told_concealed _ _)

theorem blind_of_reading {Input Output : Type} {input : Codec Input} {output : Codec Output}
    {look : DirectoryService → Input → Except DirectoryFault Output} (hide : Output → Output)
    (shown : ∀ o, output.encode (hide o) = output.encode o)
    (h : ∀ s i, look s.withoutPasswords i = hide <$> look s i) :
    Op.Blind (.reading input output look) := by
  intro view s at_ (i : Input)
  have seen := congrArg (Except.map fun o => (o, s.withoutPasswords)) (h s i)
  refine (congrArg (told output) seen).trans ?_
  simp only [told, Operation.reading, Lookup.pure_eq, Lookup.answer]
  cases look s i with
  | error e => rfl
  | ok o =>
    change Except.ok (output.encode (hide o), s.withoutPasswords.withoutPasswords) =
      Except.ok (output.encode o, s.withoutPasswords)
    rw [shown, withoutPasswords_withoutPasswords]

def creatingOp {Input : Type} (input : Codec Input)
    (draft : Input → Except DirectoryFault DirectoryDraft) : Op where
  Input := Input
  Output := String
  input := input
  output := idAnswer
  run s at_ i := (s.create at_ (draft i)).run

theorem blind_creatingOp {Input : Type} (input : Codec Input)
    (draft : Input → Except DirectoryFault DirectoryDraft) : (creatingOp input draft).Blind :=
  fun view s at_ i => told_create_withoutPasswords view s at_ (draft i)

theorem encode_descriptions (p : Page Directory) :
    describeDirectoriesOp.output.encode p =
      .obj (("DirectoryDescriptions", .arr (p.items.map Directory.record.codec.encode)) ::
        (p.next.map fun token => ("NextToken", .str token)).toList) := by
  rcases p with ⟨items, _ | token⟩
  · rfl
  · rfl

theorem encode_pageWithoutPasswords (p : Page Directory) :
    describeDirectoriesOp.output.encode (pageWithoutPasswords p) =
      describeDirectoriesOp.output.encode p := by
  rw [encode_descriptions, encode_descriptions, pageWithoutPasswords, List.map_map]
  rfl

theorem blind_of_operations {name : String} {op : Op} (h : operations name = some op) :
    op.Blind := by
  simp only [operations] at h
  split at h <;> cases h
  case h_1 => exact blind_creatingOp _ CreateDirectory.draft
  case h_2 => exact blind_creatingOp _ CreateMicrosoftDirectory.draft
  case h_3 => exact blind_creatingOp _ ConnectDirectory.draft
  case h_4 => exact blind_of_writing fun s _ id => s.deleteDirectory_withoutPasswords id
  case h_5 =>
    exact blind_of_reading pageWithoutPasswords encode_pageWithoutPasswords
      describeDirectories_withoutPasswords
  case h_6 =>
    exact blind_of_reading id (fun _ => rfl) fun s _ =>
      congrArg Except.ok s.limits_withoutPasswords
  case h_7 => exact blind_of_writing fun s _ input => s.addTags_withoutPasswords input
  case h_8 => exact blind_of_writing fun s _ input => s.removeTags_withoutPasswords input
  case h_9 =>
    exact blind_of_reading id (fun _ => rfl) fun s input =>
      (s.listTags_withoutPasswords input).trans (id_map _).symm
  case h_10 => exact blind_of_writing fun s _ input => s.createAlias_withoutPasswords input
  case h_11 => exact blind_of_writing fun s _ input => s.enableSso_withoutPasswords input
  case h_12 => exact blind_of_writing fun s _ input => s.disableSso_withoutPasswords input

/-! ### Requests -/

theorem concealed_serve_of_decode {name : String} {op : Op} {bag : Json} {input : op.Input}
    (hop : operations name = some op) (hd : op.input.decodeBag bag = .ok input) (view : NetworkView)
    (s : DirectoryService) (at_ : Moment) :
    concealed <$> (operations.serve s at_ name bag).answer view =
      told op.output ((op.run s at_ input).answer view) := by
  simp only [Catalog.serve, hop, Operation.serve, hd, Lookup.answer_bind]
  cases (op.run s at_ input).answer view <;> rfl

theorem concealed_serve_withoutPasswords (view : NetworkView) (s : DirectoryService) (at_ : Moment)
    (name : String) (bag : Json) :
    concealed <$> (operations.serve s.withoutPasswords at_ name bag).answer view =
      concealed <$> (operations.serve s at_ name bag).answer view := by
  cases hop : operations name with
  | none =>
    simp only [Catalog.serve, hop]
  | some op =>
    cases hd : op.input.decodeBag bag with
    | error e =>
      simp only [Catalog.serve, hop, Operation.serve, hd]
    | ok input =>
      rw [concealed_serve_of_decode hop hd, concealed_serve_of_decode hop hd]
      exact blind_of_operations hop view s at_ input

end DirectoryService

end ControlPlane
