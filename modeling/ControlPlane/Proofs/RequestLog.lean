import ControlPlane.Proofs.Json.Place
import ControlPlane.RequestLog

/-!
Passwords in the request log. The log masks members by their names, and an operation reads its
password from a member of an object or, when it is asked with a list of values, from the place in
which the password is declared. Main statement: the log of a request does not depend on the password
that the operation reads exactly if the request is an object.
-/

namespace ControlPlane.RequestLog

open Record

theorem masked_replacedMembers {name : String} (secret : isSecretName name = true) (value : Json)
    (members : List (String × Json)) :
    masked (.obj (Json.replacedMembers name value members)) = masked (.obj members) := by
  rw [masked, masked, maskedMembers_eq_map, maskedMembers_eq_map, Json.replacedMembers,
    List.map_map]
  congr 1
  apply List.map_congr_left
  intro m _
  simp only [Function.comp_apply]
  split
  · rename_i here
    rw [here, secret]
    rfl
  · rfl

theorem masked_set_iff {items : List Json} {n : Nat} {w w' : String}
    (stands : items[n]? = some (.str w)) :
    masked (.arr (items.set n (.str w'))) = masked (.arr items) ↔ w' = w := by
  have inside := (List.getElem?_eq_some_iff.mp stands).1
  rw [masked, masked, maskedItems_eq_map, maskedItems_eq_map, Json.arr.injEq]
  refine ⟨fun same => ?_, fun same => ?_⟩
  · have there := congrArg (fun js : List Json => js[n]?) same
    simp only [List.getElem?_map, List.getElem?_set_self inside, stands, Option.map_some, masked,
      Option.some.injEq, Json.str.injEq] at there
    exact there
  · have back : items.set n (.str w') = items := by
      apply List.ext_getElem?
      intro k
      by_cases here : n = k
      · rw [← here, List.getElem?_set_self inside, stands, same]
      · rw [List.getElem?_set_ne here]
    rw [back]

section Third

variable {σ α β₀ β₁ β₃ β₄ β₅ β₆ : Type} {mk : β₀ → β₁ → String → β₃ → β₄ → β₅ → β₆ → α}
  {m₀ : Member β₀} {m₁ : Member β₁} {m₃ : Member β₃} {m₄ : Member β₄} {m₅ : Member β₅}
  {m₆ : Member β₆}

theorem finds_third {password : α → String}
    (told : ∀ b₀ b₁ w b₃ b₄ b₅ b₆, password (mk b₀ b₁ w b₃ b₄ b₅ b₆) = w)
    (others : ∀ name ∈ [m₀.name, m₁.name, m₃.name, m₄.name, m₅.name, m₆.name], name ≠ "Password")
    (g₀ : σ → β₀) (g₁ : σ → β₁) (g₂ : σ → String) (g₃ : σ → β₃) (g₄ : σ → β₄) (g₅ : σ → β₅)
    (g₆ : σ → β₆) :
    Finds "Password" 2 (fun o a => o = some (password a))
      ((((((((Record.start mk).member m₀ g₀).member m₁ g₁).required "Password" .text g₂).member
        m₃ g₃).member m₄ g₄).member m₅ g₅).member m₆ g₆) := by
  simp only [List.forall_mem_cons] at others
  obtain ⟨first, second, fourth, fifth, sixth, last, -⟩ := others
  -- The members are taken off from the last to the first.
  refine .member (.member (.member (.member ?_ fourth g₃) fifth g₄) sixth g₅) last g₆
  refine Before.finds ?_ tells_required g₂
  refine .member (.member (.start ?_) first g₀) second g₁
  exact fun b₀ b₁ w b₃ b₄ b₅ b₆ => congrArg some (told b₀ b₁ w b₃ b₄ b₅ b₆).symm

end Third

theorem finds_createDirectory :
    CreateDirectory.record.Finds "Password" 2 fun o input => o = some input.password :=
  finds_third (fun _ _ _ _ _ _ _ => rfl) (by decide) _ _ _ _ _ _ _

theorem finds_createMicrosoft :
    CreateMicrosoftDirectory.record.Finds "Password" 2 fun o input => o = some input.password :=
  finds_third (fun _ _ _ _ _ _ _ => rfl) (by decide) _ _ _ _ _ _ _

theorem finds_connectDirectory :
    ConnectDirectory.record.Finds "Password" 2 fun o input => o = some input.password :=
  finds_third (fun _ _ _ _ _ _ _ => rfl) (by decide) _ _ _ _ _ _ _

theorem finds_switchSso :
    SwitchSso.record.Finds "Password" 2 fun o input => o = input.password := by
  refine Before.finds ?_ tells_optional SwitchSso.password
  exact .member (.member (.start fun _ _ _ => rfl) (by decide) _) (by decide) _

/-- The operation reads this password from the bag. -/
inductive Brings : String → Json → String → Prop where
  | simple {bag : Json} {input : CreateDirectory}
    (read : CreateDirectory.record.codec.decodeBag bag = .ok input) :
    Brings "CreateDirectory" bag input.password
  | microsoft {bag : Json} {input : CreateMicrosoftDirectory}
    (read : CreateMicrosoftDirectory.record.codec.decodeBag bag = .ok input) :
    Brings "CreateMicrosoftAD" bag input.password
  | connected {bag : Json} {input : ConnectDirectory}
    (read : ConnectDirectory.record.codec.decodeBag bag = .ok input) :
    Brings "ConnectDirectory" bag input.password
  | enabled {bag : Json} {input : SwitchSso} {w : String}
    (read : SwitchSso.record.codec.decodeBag bag = .ok input) (given : input.password = some w) :
    Brings "EnableSso" bag w
  | disabled {bag : Json} {input : SwitchSso} {w : String}
    (read : SwitchSso.record.codec.decodeBag bag = .ok input) (given : input.password = some w) :
    Brings "DisableSso" bag w

/-- A bag with another password in the place from which its own is read. -/
def withPassword (w : String) : Json → Json := Json.replaced "Password" 2 (.str w)

theorem placed_of_finds {α : Type} {r : Record α α} {password : α → Option String}
    (finds : r.Finds "Password" 2 fun o a => o = password a) {bag : Json} {a : α} {w : String}
    (read : r.codec.decodeBag bag = .ok a) (given : password a = some w) :
    bag.placed? "Password" 2 = some (.str w) ∧
      ∀ u, ∃ b, r.codec.decodeBag (withPassword u bag) = .ok b ∧ some u = password b := by
  rcases finds.decodeBag read with none | ⟨v, stands, same, again⟩
  · cases none.trans given
  · cases same.trans given
    exact ⟨stands, again⟩

theorem Brings.placed {action : String} {bag : Json} {w : String} (h : Brings action bag w) :
    bag.placed? "Password" 2 = some (.str w) ∧ ∀ u, Brings action (withPassword u bag) u := by
  cases h with
  | simple read =>
    obtain ⟨stands, again⟩ := placed_of_finds finds_createDirectory read rfl
    refine ⟨stands, fun u => ?_⟩
    obtain ⟨input, read', same⟩ := again u
    cases same
    exact .simple read'
  | microsoft read =>
    obtain ⟨stands, again⟩ := placed_of_finds finds_createMicrosoft read rfl
    refine ⟨stands, fun u => ?_⟩
    obtain ⟨input, read', same⟩ := again u
    cases same
    exact .microsoft read'
  | connected read =>
    obtain ⟨stands, again⟩ := placed_of_finds finds_connectDirectory read rfl
    refine ⟨stands, fun u => ?_⟩
    obtain ⟨input, read', same⟩ := again u
    cases same
    exact .connected read'
  | enabled read given =>
    obtain ⟨stands, again⟩ := placed_of_finds finds_switchSso read given
    refine ⟨stands, fun u => ?_⟩
    obtain ⟨input, read', same⟩ := again u
    exact .enabled read' same.symm
  | disabled read given =>
    obtain ⟨stands, again⟩ := placed_of_finds finds_switchSso read given
    refine ⟨stands, fun u => ?_⟩
    obtain ⟨input, read', same⟩ := again u
    exact .disabled read' same.symm

/-- Of two requests that differ in the password alone, and that the operation reads alike but for
it, the log shows the same exactly if they are objects. -/
theorem masked_withPassword_iff {action : String} {bag : Json} {w w' : String}
    (brings : Brings action bag w) (other : w' ≠ w) :
    Brings action (withPassword w' bag) w' ∧
      (masked (withPassword w' bag) = masked bag ↔ ∃ members, bag = .obj members) := by
  obtain ⟨stands, again⟩ := brings.placed
  refine ⟨again w', ?_⟩
  cases bag with
  | obj members =>
    have same : masked (withPassword w' (.obj members)) = masked (.obj members) :=
      masked_replacedMembers (by decide) _ members
    exact iff_of_true same ⟨members, rfl⟩
  | arr items =>
    refine iff_of_false (fun same => other ((masked_set_iff stands).mp same)) ?_
    rintro ⟨members, list⟩
    cases list
  | _ => cases stands

/-- A request for a directory as a list of the members in the order of their declaration. -/
def listedRequest (password : String) : Json :=
  .arr [.str "corp.example.com", .null, .str password, .null, .str "Small"]

theorem brings_listedRequest (password : String) :
    Brings "CreateDirectory" (listedRequest password) password := by
  have read : CreateDirectory.record.codec.decodeBag (listedRequest password) =
      .ok ⟨"corp.example.com", none, password, none, "Small", none, []⟩ := rfl
  exact .simple read

theorem masked_withPassword_listedRequest :
    Brings "CreateDirectory" (listedRequest "Passw0rd!") "Passw0rd!" ∧ "Secr3t!!" ≠ "Passw0rd!" ∧
      Brings "CreateDirectory" (withPassword "Secr3t!!" (listedRequest "Passw0rd!")) "Secr3t!!" ∧
      masked (withPassword "Secr3t!!" (listedRequest "Passw0rd!")) ≠
        masked (listedRequest "Passw0rd!") := by
  have brings := brings_listedRequest "Passw0rd!"
  have other : "Secr3t!!" ≠ "Passw0rd!" := by decide
  obtain ⟨again, exactly⟩ := masked_withPassword_iff brings other
  refine ⟨brings, other, again, fun same => ?_⟩
  obtain ⟨members, list⟩ := exactly.mp same
  cases list

/-- The log shows the password of a request that is a list. -/
theorem listed_password_logged :
    Brings "CreateDirectory" (listedRequest "Passw0rd!") "Passw0rd!" ∧
      (LogEntry.ofRequest ⟨"123456789012", "us-east-1", "aws"⟩ .directory "CreateDirectory"
        (listedRequest "Passw0rd!")).params =
          "[\"corp.example.com\",null,\"Passw0rd!\",null,\"Small\"]" ∧
      (LogEntry.ofRequest ⟨"123456789012", "us-east-1", "aws"⟩ .directory "CreateDirectory"
        (withPassword "Secr3t!!" (listedRequest "Passw0rd!"))).params =
          "[\"corp.example.com\",null,\"Secr3t!!\",null,\"Small\"]" :=
  ⟨brings_listedRequest "Passw0rd!", by decide +kernel, by decide +kernel⟩

end ControlPlane.RequestLog
