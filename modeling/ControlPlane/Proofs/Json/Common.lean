import ControlPlane.Network.Record
import ControlPlane.Page
import ControlPlane.Proofs.Ipv4.Written
import ControlPlane.Proofs.Json.Return
import ControlPlane.Proofs.Timestamp

/-!
What several services write comes back: moments, blocks, tags, records with their tags, and pages.
-/

namespace ControlPlane

open Record

instance : Timestamp.codec.Lawful := Codec.lawful_ofText Timestamp.parse?_text

instance : Cidr.codec.Lawful := Codec.lawful_ofText Cidr.parse?_text

instance : Tag.codec.Lawful :=
  Record.lawful (by decide) (fun _ => ReadsBack.start Tag.mk |>.required |>.defaulted) fun _ => rfl

theorem Tagged.returns {α : Type} {r : Record α α} {a b : α} (h : r.ReadsBack a b)
    (distinct : (Tagged.record r).names.Nodup) (tags : List Tag) :
    (Tagged.record r).codec.Returns ⟨a, tags⟩ ⟨b, tags⟩ :=
  Record.returns distinct (ReadsBack.listOrEmpty (.within h)) rfl

theorem Page.returns {α : Type} {name : String} {c : Codec α} {f : α → α} {p : Page α}
    (other : name ≠ "NextToken") (h : ∀ a ∈ p.items, c.Returns a (f a)) :
    (Page.record name c).codec.Returns p ⟨p.items.map f, p.next⟩ := by
  have distinct : [name, "NextToken"].Nodup := by simpa using other
  exact Record.returns distinct
    (ReadsBack.start Page.mk |>.requiredOf (Codec.returns_list h) |>.optional) rfl

theorem Page.lawful {α : Type} {name : String} {c : Codec α} [c.Lawful]
    (other : name ≠ "NextToken") : (Page.record name c).codec.Lawful where
  returns p := by
    have back := Page.returns (f := id) (p := p) other fun a _ => Codec.Lawful.returns (c := c) a
    rwa [List.map_id] at back
  present _ := nofun

end ControlPlane
