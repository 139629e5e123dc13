import BuildDigest.Proofs.ByteOrder
import BuildDigest.Proofs.SummaryShape

set_option autoImplicit false

namespace BuildDigest

-- A record whose names can all be read and ascend byte by byte.
def Draft.Ascending : Draft → Prop
  | .record members .closed => ∃ names : List String, members.map Prod.fst = names.map some ∧
      (names.map Hash.utf8).Pairwise (· < ·)
  | _ => False

namespace Shape

variable {α : Type} (shape : Shape α)

theorem document (a : α) : Grammar.Document (shape.tree a) (shape.json a).text :=
  Grammar.printed_document _ _ (shape.printed a)

theorem read_back (a : α) : Draft.readText? .ok (shape.json a).text = .ok (shape.tree a) :=
  Grammar.read_document .ok _ _ (shape.document a)

theorem text_inj (a b : α) : (shape.json a).text = (shape.json b).text ↔ a = b := by
  constructor
  · intro same
    have read := shape.read_back a
    rw [same, shape.read_back b] at read
    exact (shape.injective (Except.ok.inj read)).symm
  · rintro rfl
    rfl

theorem map_ascending (m : KeyMap α) : ((map shape).tree m).Ascending := by
  refine ⟨m.entries.map Prod.fst, ?_, ?_⟩
  · rw [List.map_map, List.map_map]
    rfl
  · rw [List.map_map]
    exact m.bytes_ascending

end Shape

namespace Summary

theorem text_faithful (s : Summary) :
    Grammar.Document (shape.tree s) s.json.text ∧
    Draft.readText? .ok s.json.text = .ok (shape.tree s) ∧
    ((Shape.map .text).tree s.envVars).Ascending ∧
    ((Shape.map Target.shape).tree s.targets).Ascending ∧
    ((Shape.map Test.shape).tree s.tests).Ascending ∧
    ((Shape.map .text).tree s.relatedFiles).Ascending ∧
    ∀ other : Summary, other.json.text = s.json.text ↔ other = s :=
  ⟨shape.document s, shape.read_back s, Shape.map_ascending _ _, Shape.map_ascending _ _,
    Shape.map_ascending _ _, Shape.map_ascending _ _, fun other => shape.text_inj other s⟩

end Summary

end BuildDigest
