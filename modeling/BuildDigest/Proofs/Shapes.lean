import BuildDigest.Proofs.Moments
import BuildDigest.Proofs.Printing
import BuildDigest.Proofs.Rendering
import BuildDigest.Proofs.Uuids
import BuildDigest.Summary.Basic

set_option autoImplicit false

namespace BuildDigest

structure Shape (α : Type) where
  json : α → Json
  tree : α → Draft
  printed : ∀ a, Grammar.Prints (tree a) (json a)
  injective : Function.Injective tree

namespace Shape

variable {α β : Type}

def bool : Shape Bool where
  json := .bool
  tree := .bool
  printed := Grammar.bool_written
  injective _ _ same := Draft.bool.inj same

def integer (value : α → Int)
    (bounds : ∀ a, -0x8000000000000000 ≤ value a ∧ value a < 0x10000000000000000)
    (injective : Function.Injective value) : Shape α where
  json a := .int (value a)
  tree a := .number (.integer (value a))
  printed a := Grammar.integer_written (value a) (bounds a)
  injective _ _ same := injective (Numeral.integer.inj (Draft.number.inj same))

def int32 : Shape Int32 :=
  integer Int32.toInt
    (fun n => by
      have low := n.le_toInt
      have high := n.toInt_lt
      omega)
    fun _ _ => Int32.toInt_inj.1

def int64 : Shape Int64 :=
  integer Int64.toInt
    (fun n => by
      have low := n.le_toInt
      have high := n.toInt_lt
      omega)
    fun _ _ => Int64.toInt_inj.1

def uint64 : Shape UInt64 :=
  integer (fun n => n.toNat)
    (fun n => by
      have high := n.toNat_lt
      omega)
    fun _ _ same => UInt64.toNat_inj.1 (Int.ofNat.inj same)

def spelled (text : α → String) (injective : Function.Injective text) : Shape α where
  json a := .str (text a)
  tree a := .text (some (text a))
  printed a := Grammar.text_written (text a)
  injective _ _ same := injective (Option.some.inj (Draft.text.inj same))

def text : Shape String :=
  spelled (fun s => s) fun _ _ same => same

def time : Shape Timestamp :=
  spelled Timestamp.text fun t u same => by
    have read := Timestamp.of_text_text t
    rw [same, Timestamp.of_text_text] at read
    exact (Option.some.inj read).symm

def uuid : Shape Uuid :=
  spelled Uuid.text Uuid.text_injective

def word (c : Wire.Choice) : Shape c.Type :=
  spelled Word.name fun a b same => by
    have read := Wire.choice_of_name c a
    rw [same, Wire.choice_of_name] at read
    exact (Option.some.inj read).symm

def list (item : Shape α) : Shape (List α) where
  json xs := .list (xs.map item.json)
  tree xs := .list (xs.map item.tree) .closed
  printed xs := by
    refine Grammar.list_written _ _ (List.forall₂_map_left_iff.2 (List.forall₂_map_right_iff.2 ?_))
    exact List.forall₂_same.2 fun x _ => item.printed x
  injective _ _ same := List.map_injective_iff.2 item.injective (Draft.list.inj same).1

theorem entries_injective (value : Shape α) (m n : KeyMap α)
    (same : m.entries.map (fun e => (some e.1, value.tree e.2)) =
      n.entries.map fun e => (some e.1, value.tree e.2)) : m = n := by
  have entries : m.entries = n.entries := by
    refine List.map_injective_iff.2 (fun e f same => ?_) same
    obtain ⟨key, tree⟩ := Prod.mk.inj same
    exact Prod.ext (Option.some.inj key) (value.injective tree)
  cases m
  cases n
  cases entries
  rfl

def map (value : Shape α) : Shape (KeyMap α) where
  json := Summary.keyMapJson value.json
  tree m := .record (m.entries.map fun e => (some e.1, value.tree e.2)) .closed
  printed m := by
    refine Grammar.record_written _ _
      (List.forall₂_map_left_iff.2 (List.forall₂_map_right_iff.2 ?_))
    exact List.forall₂_same.2 fun e _ => ⟨rfl, value.printed e.2⟩
  injective m n same := entries_injective value m n (Draft.record.inj same).1

-- A member of records, which may be left out: how it is printed, and the tree that it is.
structure Member (α : Type) where
  name : String
  json? : α → Option Json
  tree? : α → Option Draft
  printed : ∀ a, Option.Rel Grammar.Prints (tree? a) (json? a)

namespace Member

def always (name : String) (get : α → β) (shape : Shape β) : Member α where
  name := name
  json? a := some (shape.json (get a))
  tree? a := some (shape.tree (get a))
  printed a := .some (shape.printed (get a))

def ifAny (name : String) (get : α → Option β) (shape : Shape β) : Member α where
  name := name
  json? a := (get a).map shape.json
  tree? a := (get a).map shape.tree
  printed a := by
    cases get a with
    | none => exact .none
    | some b => exact .some (shape.printed b)

def Agrees (m : Member α) (a b : α) : Prop :=
  m.tree? a = m.tree? b

@[simp] theorem always_agrees (name : String) (get : α → β) (shape : Shape β) (a b : α) :
    (always name get shape).Agrees a b ↔ get a = get b :=
  ⟨fun same => shape.injective (Option.some.inj same), congrArg fun b => some (shape.tree b)⟩

@[simp] theorem if_any_agrees (name : String) (get : α → Option β) (shape : Shape β) (a b : α) :
    (ifAny name get shape).Agrees a b ↔ get a = get b :=
  ⟨fun same => Option.map_injective shape.injective same, congrArg (Option.map shape.tree)⟩

def trees (table : List (Member α)) (a : α) : List (Option String × Draft) :=
  table.filterMap fun m => (m.tree? a).map (some m.name, ·)

def jsons (table : List (Member α)) (a : α) : List (String × Json) :=
  table.filterMap fun m => (m.json? a).map (m.name, ·)

theorem jsons_always (name : String) (get : α → β) (shape : Shape β) (table : List (Member α))
    (a : α) :
    jsons (always name get shape :: table) a = (name, shape.json (get a)) :: jsons table a :=
  rfl

theorem jsons_if_any (name : String) (get : α → Option β) (shape : Shape β)
    (table : List (Member α)) (a : α) :
    jsons (ifAny name get shape :: table) a =
      Json.member? name shape.json (get a) ++ jsons table a := by
  cases told : get a <;> simp [jsons, ifAny, told, Json.member?]

theorem trees_cons (m : Member α) (table : List (Member α)) (a : α) :
    trees (m :: table) a = ((m.tree? a).map (some m.name, ·)).toList ++ trees table a := by
  unfold trees
  rw [List.filterMap_cons]
  cases m.tree? a <;> rfl

theorem trees_printed (table : List (Member α)) (a : α) :
    List.Forall₂ Grammar.PrintsMember (trees table a) (jsons table a) := by
  induction table with
  | nil => exact .nil
  | cons m table ih =>
    have first := m.printed a
    unfold trees jsons at *
    rw [List.filterMap_cons, List.filterMap_cons]
    generalize m.tree? a = tree, m.json? a = json at first
    cases first with
    | none => exact ih
    | some printed => exact .cons ⟨rfl, printed⟩ ih

theorem trees_names (table : List (Member α)) (a : α) (name : Option String)
    (member : name ∈ (trees table a).map Prod.fst) : ∃ m ∈ table, name = some m.name := by
  obtain ⟨e, inTrees, rfl⟩ := List.mem_map.1 member
  obtain ⟨m, inTable, told⟩ := List.mem_filterMap.1 inTrees
  obtain ⟨d, -, rfl⟩ := Option.map_eq_some_iff.1 told
  exact ⟨m, inTable, rfl⟩

-- Each member stands in the record once, or not at all where it is left out.
theorem trees_under (m : Member α) (table : List (Member α)) (a : α) (member : m ∈ table)
    (distinct : (table.map Member.name).Nodup) :
    Wire.under m.name (trees table a) = (m.tree? a).toList := by
  induction table with
  | nil => exact absurd member List.not_mem_nil
  | cons first table ih =>
    obtain ⟨foreign, others⟩ := List.nodup_cons.1 distinct
    rw [trees_cons, Wire.under_append]
    rcases List.mem_cons.1 member with rfl | later
    · have absent : some m.name ∉ (trees table a).map Prod.fst := fun found => by
        obtain ⟨n, inTable, same⟩ := trees_names table a _ found
        exact foreign (Option.some.inj same ▸ List.mem_map_of_mem inTable)
      rw [Wire.under_absent _ _ absent, List.append_nil]
      cases m.tree? a with
      | none => rfl
      | some d => exact Wire.under_same m.name d
    · have other : some first.name ≠ some m.name := fun same =>
        foreign (Option.some.inj same ▸ List.mem_map_of_mem later)
      rw [ih later others]
      cases first.tree? a with
      | none => rfl
      | some d => exact congrArg (· ++ _) (Wire.under_other m.name (some first.name, d) other)

end Member

def record (json : α → Json) (table : List (Member α))
    (printed : ∀ a, json a = .record (Member.jsons table a))
    (distinct : (table.map Member.name).Nodup)
    (determined : ∀ a b, (∀ m ∈ table, m.Agrees a b) → a = b) : Shape α where
  json := json
  tree a := .record (Member.trees table a) .closed
  printed a := by
    rw [printed]
    exact Grammar.record_written _ _ (Member.trees_printed table a)
  injective a b same := by
    refine determined a b fun m member => ?_
    have found := congrArg (Wire.under m.name) (Draft.record.inj same).1
    rw [Member.trees_under m table a member distinct, Member.trees_under m table b member distinct]
      at found
    simpa only [Option.head?_toList, Member.Agrees] using congrArg List.head? found

end Shape

end BuildDigest
