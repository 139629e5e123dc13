import BuildDigest.Json.Basic
import BuildDigest.Proofs.Grammar
import Mathlib.Data.List.Forall2

set_option autoImplicit false

namespace BuildDigest

namespace Grammar

theorem text_written (s : String) : Written (.text (some s)) (Json.str s).chars := by
  rw [Json.chars]
  exact .text (some s) _ (quoted_quotes s)

theorem integer_written (n : Int) (bounds : -0x8000000000000000 ≤ n ∧ n < 0x10000000000000000) :
    Written (.number (.integer n)) (Json.int n).chars := by
  obtain ⟨parts, number, value⟩ := (integer_text_iff n _).2 ⟨bounds, rfl⟩
  rw [← value, Json.chars]
  exact .number parts _ number

abbrev Prints (d : Draft) (j : Json) : Prop :=
  Written d j.chars

theorem items_written (d : Draft) (ds : List Draft) (j : Json) (js : List Json) (first : Prints d j)
    (others : List.Forall₂ Prints ds js) : WrittenItems (d :: ds) (Json.charsOfItems (j :: js)) := by
  induction others generalizing d j with
  | nil =>
    rw [Json.charsOfItems]
    exact .last d _ first.part
  | cons second _ ih =>
    rw [Json.charsOfItems]
    · exact .more d _ _ _ first.part (ih _ _ second)
    · exact nofun

theorem list_written (ds : List Draft) (js : List Json) (each : List.Forall₂ Prints ds js) :
    Prints (.list ds .closed) (.list js) := by
  rw [Prints, Json.chars]
  cases each with
  | nil => exact .emptyList [] no_blanks
  | cons first others => exact .list _ _ (items_written _ _ _ _ first others)

abbrev PrintsMember (m : Option String × Draft) (n : String × Json) : Prop :=
  m.1 = some n.1 ∧ Prints m.2 n.2

theorem name_written (name : String) : WrittenName (some name) (Json.quoted name) := by
  have named := WrittenName.mk _ [] _ [] no_blanks (quoted_quotes name) no_blanks
  rwa [List.append_nil] at named

theorem members_written (m : Option String × Draft) (ms : List (Option String × Draft))
    (n : String × Json) (ns : List (String × Json)) (first : PrintsMember m n)
    (others : List.Forall₂ PrintsMember ms ns) :
    WrittenMembers (m :: ms) (Json.charsOfMembers (n :: ns)) := by
  induction others generalizing m n with
  | nil =>
    obtain ⟨name, d⟩ := m
    obtain ⟨rfl, printed⟩ := first
    rw [Json.charsOfMembers]
    exact .last _ d _ _ (name_written n.1) printed.part
  | cons second _ ih =>
    obtain ⟨name, d⟩ := m
    obtain ⟨rfl, printed⟩ := first
    rw [Json.charsOfMembers]
    · have more := WrittenMembers.more _ d _ _ _ _ (name_written n.1) printed.part (ih _ _ second)
      simpa using more
    · exact nofun

theorem record_written (ms : List (Option String × Draft)) (ns : List (String × Json))
    (each : List.Forall₂ PrintsMember ms ns) : Prints (.record ms .closed) (.record ns) := by
  rw [Prints, Json.chars]
  cases each with
  | nil => exact .emptyRecord [] no_blanks
  | cons first others => exact .record _ _ (members_written _ _ _ _ first others)

theorem bool_written (b : Bool) : Prints (.bool b) (.bool b) := by
  cases b with
  | true => exact .yes
  | false => exact .no

def Printable (cs : List Char) : Prop :=
  ∀ c ∈ cs, 0x20 ≤ c.toNat

theorem printable_of_all (cs : List Char) (all : cs.all fun c => 0x20 ≤ c.toNat) :
    Printable cs := by
  simpa [Printable] using all

theorem escape_printable (c : Char) : Printable (Json.escape c) := by
  have digits : ∀ n < 32, 0x20 ≤ (Nat.digitChar (n / 16)).toNat ∧
      0x20 ≤ (Nat.digitChar (n % 16)).toNat := by decide
  rcases escape_cases c with ⟨e, -, printable, escape⟩ | ⟨control, escape⟩ |
    ⟨-, -, printable, escape⟩
  · rw [escape]
    simp [Printable, printable]
  · obtain ⟨high, low⟩ := digits c.toNat control
    rw [escape]
    simp [Printable, high, low]
  · rw [escape]
    simp [Printable, printable]

theorem printable_append (cs ds : List Char) (first : Printable cs) (second : Printable ds) :
    Printable (cs ++ ds) :=
  List.forall_mem_append.2 ⟨first, second⟩

theorem quoted_printable (s : String) : Printable (Json.quoted s) := by
  intro c member
  rw [Json.quoted, List.cons_append, List.mem_cons, List.mem_append, List.mem_singleton] at member
  rcases member with rfl | inner | rfl
  · decide
  · obtain ⟨d, -, escaped⟩ := List.mem_flatMap.1 inner
    exact escape_printable d c escaped
  · decide

theorem digits_printable (n : Nat) : Printable (Nat.toDigits 10 n) := by
  intro c member
  have digit : c.isDigit := Nat.isDigit_of_mem_toDigits (by decide) (by decide) member
  rw [Char.isDigit_iff_toNat] at digit
  exact Nat.le_trans (by decide) digit.1

theorem decimal_printable (n : Int) : Printable (Json.decimal n) := by
  cases n with
  | ofNat n => exact digits_printable n
  | negSucc n => exact List.forall_mem_cons.2 ⟨by decide, digits_printable (n + 1)⟩

mutual
theorem chars_printable : ∀ j : Json, Printable j.chars
  | .null => printable_of_all _ rfl
  | .bool true => printable_of_all _ rfl
  | .bool false => printable_of_all _ rfl
  | .int n => by
    rw [Json.chars]
    exact decimal_printable n
  | .str s => by
    rw [Json.chars]
    exact quoted_printable s
  | .list items => by
    rw [Json.chars]
    exact printable_append _ _ (List.forall_mem_cons.2 ⟨by decide, items_printable items⟩)
      (printable_of_all _ rfl)
  | .record members => by
    rw [Json.chars]
    exact printable_append _ _ (List.forall_mem_cons.2 ⟨by decide, members_printable members⟩)
      (printable_of_all _ rfl)
theorem items_printable : ∀ items : List Json, Printable (Json.charsOfItems items)
  | [] => printable_of_all _ rfl
  | [value] => by
    rw [Json.charsOfItems]
    exact chars_printable value
  | value :: next :: rest => by
    rw [Json.charsOfItems]
    · exact printable_append _ _ (chars_printable value)
        (List.forall_mem_cons.2 ⟨by decide, items_printable (next :: rest)⟩)
    · exact nofun
theorem members_printable :
    ∀ members : List (String × Json), Printable (Json.charsOfMembers members)
  | [] => printable_of_all _ rfl
  | [(name, value)] => by
    rw [Json.charsOfMembers]
    exact printable_append _ _ (quoted_printable name)
      (List.forall_mem_cons.2 ⟨by decide, chars_printable value⟩)
  | (name, value) :: next :: rest => by
    rw [Json.charsOfMembers]
    · refine printable_append _ _ (printable_append _ _ (quoted_printable name)
        (List.forall_mem_cons.2 ⟨by decide, chars_printable value⟩)) ?_
      exact List.forall_mem_cons.2 ⟨by decide, members_printable (next :: rest)⟩
    · exact nofun
end

theorem text_printable (j : Json) : Printable j.text.toList := by
  rw [Json.text, String.toList_ofList]
  exact chars_printable j

theorem printed_document (d : Draft) (j : Json) (printed : Prints d j) : Document d j.text := by
  rw [Document, Json.text, String.toList_ofList]
  exact printed.part

end Grammar

end BuildDigest
