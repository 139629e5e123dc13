import BuildDigest.Proofs.Grammar
import BuildDigest.Wire.Reading

set_option autoImplicit false

namespace BuildDigest

/-! ### Values that are read in full -/

namespace Draft

mutual
def depth : Draft → Nat
  | .list items _ => itemsDepth items + 1
  | .record members _ => membersDepth members + 1
  | _ => 0
def itemsDepth : List Draft → Nat
  | [] => 0
  | d :: ds => max d.depth (itemsDepth ds)
def membersDepth : List (Option String × Draft) → Nat
  | [] => 0
  | (_, d) :: ms => max d.depth (membersDepth ms)
end

-- No number is out of range, no escape leaves a surrogate alone, and the text is whole.
mutual
def Readable : Draft → Prop
  | .number n => n ≠ .huge
  | .text s => s.isSome
  | .list items stop => ReadableItems items ∧ stop = .closed
  | .record members stop => ReadableMembers members ∧ stop = .closed
  | .broken _ => False
  | _ => True
def ReadableItems : List Draft → Prop
  | [] => True
  | d :: ds => d.Readable ∧ ReadableItems ds
def ReadableMembers : List (Option String × Draft) → Prop
  | [] => True
  | (name, d) :: ms => (name.isSome ∧ d.Readable) ∧ ReadableMembers ms
end

theorem items_depth_le (items : List Draft) (room : Nat) :
    itemsDepth items ≤ room ↔ ∀ d ∈ items, d.depth ≤ room := by
  induction items with
  | nil => simp [itemsDepth]
  | cons d ds ih => rw [itemsDepth, Nat.max_le, ih, List.forall_mem_cons]

theorem members_depth_le (members : List (Option String × Draft)) (room : Nat) :
    membersDepth members ≤ room ↔ ∀ m ∈ members, m.2.depth ≤ room := by
  induction members with
  | nil => simp [membersDepth]
  | cons m ms ih => rw [membersDepth, Nat.max_le, ih, List.forall_mem_cons]

theorem readable_items_iff (items : List Draft) :
    ReadableItems items ↔ ∀ d ∈ items, d.Readable := by
  induction items with
  | nil => simp [ReadableItems]
  | cons d ds ih => rw [ReadableItems, ih, List.forall_mem_cons]

theorem readable_members_iff (members : List (Option String × Draft)) :
    ReadableMembers members ↔ ∀ m ∈ members, m.1.isSome ∧ m.2.Readable := by
  induction members with
  | nil => simp [ReadableMembers]
  | cons m ms ih => rw [ReadableMembers, ih, List.forall_mem_cons]

theorem Readable.sound (d : Draft) (readable : d.Readable) : d.fault? = none := by
  cases d with
  | list items stop =>
    obtain ⟨-, rfl⟩ := readable
    rfl
  | record members stop =>
    obtain ⟨-, rfl⟩ := readable
    rfl
  | broken fault => exact readable.elim
  | _ => rfl

theorem skip_iff (d : Draft) : d.skip = .ok () ↔ d.fault? = none := by
  unfold skip
  cases d.fault? with
  | none => exact ⟨fun _ => rfl, fun _ => rfl⟩
  | some fault => exact ⟨nofun, nofun⟩

theorem ended_iff (stop : Stop) : stop.ended = .ok () ↔ stop = .closed := by
  cases stop with
  | closed => exact ⟨fun _ => rfl, fun _ => rfl⟩
  | cut comma fault => exact ⟨nofun, nofun⟩

theorem ended_at_once_iff (stop : Stop) : stop.endedAtOnce = .ok () ↔ stop = .closed := by
  cases stop with
  | closed => exact ⟨fun _ => rfl, fun _ => rfl⟩
  | cut comma fault => cases comma <;> exact ⟨nofun, nofun⟩

theorem read_text_iff (d : Draft) (s : String) : d.readText = .ok s ↔ d = .text (some s) := by
  cases d with
  | text found => cases found <;> simp [readText]
  | _ => exact ⟨nofun, nofun⟩

theorem read_named_iff (name : Option String) (room : Nat) (d : Draft) :
    (readName name >>= fun _ => d.readAny room) = .ok () ↔
      name.isSome ∧ d.readAny room = .ok () := by
  cases name with
  | none => exact ⟨nofun, nofun⟩
  | some found => simp [readName, ok_bind]

theorem read_any_iff (room : Nat) (d : Draft) :
    d.readAny room = .ok () ↔ d.Readable ∧ d.depth ≤ room := by
  induction room generalizing d with
  | zero =>
    cases d with
    | text s => cases s <;> simp [readAny, Readable, depth]
    | _ => simp [readAny, Readable, depth]
  | succ room ih =>
    cases d with
    | list items stop =>
      simp only [readAny, then_ok_iff, for_each_ok_iff, ended_iff, ih, Readable, depth,
        Nat.succ_le_succ_iff, readable_items_iff, items_depth_le]
      grind
    | record members stop =>
      simp only [readAny, then_ok_iff, for_each_ok_iff, read_named_iff, ended_iff, ih, Readable,
        depth, Nat.succ_le_succ_iff, readable_members_iff, members_depth_le]
      grind
    | text s => cases s <;> simp [readAny, Readable, depth]
    | _ => simp [readAny, Readable, depth]

theorem list_depth_le (items : List Draft) (stop : Stop) (room : Nat) :
    (list items stop).depth ≤ room + 1 ↔ ∀ d ∈ items, d.depth ≤ room := by
  rw [depth, Nat.succ_le_succ_iff, items_depth_le]

theorem record_depth_le (members : List (Option String × Draft)) (stop : Stop) (room : Nat) :
    (record members stop).depth ≤ room + 1 ↔ ∀ m ∈ members, m.2.depth ≤ room := by
  rw [depth, Nat.succ_le_succ_iff, members_depth_le]

theorem list_room (items : List Draft) (stop : Stop) (room : Nat)
    (fits : (list items stop).depth ≤ room) :
    ∃ less, room = less + 1 ∧ ∀ d ∈ items, d.depth ≤ less := by
  cases room with
  | zero => exact absurd fits (Nat.not_succ_le_zero _)
  | succ less => exact ⟨less, rfl, (list_depth_le items stop less).1 fits⟩

theorem record_room (members : List (Option String × Draft)) (stop : Stop) (room : Nat)
    (fits : (record members stop).depth ≤ room) :
    ∃ less, room = less + 1 ∧ ∀ m ∈ members, m.2.depth ≤ less := by
  cases room with
  | zero => exact absurd fits (Nat.not_succ_le_zero _)
  | succ less => exact ⟨less, rfl, (record_depth_le members stop less).1 fits⟩

end Draft

/-! ### Records -/

namespace Wire

def under (name : String) (members : List (Option String × Draft)) : List Draft :=
  members.filterMap fun m => if m.1 = some name then some m.2 else none

def Foreign (fs : List Field) (m : Option String × Draft) : Prop :=
  ∀ f ∈ fs, m.1 ≠ some f.name

def Holds (read : Reader) (f : Field) (v : f.slot.Value) : List Draft → Prop
  | [] => f.absent = some v
  | [d] => readSlot read f.slot d = .ok v
  | _ => False

def HoldsRow (read : Reader) : (fs : List Field) → Row fs → List (Option String × Draft) → Prop
  | [], _, _ => True
  | f :: fs, (v, row), members =>
      Holds read f v (under f.name members) ∧ HoldsRow read fs row members

-- What a field holds after the values under its name, given what it held before.
def Takes (read : Reader) (f : Field) : Option f.slot.Value → List Draft → Option f.slot.Value → Prop
  | before, [], after => before = after
  | none, [d], after => ∃ v, readSlot read f.slot d = .ok v ∧ some v = after
  | _, _, _ => False

def TakesRow (read : Reader) :
    (fs : List Field) → Found fs → List (Option String × Draft) → Found fs → Prop
  | [], _, _, _ => True
  | f :: fs, (before, found), members, (after, left) =>
      Takes read f before (under f.name members) after ∧ TakesRow read fs found members left

theorem under_append (name : String) (members others : List (Option String × Draft)) :
    under name (members ++ others) = under name members ++ under name others :=
  List.filterMap_append

theorem under_perm (name : String) (members ordered : List (Option String × Draft))
    (order : members.Perm ordered) : (under name members).Perm (under name ordered) :=
  order.filterMap _

theorem under_cons (name : String) (m : Option String × Draft)
    (members : List (Option String × Draft)) :
    under name (m :: members) = under name [m] ++ under name members :=
  under_append name [m] members

theorem under_other (name : String) (m : Option String × Draft) (other : m.1 ≠ some name) :
    under name [m] = [] := by
  simp [under, other]

theorem under_same (name : String) (d : Draft) : under name [(some name, d)] = [d] := by
  simp [under]

variable (read : Reader)

theorem takes_append (f : Field) (before after : Option f.slot.Value) (ds es : List Draft) :
    Takes read f before (ds ++ es) after ↔
      ∃ between, Takes read f before ds between ∧ Takes read f between es after := by
  cases ds with
  | nil => simp [Takes]
  | cons d ds =>
    cases before with
    | some v => cases ds <;> simp [Takes]
    | none =>
      cases ds with
      | cons e ds => simp [Takes]
      | nil =>
        cases es with
        | nil => simp [Takes]
        | cons e es => simp [Takes]

theorem takes_row_nil (fs : List Field) (before after : Found fs) :
    TakesRow read fs before [] after ↔ before = after := by
  induction fs with
  | nil => exact iff_of_true trivial rfl
  | cons f fs ih =>
    obtain ⟨value, found⟩ := before
    obtain ⟨now, left⟩ := after
    simp [TakesRow, under, Takes, ih]

theorem takes_row_cons (fs : List Field) (before after : Found fs) (m : Option String × Draft)
    (members : List (Option String × Draft)) :
    TakesRow read fs before (m :: members) after ↔
      ∃ between, TakesRow read fs before [m] between ∧ TakesRow read fs between members after := by
  induction fs with
  | nil => exact iff_of_true trivial ⟨(), trivial, trivial⟩
  | cons f fs ih =>
    obtain ⟨value, found⟩ := before
    obtain ⟨now, left⟩ := after
    rw [TakesRow, under_cons, takes_append, ih]
    constructor
    · rintro ⟨⟨v, first, last⟩, rest, others, more⟩
      exact ⟨(v, rest), ⟨first, others⟩, last, more⟩
    · rintro ⟨⟨v, rest⟩, ⟨first, others⟩, last, more⟩
      exact ⟨⟨v, first, last⟩, rest, others, more⟩

theorem takes_row_foreign (fs : List Field) (before after : Found fs) (m : Option String × Draft)
    (foreign : Foreign fs m) : TakesRow read fs before [m] after ↔ before = after := by
  induction fs with
  | nil => exact iff_of_true trivial rfl
  | cons f fs ih =>
    obtain ⟨value, found⟩ := before
    obtain ⟨now, left⟩ := after
    obtain ⟨other, others⟩ := List.forall_mem_cons.1 foreign
    rw [TakesRow, under_other _ _ other, Takes, ih _ _ others, Prod.mk.injEq]

theorem put_foreign (fs : List Field) (found : Found fs) (name : String) (d : Draft)
    (foreign : Foreign fs (some name, d)) :
    Found.put name (fun f => readSlot read f.slot d) fs found = none := by
  induction fs with
  | nil => rfl
  | cons f fs ih =>
    obtain ⟨value, found⟩ := found
    obtain ⟨other, others⟩ := List.forall_mem_cons.1 foreign
    unfold Found.put
    rw [if_neg (fun same => other (congrArg some same.symm)), ih found others, Option.map_none]

theorem put_field (fs : List Field) (found : Found fs) (name : String) (d : Draft)
    (distinct : (fs.map Field.name).Nodup) (field : name ∈ fs.map Field.name) :
    ∃ result, Found.put name (fun f => readSlot read f.slot d) fs found = some result ∧
      ∀ after, result = .ok after ↔ TakesRow read fs found [(some name, d)] after := by
  induction fs with
  | nil => cases field
  | cons f fs ih =>
    obtain ⟨value, found⟩ := found
    obtain ⟨fresh, distinct⟩ := List.nodup_cons.1 distinct
    by_cases same : f.name = name
    · subst same
      have foreign : Foreign fs (some f.name, d) := fun other member same =>
        fresh (List.mem_map.2 ⟨other, member, (Option.some.inj same).symm⟩)
      unfold Found.put
      rw [if_pos rfl]
      cases value with
      | some v =>
        refine ⟨_, rfl, fun ⟨now, left⟩ => ?_⟩
        simp [TakesRow, under_same, Takes]
      | none =>
        refine ⟨_, rfl, fun ⟨now, left⟩ => ?_⟩
        rw [bind_ok_iff, TakesRow, under_same, takes_row_foreign read fs _ _ _ foreign, Takes]
        constructor
        · rintro ⟨v, held, same⟩
          cases same
          exact ⟨⟨v, held, rfl⟩, rfl⟩
        · rintro ⟨⟨v, held, rfl⟩, rfl⟩
          exact ⟨v, held, rfl⟩
    · have later : name ∈ fs.map Field.name :=
        (List.mem_cons.1 field).resolve_left (fun first => same first.symm)
      obtain ⟨result, placed, spec⟩ := ih found distinct later
      unfold Found.put
      rw [if_neg same, placed, Option.map_some]
      refine ⟨_, rfl, fun ⟨now, left⟩ => ?_⟩
      rw [TakesRow, under_other _ _ (fun first => same (Option.some.inj first).symm), Takes, ← spec,
        bind_ok_iff]
      constructor
      · rintro ⟨after, rfl, same⟩
        cases same
        exact ⟨rfl, rfl⟩
      · rintro ⟨rfl, rfl⟩
        exact ⟨left, rfl, rfl⟩

theorem read_members_iff (fs : List Field) (before after : Found fs)
    (members : List (Option String × Draft)) (distinct : (fs.map Field.name).Nodup) :
    readMembers read fs before members = .ok after ↔
      (∀ m ∈ members, m.1.isSome ∧ (Foreign fs m → m.2.fault? = none)) ∧
        TakesRow read fs before members after := by
  induction members generalizing before with
  | nil =>
    rw [readMembers, takes_row_nil, Except.ok.injEq]
    exact (and_iff_right (fun _ member => nomatch member)).symm
  | cons m members ih =>
    obtain ⟨name, d⟩ := m
    rw [List.forall_mem_cons, takes_row_cons]
    cases name with
    | none => exact ⟨nofun, fun ⟨⟨⟨named, _⟩, _⟩, _⟩ => nomatch named⟩
    | some name =>
      rw [readMembers, Draft.readName, ok_bind]
      by_cases field : name ∈ fs.map Field.name
      · obtain ⟨result, placed, spec⟩ := put_field read fs before name d distinct field
        have noForeign : ¬Foreign fs (some name, d) := fun foreign => by
          obtain ⟨f, member, rfl⟩ := List.mem_map.1 field
          exact foreign f member rfl
        simp only [placed, bind_ok_iff, spec, ih, Option.isSome_some, noForeign, false_implies,
          true_and]
        exact ⟨fun ⟨found, first, whole, others⟩ => ⟨whole, found, first, others⟩,
          fun ⟨whole, found, first, others⟩ => ⟨found, first, whole, others⟩⟩
      · have foreign : Foreign fs (some name, d) := fun f member same =>
          field (List.mem_map.2 ⟨f, member, (Option.some.inj same).symm⟩)
        simp only [put_foreign read fs before name d foreign, then_ok_iff, Draft.skip_iff, ih,
          Option.isSome_some, foreign, true_implies, true_and, takes_row_foreign read fs _ _ _ foreign,
          exists_eq_left', and_assoc]

theorem holds_iff (f : Field) (v : f.slot.Value) (ds : List Draft) :
    Holds read f v ds ↔ ∃ now, Takes read f none ds now ∧ now.or f.absent = some v := by
  cases ds with
  | nil => simp [Holds, Takes]
  | cons d ds =>
    cases ds with
    | nil => simp [Holds, Takes]
    | cons e ds => simp [Holds, Takes]

theorem complete_cons (f : Field) (fs : List Field) (now : Option f.slot.Value) (found : Found fs)
    (v : f.slot.Value) (row : Row fs) :
    Found.complete (f :: fs) (now, found) = .ok (v, row) ↔
      now.or f.absent = some v ∧ found.complete = .ok row := by
  cases given : now.or f.absent with
  | none =>
    have unfolded : Found.complete (f :: fs) (now, found) = .error .mismatched := by
      rw [Found.complete, given]
    simp [unfolded]
  | some held =>
    have unfolded : Found.complete (f :: fs) (now, found) =
        (found.complete >>= fun rest => .ok (held, rest)) := by
      rw [Found.complete, given]
      rfl
    rw [unfolded, bind_ok_iff]
    constructor
    · rintro ⟨rest, completed, same⟩
      cases same
      exact ⟨rfl, completed⟩
    · rintro ⟨same, completed⟩
      cases same
      exact ⟨row, completed, rfl⟩

theorem holds_row_iff (fs : List Field) (members : List (Option String × Draft)) (row : Row fs) :
    HoldsRow read fs row members ↔
      ∃ found, TakesRow read fs (Found.nothing fs) members found ∧ found.complete = .ok row := by
  induction fs with
  | nil => exact iff_of_true trivial ⟨(), trivial, rfl⟩
  | cons f fs ih =>
    obtain ⟨v, row⟩ := row
    rw [HoldsRow, holds_iff, ih]
    constructor
    · rintro ⟨⟨now, taken, held⟩, found, others, completed⟩
      exact ⟨(now, found), ⟨taken, others⟩, (complete_cons f fs now found v row).2 ⟨held, completed⟩⟩
    · rintro ⟨⟨now, found⟩, ⟨taken, others⟩, completed⟩
      obtain ⟨held, rest⟩ := (complete_cons f fs now found v row).1 completed
      exact ⟨⟨now, taken, held⟩, found, others, rest⟩

theorem read_record_iff (fs : List Field) (members : List (Option String × Draft)) (stop : Stop)
    (row : Row fs) (distinct : (fs.map Field.name).Nodup) :
    readRecord read fs members stop = .ok row ↔
      stop = .closed ∧ (∀ m ∈ members, m.1.isSome ∧ (Foreign fs m → m.2.fault? = none)) ∧
        HoldsRow read fs row members := by
  rw [readRecord, bind_ok_iff, holds_row_iff]
  simp only [then_ok_iff, Draft.ended_iff, read_members_iff read fs _ _ _ distinct]
  constructor
  · rintro ⟨found, ⟨whole, taken⟩, closed, completed⟩
    exact ⟨closed, whole, found, taken, completed⟩
  · rintro ⟨closed, whole, found, taken, completed⟩
    exact ⟨found, ⟨whole, taken⟩, closed, completed⟩

theorem field_names_distinct (m : Message) : (m.layout.fields.map Field.name).Nodup := by
  cases m <;> decide

theorem kind_no_field (kind : Kind) : kindName ∉ kind.message.layout.fields.map Field.name := by
  cases kind <;> decide

theorem kind_foreign (kind : Kind) (d : Draft) :
    Foreign kind.message.layout.fields (some kindName, d) :=
  fun f member same => kind_no_field kind (List.mem_map.2 ⟨f, member, (Option.some.inj same).symm⟩)

/-! ### Payloads -/

abbrev kindField : Field := ⟨kindName, .plain .text, none⟩

theorem read_kind_iff (room : Nat) (before after : Option String)
    (members : List (Option String × Draft)) :
    readKind room before members = .ok after ↔
      (∀ m ∈ members, m.1.isSome ∧ (m.1 ≠ some kindName → m.2.readAny room = .ok ())) ∧
        Takes (Wire.read 0 false) kindField before (under kindName members) after := by
  induction members generalizing before with
  | nil =>
    rw [readKind, under, List.filterMap_nil, Takes, Except.ok.injEq]
    exact (and_iff_right (fun _ member => nomatch member)).symm
  | cons m members ih =>
    obtain ⟨name, d⟩ := m
    rw [List.forall_mem_cons, under_cons, takes_append]
    cases name with
    | none => exact ⟨nofun, fun ⟨⟨⟨named, _⟩, _⟩, _⟩ => nomatch named⟩
    | some name =>
      unfold readKind
      rw [Draft.readName, ok_bind]
      by_cases same : name = kindName
      · subst same
        rw [if_pos rfl, under_same]
        cases before with
        | some s => simp [Takes]
        | none =>
          constructor
          · intro ok
            obtain ⟨s, text, others⟩ := (bind_ok_iff _ _ _).1 ok
            obtain ⟨whole, taken⟩ := (ih (some s)).1 others
            exact ⟨⟨⟨rfl, fun other => absurd rfl other⟩, whole⟩, some s, ⟨s, text, rfl⟩, taken⟩
          · rintro ⟨⟨-, whole⟩, between, ⟨s, text, rfl⟩, taken⟩
            exact (bind_ok_iff _ _ _).2 ⟨s, text, (ih (some s)).2 ⟨whole, taken⟩⟩
      · have other : (some name : Option String) ≠ some kindName := fun h => same (Option.some.inj h)
        rw [if_neg same, under_other _ _ other]
        simp only [then_ok_iff, ih, Takes, Option.isSome_some, other, ne_eq, not_false_eq_true,
          true_implies, true_and, exists_eq_left', and_assoc]

theorem takes_kind_iff (kind : String) (ds : List Draft) :
    Takes (Wire.read 0 false) kindField none ds (some kind) ↔ ds = [.text (some kind)] := by
  have reads (d : Draft) (s : String) :
      readSlot (Wire.read 0 false) kindField.slot d = .ok s ↔ d = .text (some s) :=
    Draft.read_text_iff d s
  cases ds with
  | nil => simp [Takes]
  | cons d ds =>
    cases ds with
    | nil => simp only [Takes, reads, Option.some.injEq, exists_eq_right, List.cons.injEq, and_true]
    | cons e ds => simp [Takes]

theorem mem_under (name : String) (members : List (Option String × Draft)) (d : Draft) :
    d ∈ under name members ↔ (some name, d) ∈ members := by
  rw [under, List.mem_filterMap]
  constructor
  · rintro ⟨⟨found, e⟩, member, same⟩
    split at same
    · next named =>
      cases same
      exact named ▸ member
    · cases same
  · exact fun member => ⟨_, member, if_pos rfl⟩

theorem read_payload_iff (room : Nat) (members : List (Option String × Draft)) (stop : Stop)
    (p : Payload) :
    readPayload room read (.record members stop) = .ok p ↔
      stop = .closed ∧ ∃ kind,
        under kindName members = [.text (some kind)] ∧
        (∀ m ∈ members, m.1.isSome ∧ m.2.Readable ∧ m.2.depth ≤ room) ∧
        readContents kind (.ok .unknown) (fun fs =>
          readRecord read fs (members.filter fun m => m.1 ≠ some kindName) .closed) = .ok p := by
  simp only [readPayload, bind_ok_iff (readKind _ _ _), then_ok_iff, Draft.ended_iff,
    ← Draft.read_any_iff]
  constructor
  · rintro ⟨found, kinds, closed, contents⟩
    obtain ⟨whole, taken⟩ := (read_kind_iff room none found members).1 kinds
    cases found with
    | none => cases contents
    | some kind =>
      have told := (takes_kind_iff kind _).1 taken
      refine ⟨closed, kind, told, fun m member => ⟨(whole m member).1, ?_⟩, contents⟩
      by_cases named : m.1 = some kindName
      · have text : m.2 ∈ under kindName members := (mem_under _ _ _).2 (named ▸ member)
        rw [told, List.mem_singleton] at text
        rw [text]
        cases room <;> rfl
      · exact (whole m member).2 named
  · rintro ⟨closed, kind, told, whole, contents⟩
    have taken := (takes_kind_iff kind _).2 told
    exact ⟨some kind, (read_kind_iff room none (some kind) members).2
      ⟨fun m member => ⟨(whole m member).1, fun _ => (whole m member).2⟩, taken⟩, closed, contents⟩

theorem packed_iff {α : Type} (layout : Layout α) (found : Except Flaw (Row layout.fields)) (a : α) :
    (found >>= fun row => .ok (layout.pack row)) = .ok a ↔ found = .ok (layout.unpack a) := by
  cases found with
  | error flaw => exact ⟨nofun, nofun⟩
  | ok row =>
    rw [ok_bind, Except.ok.injEq, Except.ok.injEq]
    constructor
    · rintro rfl
      exact (layout.unpack_pack row).symm
    · rintro rfl
      exact layout.pack_unpack a

theorem read_contents_iff (kind : String) (unknown : Except Flaw Payload)
    (row : (fs : List Field) → Except Flaw (Row fs)) (p : Payload) :
    readContents kind unknown row = .ok p ↔
      match (Word.ofName? kind : Option Kind) with
      | none => unknown = .ok p
      | some known => ∃ v, row known.message.layout.fields = .ok (known.message.layout.unpack v) ∧
          Payload.of known v = p := by
  unfold readContents
  cases (Word.ofName? kind : Option Kind) with
  | none => exact Iff.rfl
  | some known =>
    dsimp only
    cases found : row known.message.layout.fields with
    | error flaw => exact ⟨nofun, nofun⟩
    | ok r =>
      simp only [Except.map, Except.mapError, Except.ok.injEq]
      constructor
      · rintro rfl
        exact ⟨_, (known.message.layout.unpack_pack r).symm, rfl⟩
      · rintro ⟨v, rfl, rfl⟩
        rw [known.message.layout.pack_unpack]

/-! ### Values -/

abbrev Slot.base : Slot → Base
  | .plain base => base
  | .optional base => base

theorem read_optional (base : Base) (d : Draft) (other : d ≠ .null) :
    readSlot read (.optional base) d = (read base d >>= fun v => .ok (some v)) := by
  cases d with
  | null => exact absurd rfl other
  | _ => rfl

-- A container is read if there is room for it, and its parts then have room for one less.
theorem entered_iff {α : Type} (container : Nat → Except Flaw α) (parts : Nat → Prop) (v : α)
    (room : Nat) (full : container 0 = .error .malformed)
    (entered : ∀ less, container (less + 1) = .ok v ↔ parts less) :
    container room = .ok v ↔ ∃ less, room = less + 1 ∧ parts less := by
  cases room with
  | zero =>
    rw [full]
    exact ⟨nofun, fun ⟨_, same, _⟩ => nomatch same⟩
  | succ less => simp only [entered, Nat.succ.injEq, exists_eq_left']

theorem read_message_record (room : Nat) (held : Bool) (m : Message)
    (members : List (Option String × Draft)) (stop : Stop) (v : m.Type) :
    Wire.read room held (.message m) (.record members stop) = .ok v ↔
      ∃ less, room = less + 1 ∧
        readRecord (Wire.read less held) m.layout.fields members stop = .ok (m.layout.unpack v) :=
  entered_iff (fun room => Wire.read room held (.message m) (.record members stop)) _ v room rfl
    fun _ => packed_iff m.layout _ v

theorem read_message_list (room : Nat) (held : Bool) (m : Message) (items : List Draft)
    (stop : Stop) (v : m.Type) :
    Wire.read room held (.message m) (.list items stop) = .ok v ↔
      ∃ less, room = less + 1 ∧
        readItems (Wire.read less held) m.layout.fields items stop = .ok (m.layout.unpack v) :=
  entered_iff (fun room => Wire.read room held (.message m) (.list items stop)) _ v room rfl
    fun _ => packed_iff m.layout _ v

theorem read_payload_row_iff (room : Nat) (items : List Draft) (stop : Stop) (p : Payload) :
    readPayload room read (.list items stop) = .ok p ↔
      stop = .closed ∧ ∃ kind rest, items = .text (some kind) :: rest ∧
        (∀ d ∈ rest, d.Readable ∧ d.depth ≤ room) ∧
        readContents kind (if rest.isEmpty then .ok .unknown else .error .mismatched)
          (fun fs => readItems read fs rest .closed) = .ok p := by
  cases items with
  | nil => simp [readPayload, then_ok_iff]
  | cons first items =>
    simp only [readPayload, bind_ok_iff (Draft.readText _), then_ok_iff, for_each_ok_iff,
      Draft.ended_iff, Draft.read_text_iff, Draft.read_any_iff, List.cons.injEq]
    constructor
    · rintro ⟨kind, rfl, whole, closed, contents⟩
      exact ⟨closed, kind, items, ⟨rfl, rfl⟩, whole, contents⟩
    · rintro ⟨closed, kind, rest, ⟨rfl, rfl⟩, whole, contents⟩
      exact ⟨kind, rfl, whole, closed, contents⟩

theorem read_payload_record (room : Nat) (held : Bool) (members : List (Option String × Draft))
    (stop : Stop) (p : Payload) :
    Wire.read room held .payload (.record members stop) = .ok p ↔
      ∃ less, room = less + 1 ∧
        readPayload less (Wire.read less true) (.record members stop) = .ok p :=
  entered_iff (fun room => Wire.read room held .payload (.record members stop)) _ p room rfl
    fun _ => Iff.rfl

theorem read_payload_list (room : Nat) (held : Bool) (items : List Draft) (stop : Stop)
    (p : Payload) :
    Wire.read room held .payload (.list items stop) = .ok p ↔
      ∃ less, room = less + 1 ∧
        readPayload less (Wire.read less true) (.list items stop) = .ok p :=
  entered_iff (fun room => Wire.read room held .payload (.list items stop)) _ p room rfl
    fun _ => Iff.rfl

theorem read_unknown_payload (room : Nat) (held : Bool) (members : List (Option String × Draft))
    (kind : String) (told : under kindName members = [.text (some kind)])
    (unknown : (Word.ofName? kind : Option Kind) = none)
    (readable : ∀ m ∈ members, m.1.isSome ∧ m.2.Readable ∧ m.2.depth ≤ room) :
    Wire.read (room + 1) held .payload (.record members .closed) = .ok .unknown := by
  refine (read_payload_record _ held members .closed .unknown).2 ⟨room, rfl,
    (read_payload_iff _ room members .closed .unknown).2 ⟨rfl, kind, told, readable, ?_⟩⟩
  rw [read_contents_iff, unknown]

theorem read_list (room : Nat) (held : Bool) (item : Base) (items : List Draft) (stop : Stop)
    (vs : List item.Value) :
    Wire.read room held (.list item) (.list items stop) = .ok vs ↔
      ∃ less, room = less + 1 ∧
        List.Forall₂ (fun d v => Wire.read less held item d = .ok v) items vs ∧
        stop = .closed := by
  refine entered_iff (fun room => Wire.read room held (.list item) (.list items stop)) _ vs room rfl
    fun less => ?_
  simp only [Wire.read, readLevel, enter, Nat.add_one_ne_zero, if_false,
    bind_ok_iff (List.mapM _ _), then_ok_iff, Draft.ended_iff, ← map_ok_iff]
  constructor
  · rintro ⟨found, read, closed, same⟩
    cases same
    exact ⟨read, closed⟩
  · rintro ⟨read, closed⟩
    exact ⟨vs, read, closed, rfl⟩

theorem read_items_closed (fs : List Field) (items : List Draft) (stop : Stop) (row : Row fs)
    (ok : readItems read fs items stop = .ok row) : stop = .closed := by
  induction fs generalizing items with
  | nil =>
    cases items with
    | nil => exact (Draft.ended_at_once_iff stop).1 ok
    | cons d ds => cases ok
  | cons f fs ih =>
    cases items with
    | nil => exact (Draft.ended_iff stop).1 ((then_ok_iff _ _ _).1 ok).1
    | cons d ds =>
      obtain ⟨v, -, others⟩ := (bind_ok_iff _ _ _).1 ok
      obtain ⟨rest, read, -⟩ := (bind_ok_iff _ _ _).1 others
      exact ih ds rest read

theorem read_message_whole (room : Nat) (held : Bool) (m : Message) (d : Draft) (v : m.Type)
    (ok : Wire.read room held (.message m) d = .ok v) : d.fault? = none := by
  cases d with
  | record members stop =>
    obtain ⟨less, -, read⟩ := (read_message_record room held m members stop v).1 ok
    obtain ⟨rfl, -⟩ := (read_record_iff _ _ _ _ _ (field_names_distinct m)).1 read
    rfl
  | list items stop =>
    obtain ⟨less, -, read⟩ := (read_message_list room held m items stop v).1 ok
    cases read_items_closed _ _ _ _ _ read
    rfl
  | broken fault => cases room <;> cases ok
  | _ => rfl

end Wire

/-! ### Events -/

theorem event_of_document (d : Draft) (text : String) (document : Grammar.Document d text) :
    Event.ofText? text = Wire.read Wire.depthLimit false (.message .event) d :=
  Grammar.read_document _ d text document

theorem document_of_event (text : String) (e : Event) (ok : Event.ofText? text = .ok e) :
    ∃ d, Grammar.Document d text ∧ Wire.read Wire.depthLimit false (.message .event) d = .ok e :=
  Grammar.read_text_ok _ text e (Wire.read_message_whole _ _ .event) ok

end BuildDigest
