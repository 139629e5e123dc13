import BuildDigest.Proofs.Moments
import BuildDigest.Proofs.Printing
import BuildDigest.Proofs.Records
import Mathlib

set_option autoImplicit false

namespace BuildDigest.Wire

/-! ### Renderings -/

mutual
inductive Renders : (base : Base) → base.Value → Draft → Prop
  | bool (b : Bool) : Renders .bool b (.bool b)
  | int32 (n : Int32) : Renders .int32 n (.number (.integer n.toInt))
  | int64 (n : Int64) : Renders .int64 n (.number (.integer n.toInt))
  | uint64 (n : UInt64) : Renders .uint64 n (.number (.integer n.toNat))
  | text (s : String) : Renders .text s (.text (some s))
  | time (t : Timestamp) : Renders .time t (.text (some t.text))
  | texts (texts : KeyMap String) (entries : List (String × String))
      (order : entries.Perm texts.entries) :
      Renders .texts texts (.record (entries.map fun e => (some e.1, .text (some e.2))) .closed)
  | choice (c : Choice) (word : c.Type) : Renders (.choice c) word (.text (some (Word.name word)))
  | message (m : Message) (v : m.Type) (ordered members : List (Option String × Draft))
      (row : RendersRow m.layout.fields (m.layout.unpack v) ordered)
      (order : members.Perm ordered) : Renders (.message m) v (.record members .closed)
  | payload (kind : Kind) (v : kind.message.Type) (ordered members : List (Option String × Draft))
      (row : RendersRow kind.message.layout.fields (kind.message.layout.unpack v) ordered)
      (order : members.Perm ((some kindName, .text (some (Word.name kind))) :: ordered)) :
      Renders .payload (.of kind v) (.record members .closed)
  | unknown (kind : String) (other : (Word.ofName? kind : Option Kind) = none) :
      Renders .payload .unknown (.record [(some kindName, .text (some kind))] .closed)
  | list (item : Base) (vs : List item.Value) (ds : List Draft) (items : RendersItems item vs ds) :
      Renders (.list item) vs (.list ds .closed)
inductive RendersItems : (item : Base) → List item.Value → List Draft → Prop
  | nil (item : Base) : RendersItems item [] []
  | cons (item : Base) (v : item.Value) (vs : List item.Value) (d : Draft) (ds : List Draft)
      (first : Renders item v d) (others : RendersItems item vs ds) :
      RendersItems item (v :: vs) (d :: ds)
inductive RendersSlot : (slot : Slot) → slot.Value → Draft → Prop
  | plain (base : Base) (v : base.Value) (d : Draft) (value : Renders base v d) :
      RendersSlot (.plain base) v d
  | none (base : Base) : RendersSlot (.optional base) none .null
  | some (base : Base) (v : base.Value) (d : Draft) (value : Renders base v d) :
      RendersSlot (.optional base) (some v) d
inductive RendersRow : (fs : List Field) → Row fs → List (Option String × Draft) → Prop
  | nil : RendersRow [] () []
  | cons (f : Field) (fs : List Field) (v : f.slot.Value) (row : Row fs) (d : Draft)
      (members : List (Option String × Draft)) (slot : RendersSlot f.slot v d)
      (others : RendersRow fs row members) :
      RendersRow (f :: fs) (v, row) ((some f.name, d) :: members)
end

/-! ### What is rendered is readable and can be written -/

def Sayable (d : Draft) : Prop :=
  d.Readable ∧ ∃ text, Grammar.Written d text

theorem sayable_text (s : String) : Sayable (.text (some s)) :=
  ⟨rfl, _, Grammar.text_written s⟩

theorem sayable_integer (n : Int) (within : -0x8000000000000000 ≤ n ∧ n < 0x10000000000000000) :
    Sayable (.number (.integer n)) :=
  ⟨Numeral.noConfusion, _, Grammar.integer_written n within⟩

theorem sayable_list (ds : List Draft) (items : ∀ d ∈ ds, Sayable d) :
    Sayable (.list ds .closed) :=
  ⟨⟨(Draft.readable_items_iff ds).2 fun d member => (items d member).1, rfl⟩,
    Grammar.list_exists ds fun d member => (items d member).2⟩

theorem sayable_record (members : List (Option String × Draft))
    (parts : ∀ m ∈ members, m.1.isSome ∧ Sayable m.2) : Sayable (.record members .closed) :=
  ⟨⟨(Draft.readable_members_iff members).2 fun m member =>
      ⟨(parts m member).1, (parts m member).2.1⟩, rfl⟩,
    Grammar.record_exists members fun m member => ⟨(parts m member).1, (parts m member).2.2⟩⟩

theorem sayable_beside_kind (kind : String) (ordered members : List (Option String × Draft))
    (order : members.Perm ((some kindName, .text (some kind)) :: ordered))
    (parts : ∀ m ∈ ordered, m.1.isSome ∧ Sayable m.2) : Sayable (.record members .closed) := by
  refine sayable_record members fun m member => ?_
  rcases List.mem_cons.1 (order.subset member) with rfl | contents
  · exact ⟨rfl, sayable_text kind⟩
  · exact parts m contents

mutual
theorem Renders.sayable : ∀ {base : Base} {v : base.Value} {d : Draft},
    Renders base v d → Sayable d
  | _, _, _, .bool b => by
    cases b with
    | true => exact ⟨trivial, _, .yes⟩
    | false => exact ⟨trivial, _, .no⟩
  | _, _, _, .int32 n => by
    have bounds := And.intro n.le_toInt n.toInt_lt
    exact sayable_integer n.toInt (by omega)
  | _, _, _, .int64 n => by
    have bounds := And.intro n.le_toInt n.toInt_lt
    exact sayable_integer n.toInt (by omega)
  | _, _, _, .uint64 n => by
    have bound := n.toNat_lt
    exact sayable_integer n.toNat (by omega)
  | _, _, _, .text s => sayable_text s
  | _, _, _, .time t => sayable_text t.text
  | _, _, _, .texts texts entries order => by
    refine sayable_record _ fun m member => ?_
    obtain ⟨e, -, rfl⟩ := List.mem_map.1 member
    exact ⟨rfl, sayable_text e.2⟩
  | _, _, _, .choice c word => sayable_text (Word.name word)
  | _, _, _, .message m v ordered members row order => by
    have parts := row.sayable
    exact sayable_record members fun m member => parts m (order.subset member)
  | _, _, _, .payload kind v ordered members row order =>
    sayable_beside_kind (Word.name kind) ordered members order row.sayable
  | _, _, _, .unknown kind other =>
    sayable_beside_kind kind [] _ (.refl _) (List.forall_mem_nil _)
  | _, _, _, .list item vs ds items => sayable_list ds items.sayable
theorem RendersItems.sayable : ∀ {item : Base} {vs : List item.Value} {ds : List Draft},
    RendersItems item vs ds → ∀ d ∈ ds, Sayable d
  | _, _, _, .nil _ => fun _ member => nomatch member
  | _, _, _, .cons item v vs d ds first others =>
    List.forall_mem_cons.2 ⟨first.sayable, others.sayable⟩
theorem RendersSlot.sayable : ∀ {slot : Slot} {v : slot.Value} {d : Draft},
    RendersSlot slot v d → Sayable d
  | _, _, _, .plain base v d value => value.sayable
  | _, _, _, .none _ => ⟨trivial, _, .null⟩
  | _, _, _, .some base v d value => value.sayable
theorem RendersRow.sayable : ∀ {fs : List Field} {row : Row fs}
    {members : List (Option String × Draft)}, RendersRow fs row members →
    ∀ m ∈ members, m.1.isSome ∧ Sayable m.2
  | _, _, _, .nil => fun _ member => nomatch member
  | _, _, _, .cons f fs v row d members slot others =>
    List.forall_mem_cons.2 ⟨⟨rfl, slot.sayable⟩, others.sayable⟩
end

theorem Renders.written (base : Base) (v : base.Value) (d : Draft) (rendered : Renders base v d) :
    ∃ text, Grammar.Written d text :=
  rendered.sayable.2

/-! ### Words, integers and maps -/

theorem choice_of_name (c : Choice) (word : c.Type) :
    Word.ofName? (Word.name word) = some word := by
  cases c <;> cases word <;> rfl

theorem kind_of_name (kind : Kind) : Word.ofName? (Word.name kind) = some kind := by
  cases kind <;> rfl

theorem read_int (low high n : Int) (within : low ≤ n ∧ n ≤ high) :
    Draft.readInt low high (.number (.integer n)) = .ok n := by
  simp [Draft.readInt, within]

theorem read_int32 (room : Nat) (held : Bool) (n : Int32) :
    Wire.read room held .int32 (.number (.integer n.toInt)) = .ok n := by
  have bounds := And.intro n.le_toInt n.toInt_lt
  have read := read_int (-0x80000000) 0x7fffffff n.toInt (by omega)
  cases room <;> simp only [Wire.read, readLevel, read, ok_bind] <;>
    exact congrArg Except.ok (Int32.ofInt_toInt n)

theorem read_int64 (room : Nat) (held : Bool) (n : Int64) :
    Wire.read room held .int64 (.number (.integer n.toInt)) = .ok n := by
  have bounds := And.intro n.le_toInt n.toInt_lt
  have read := read_int (-0x8000000000000000) 0x7fffffffffffffff n.toInt (by omega)
  cases room <;> simp only [Wire.read, readLevel, read, ok_bind] <;>
    exact congrArg Except.ok (Int64.ofInt_toInt n)

theorem read_uint64 (room : Nat) (held : Bool) (n : UInt64) :
    Wire.read room held .uint64 (.number (.integer n.toNat)) = .ok n := by
  have bound := n.toNat_lt
  have read := read_int 0 0xffffffffffffffff n.toNat (by omega)
  cases room <;> simp only [Wire.read, readLevel, read, ok_bind] <;>
    exact congrArg Except.ok UInt64.ofNat_toNat

theorem filter_key (entries : List (String × String)) (key : String)
    (ascending : entries.Pairwise fun a b => a.1 < b.1) :
    entries.filter (fun e => e.1 = key) = ((KeyMap.find key entries).map fun v => (key, v)).toList := by
  induction entries with
  | nil => rfl
  | cons e rest ih =>
    obtain ⟨above, tail⟩ := List.pairwise_cons.1 ascending
    obtain ⟨k, v⟩ := e
    by_cases same : k = key
    · subst same
      rw [List.filter_cons_of_pos (by simp), ih tail, KeyMap.find_none above, KeyMap.find,
        if_pos rfl]
      rfl
    · rw [List.filter_cons_of_neg (by simpa using same), ih tail, KeyMap.find, if_neg same]

theorem read_texts_entries (entries : List (String × String)) (found : KeyMap String) :
    readTexts found (entries.map fun e => (some e.1, .text (some e.2))) =
      .ok (entries.foldl (fun m e => m.insert e.1 e.2) found) := by
  induction entries generalizing found with
  | nil => rfl
  | cons e rest ih => exact ih (found.insert e.1 e.2)

theorem insert_entries (texts : KeyMap String) (entries : List (String × String))
    (order : entries.Perm texts.entries) :
    entries.foldl (fun m e => m.insert e.1 e.2) ∅ = texts := by
  refine KeyMap.ext_get fun key => ?_
  have found := (order.filter fun e => decide (e.1 = key)).trans
    (.of_eq (filter_key texts.entries key texts.ascending))
  rw [KeyMap.get?_insert_each, KeyMap.get?, KeyMap.get?]
  cases value : KeyMap.find key texts.entries with
  | none =>
    rw [value] at found
    rw [found.eq_nil]
    rfl
  | some v =>
    rw [value] at found
    rw [List.perm_singleton.1 found]
    rfl

/-! ### What is rendered is read -/

def OfFields (fs : List Field) (members : List (Option String × Draft)) : Prop :=
  ∀ m ∈ members, ∃ f ∈ fs, m.1 = some f.name

theorem OfFields.behind (f : Field) (fs : List Field) (members : List (Option String × Draft))
    (known : OfFields fs members) : OfFields (f :: fs) members := by
  intro m member
  obtain ⟨g, field, named⟩ := known m member
  exact ⟨g, List.mem_cons_of_mem f field, named⟩

theorem RendersRow.of_fields : ∀ {fs : List Field} {row : Row fs}
    {members : List (Option String × Draft)}, RendersRow fs row members → OfFields fs members
  | _, _, _, .nil => fun _ member => nomatch member
  | _, _, _, .cons f fs v row d members _ others =>
    List.forall_mem_cons.2 ⟨⟨f, List.mem_cons_self, rfl⟩,
      others.of_fields.behind f fs members⟩

theorem OfFields.fresh (f : Field) (fs : List Field) (members : List (Option String × Draft))
    (known : OfFields fs members) (distinct : ((f :: fs).map Field.name).Nodup) :
    some f.name ∉ members.map Prod.fst := by
  intro taken
  obtain ⟨m, member, same⟩ := List.mem_map.1 taken
  obtain ⟨g, field, named⟩ := known m member
  rw [same] at named
  exact (List.nodup_cons.1 distinct).1 (List.mem_map.2 ⟨g, field, (Option.some.inj named).symm⟩)

theorem under_absent (name : String) (members : List (Option String × Draft))
    (absent : some name ∉ members.map Prod.fst) : under name members = [] := by
  refine List.filterMap_eq_nil_iff.2 fun m member => if_neg fun same => absent ?_
  exact same ▸ List.mem_map_of_mem member

theorem field_once (name : String) (d : Draft) (ordered members : List (Option String × Draft))
    (fresh : some name ∉ ordered.map Prod.fst)
    (found : (under name members).Perm (under name ((some name, d) :: ordered))) :
    under name members = [d] := by
  rw [under_cons, under_same, under_absent _ _ fresh] at found
  exact List.perm_singleton.1 found

theorem Renders.no_null (base : Base) (v : base.Value) (d : Draft) (rendered : Renders base v d) :
    d ≠ .null := by
  rintro rfl
  cases rendered

theorem OfFields.beside_kind (kind : Kind) (told : Draft)
    (ordered members : List (Option String × Draft))
    (known : OfFields kind.message.layout.fields ordered)
    (order : members.Perm ((some kindName, told) :: ordered)) :
    under kindName members = [told] ∧
      (members.filter fun m => m.1 ≠ some kindName).Perm ordered := by
  have fresh : some kindName ∉ ordered.map Prod.fst := by
    intro taken
    obtain ⟨m, member, same⟩ := List.mem_map.1 taken
    obtain ⟨f, field, named⟩ := known m member
    exact kind_foreign kind told f field (same.symm.trans named)
  constructor
  · exact field_once kindName told ordered members fresh (under_perm kindName _ _ order)
  · have kept := order.filter fun m => m.1 ≠ some kindName
    have all : (ordered.filter fun m => m.1 ≠ some kindName) = ordered :=
      List.filter_eq_self.2 fun m member => decide_eq_true fun same =>
        fresh (same ▸ List.mem_map_of_mem member)
    rwa [List.filter_cons_of_neg (by simp), all] at kept

-- The first field of a row is held, and what stands under the other names is left to them.
theorem holds_first (read : Reader) (f : Field) (fs : List Field) (v : f.slot.Value) (row : Row fs)
    (d : Draft) (ordered members : List (Option String × Draft))
    (value : readSlot read f.slot d = .ok v) (known : OfFields fs ordered)
    (distinct : ((f :: fs).map Field.name).Nodup)
    (same : ∀ g ∈ f :: fs,
      (under g.name members).Perm (under g.name ((some f.name, d) :: ordered)))
    (others : (∀ g ∈ fs, (under g.name members).Perm (under g.name ordered)) →
      HoldsRow read fs row members) :
    HoldsRow read (f :: fs) (v, row) members := by
  obtain ⟨atField, atOthers⟩ := List.forall_mem_cons.1 same
  have absent := known.fresh f fs ordered distinct
  have once := field_once f.name d ordered members absent atField
  refine ⟨once ▸ value, others fun g member => ?_⟩
  have other : (some f.name : Option String) ≠ some g.name := fun same =>
    (List.nodup_cons.1 distinct).1 (Option.some.inj same ▸ List.mem_map_of_mem member)
  have found := atOthers g member
  rwa [under_cons, under_other _ _ other, List.nil_append] at found

def ReadsRow (fs : List Field) (row : Row fs) (ordered : List (Option String × Draft)) : Prop :=
  ∀ (room : Nat) (held : Bool) (members : List (Option String × Draft)),
    (∀ m ∈ ordered, m.2.depth ≤ room) →
    (∀ f ∈ fs, (under f.name members).Perm (under f.name ordered)) →
    HoldsRow (Wire.read room held) fs row members

theorem read_ordered_message (m : Message) (v : m.Type)
    (ordered members : List (Option String × Draft)) (order : members.Perm ordered)
    (sayable : ∀ m ∈ ordered, m.1.isSome ∧ Sayable m.2)
    (reads : ReadsRow m.layout.fields (m.layout.unpack v) ordered) (room : Nat) (held : Bool)
    (fits : (Draft.record members .closed).depth ≤ room) :
    Wire.read room held (.message m) (.record members .closed) = .ok v := by
  obtain ⟨less, rfl, fitting⟩ := Draft.record_room members .closed room fits
  have parts := reads less held members (fun m member => fitting m (order.symm.subset member))
    (fun f _ => under_perm _ _ _ order)
  refine (read_message_record _ _ _ _ _ _).2 ⟨less, rfl,
    (read_record_iff _ _ _ _ _ (field_names_distinct m)).2 ⟨rfl, fun m member => ?_, parts⟩⟩
  obtain ⟨named, readable, -⟩ := sayable m (order.subset member)
  exact ⟨named, fun _ => readable.sound⟩

theorem read_ordered_payload (kind : Kind) (v : kind.message.Type)
    (ordered members : List (Option String × Draft))
    (order : members.Perm ((some kindName, .text (some (Word.name kind))) :: ordered))
    (known : OfFields kind.message.layout.fields ordered)
    (sayable : ∀ m ∈ ordered, m.1.isSome ∧ Sayable m.2)
    (reads : ReadsRow kind.message.layout.fields (kind.message.layout.unpack v) ordered)
    (room : Nat) (held : Bool) (fits : (Draft.record members .closed).depth ≤ room) :
    Wire.read room held .payload (.record members .closed) = .ok (.of kind v) := by
  obtain ⟨less, rfl, fitting⟩ := Draft.record_room members .closed room fits
  obtain ⟨told, contents⟩ := known.beside_kind kind _ ordered members order
  have parts := reads less true _
    (fun m member => fitting m (order.symm.subset (List.mem_cons_of_mem _ member)))
    (fun f _ => under_perm _ _ _ contents)
  have record := (read_record_iff (Wire.read less true) _ _ .closed _
    (field_names_distinct kind.message)).2 ⟨rfl, fun m member =>
      have ⟨named, readable, _⟩ := sayable m (contents.subset member)
      ⟨named, fun _ => readable.sound⟩, parts⟩
  refine (read_payload_record _ _ _ _ _).2 ⟨less, rfl, (read_payload_iff _ _ _ _ _).2
    ⟨rfl, Word.name kind, told, fun m member => ?_, (read_contents_iff _ _ _ _).2 ?_⟩⟩
  · rcases List.mem_cons.1 (order.subset member) with rfl | inner
    · exact ⟨rfl, rfl, Nat.zero_le less⟩
    · obtain ⟨named, readable, -⟩ := sayable m inner
      exact ⟨named, readable, fitting m member⟩
  · rw [kind_of_name]
    exact ⟨v, record, rfl⟩

mutual
theorem Renders.read : ∀ {base : Base} {v : base.Value} {d : Draft}, Renders base v d →
    ∀ (room : Nat) (held : Bool), d.depth ≤ room → Wire.read room held base d = .ok v
  | _, _, _, .bool b => by
    intro room held fits
    cases room <;> rfl
  | _, _, _, .int32 n => fun room held _ => read_int32 room held n
  | _, _, _, .int64 n => fun room held _ => read_int64 room held n
  | _, _, _, .uint64 n => fun room held _ => read_uint64 room held n
  | _, _, _, .text s => by
    intro room held fits
    cases room <;> rfl
  | _, _, _, .time t => by
    intro room held fits
    cases room <;>
      simp only [Wire.read, readLevel, Draft.readText, ok_bind, Timestamp.of_text_text]
  | _, _, _, .texts texts entries order => by
    intro room held fits
    obtain ⟨less, rfl, -⟩ := Draft.record_room _ _ room fits
    simp only [Wire.read, readLevel, enter, Nat.add_one_ne_zero, if_false, read_texts_entries,
      ok_bind, insert_entries texts entries order]
    rfl
  | _, _, _, .choice c word => by
    intro room held fits
    cases room <;> simp only [Wire.read, readLevel, readWord, choice_of_name]
  | _, _, _, .message m v ordered members row order =>
    read_ordered_message m v ordered members order row.sayable fun room held others =>
      row.read room held others (field_names_distinct m)
  | _, _, _, .payload kind v ordered members row order =>
    read_ordered_payload kind v ordered members order row.of_fields row.sayable
      fun room held others => row.read room held others (field_names_distinct kind.message)
  | _, _, _, .unknown kind other => by
    intro room held fits
    obtain ⟨less, rfl, fitting⟩ := Draft.record_room _ _ room fits
    exact read_unknown_payload less held _ kind (under_same _ _) other
      (List.forall_mem_singleton.2 ⟨rfl, rfl, Nat.zero_le less⟩)
  | _, _, _, .list item vs ds items => by
    intro room held fits
    obtain ⟨less, rfl, fitting⟩ := Draft.list_room ds .closed room fits
    exact (read_list _ _ _ _ _ _).2 ⟨less, rfl, items.read less held fitting, rfl⟩
theorem RendersItems.read : ∀ {item : Base} {vs : List item.Value} {ds : List Draft},
    RendersItems item vs ds → ∀ (room : Nat) (held : Bool), (∀ d ∈ ds, d.depth ≤ room) →
    List.Forall₂ (fun d v => Wire.read room held item d = .ok v) ds vs
  | _, _, _, .nil _ => fun _ _ _ => .nil
  | _, _, _, .cons item v vs d ds first others => fun room held fits =>
    .cons (first.read room held (List.forall_mem_cons.1 fits).1)
      (others.read room held (List.forall_mem_cons.1 fits).2)
theorem RendersSlot.read : ∀ {slot : Slot} {v : slot.Value} {d : Draft},
    RendersSlot slot v d → ∀ (room : Nat) (held : Bool), d.depth ≤ room →
    readSlot (Wire.read room held) slot d = .ok v
  | _, _, _, .plain base v d value => value.read
  | _, _, _, .none _ => fun _ _ _ => rfl
  | _, _, _, .some base v d value => by
    intro room held fits
    have read := value.read room held fits
    rw [read_optional _ base d (value.no_null base v d), read, ok_bind]
theorem RendersRow.read : ∀ {fs : List Field} {row : Row fs}
    {ordered : List (Option String × Draft)}, RendersRow fs row ordered →
    ∀ (room : Nat) (held : Bool) (members : List (Option String × Draft)),
    (fs.map Field.name).Nodup → (∀ m ∈ ordered, m.2.depth ≤ room) →
    (∀ f ∈ fs, (under f.name members).Perm (under f.name ordered)) →
    HoldsRow (Wire.read room held) fs row members
  | _, _, _, .nil => fun _ _ _ _ _ _ => trivial
  | _, _, _, .cons f fs v row d ordered slot others => by
    intro room held members distinct fits same
    obtain ⟨first, later⟩ := List.forall_mem_cons.1 fits
    exact holds_first _ f fs v row d ordered members (slot.read room held first) others.of_fields
      distinct same (others.read room held members (List.nodup_cons.1 distinct).2 later)
end

/-! ### Every value can be rendered -/

def Renderable (base : Base) : Prop :=
  ∀ v : base.Value, ∃ d, Renders base v d

theorem items_rendered (item : Base) (vs : List item.Value)
    (each : ∀ v ∈ vs, ∃ d, Renders item v d) : ∃ ds, RendersItems item vs ds := by
  induction vs with
  | nil => exact ⟨[], .nil item⟩
  | cons v vs ih =>
    obtain ⟨⟨d, first⟩, rest⟩ := List.forall_mem_cons.1 each
    obtain ⟨ds, others⟩ := ih rest
    exact ⟨d :: ds, .cons item v vs d ds first others⟩

theorem slot_rendered (slot : Slot) (v : slot.Value) (each : Renderable slot.base) :
    ∃ d, RendersSlot slot v d := by
  cases slot with
  | plain base =>
    obtain ⟨d, value⟩ := each v
    exact ⟨d, .plain base v d value⟩
  | optional base =>
    cases v with
    | none => exact ⟨.null, .none base⟩
    | some v =>
      obtain ⟨d, value⟩ := each v
      exact ⟨d, .some base v d value⟩

theorem row_rendered (fs : List Field) (row : Row fs)
    (each : ∀ f ∈ fs, Renderable f.slot.base) : ∃ members, RendersRow fs row members := by
  induction fs with
  | nil => exact ⟨[], .nil⟩
  | cons f fs ih =>
    obtain ⟨first, rest⟩ := List.forall_mem_cons.1 each
    obtain ⟨d, slot⟩ := slot_rendered f.slot row.1 first
    obtain ⟨members, others⟩ := ih row.2 rest
    exact ⟨_, .cons f fs row.1 row.2 d members slot others⟩

theorem message_rendered (m : Message) (each : ∀ f ∈ m.layout.fields, Renderable f.slot.base) :
    Renderable (.message m) := by
  intro v
  obtain ⟨members, row⟩ := row_rendered m.layout.fields (m.layout.unpack v) each
  exact ⟨_, .message m v members members row (.refl members)⟩

theorem timing_rendered (durations : Renderable (.message .duration)) (t : Timing) :
    ∃ d, Renders (.message .timing) t d := by
  obtain ⟨name, time, child⟩ := t
  have children : ∀ c ∈ child, ∃ d, Renders (.message .timing) c d := fun c member =>
    timing_rendered durations c
  obtain ⟨ds, items⟩ := items_rendered (.message .timing) child children
  obtain ⟨d, duration⟩ := durations time
  exact ⟨_, .message .timing _ _ _
    (.cons (.text "name") _ name _ _ _ (.plain _ _ _ (.text name))
      (.cons (.duration "time") _ time _ _ _ (.plain _ _ _ duration)
        (.cons (.list (.message .timing) "child") _ child _ _ _
          (.plain _ _ _ (.list (.message .timing) child ds items)) .nil)))
    (.refl _)⟩
termination_by t

-- Messages hold messages of lower levels, save for the timings inside a timing.
def Message.level : Message → Nat
  | .event => 10
  | .testResult | .commandLine | .metrics => 8
  | .execution | .commandSection | .actionSummary | .packageMetrics => 6
  | .timing | .finished | .toolLogs | .optionList | .targetCompleted | .actionExecuted
  | .testSummary | .actionData | .actionCacheStatistics | .memoryMetrics | .packageLoadMetrics
  | .artifactMetrics | .networkMetrics => 4
  | _ => 2

def Base.level : Base → Nat
  | .message m => m.level
  | .payload => 9
  | .list item => item.level + 1
  | _ => 0

theorem field_level (m : Message) (noTiming : m ≠ .timing) :
    ∀ f ∈ m.layout.fields, f.slot.base.level < m.level := by
  have table : m = .timing ∨
      (m.layout.fields.map fun f => f.slot.base.level).all (· < m.level) := by
    cases m <;> decide
  have below := List.all_eq_true.1 (table.resolve_left noTiming)
  exact fun f field => of_decide_eq_true (below _ (List.mem_map_of_mem field))

theorem payload_cases (p : Payload) : p = .unknown ∨ ∃ kind v, p = .of kind v := by
  cases p with
  | started m => exact .inr ⟨.started, m, rfl⟩
  | buildMetadata m => exact .inr ⟨.buildMetadata, m, rfl⟩
  | buildFinished m => exact .inr ⟨.buildFinished, m, rfl⟩
  | buildMetrics m => exact .inr ⟨.buildMetrics, m, rfl⟩
  | structuredCommandLine m => exact .inr ⟨.structuredCommandLine, m, rfl⟩
  | configuration m => exact .inr ⟨.configuration, m, rfl⟩
  | targetConfigured m => exact .inr ⟨.targetConfigured, m, rfl⟩
  | targetCompleted m => exact .inr ⟨.targetCompleted, m, rfl⟩
  | fetch m => exact .inr ⟨.fetch, m, rfl⟩
  | actionExecuted m => exact .inr ⟨.actionExecuted, m, rfl⟩
  | testResult m => exact .inr ⟨.testResult, m, rfl⟩
  | testSummary m => exact .inr ⟨.testSummary, m, rfl⟩
  | optionsParsed m => exact .inr ⟨.optionsParsed, m, rfl⟩
  | buildToolLogs m => exact .inr ⟨.buildToolLogs, m, rfl⟩
  | progress m => exact .inr ⟨.progress, m, rfl⟩
  | unknown => exact .inl rfl

theorem kind_level (kind : Kind) : kind.message ≠ .timing ∧ kind.message.level < 9 := by
  cases kind <;> decide

theorem renderable (limit : Nat) (base : Base) (below : base.level < limit) : Renderable base := by
  induction limit generalizing base with
  | zero => exact absurd below (Nat.not_lt_zero _)
  | succ limit ih =>
    intro v
    cases base with
    | bool => exact ⟨_, .bool v⟩
    | int32 => exact ⟨_, .int32 v⟩
    | int64 => exact ⟨_, .int64 v⟩
    | uint64 => exact ⟨_, .uint64 v⟩
    | text => exact ⟨_, .text v⟩
    | time => exact ⟨_, .time v⟩
    | texts => exact ⟨_, .texts v v.entries (.refl _)⟩
    | choice c => exact ⟨_, .choice c v⟩
    | list item =>
      have inner : Renderable item := ih item (Nat.lt_of_succ_lt_succ below)
      obtain ⟨ds, items⟩ := items_rendered item v fun v _ => inner v
      exact ⟨_, .list item v ds items⟩
    | message m =>
      have held : m.level ≤ limit := Nat.le_of_lt_succ below
      by_cases timing : m = .timing
      · subst timing
        have durations : Renderable (.message .duration) :=
          ih _ (Nat.lt_of_lt_of_le (by decide) held)
        exact timing_rendered durations v
      · exact message_rendered m (fun f field =>
          ih _ (Nat.lt_of_lt_of_le (field_level m timing f field) held)) v
    | payload =>
      have held : 9 ≤ limit := Nat.le_of_lt_succ below
      rcases payload_cases v with rfl | ⟨kind, v, rfl⟩
      · exact ⟨_, .unknown "unknown" rfl⟩
      · obtain ⟨noTiming, lower⟩ := kind_level kind
        obtain ⟨members, row⟩ := row_rendered _ (kind.message.layout.unpack v) fun f field =>
          ih _ (Nat.lt_trans (field_level _ noTiming f field) (Nat.lt_of_lt_of_le lower held))
        exact ⟨_, .payload kind v members _ row (.refl _)⟩

end BuildDigest.Wire
