import BuildDigest.Proofs.Rearrangement
import BuildDigest.Proofs.Rendering
import Mathlib

set_option autoImplicit false

namespace BuildDigest.Wire

/-! ### The parts of an event that are read -/

inductive RecordOf : Base → Message → List (Option String × Draft) → Prop
  | message (m : Message) (members : List (Option String × Draft)) :
      RecordOf (.message m) m members
  | payload (kind : Kind) (members : List (Option String × Draft))
      (told : (some kindName, .text (some (Word.name kind))) ∈ members) :
      RecordOf .payload kind.message members

-- A list, and the items in it that are fields of a message.
inductive ListOf : Base → Message → List Draft → List Draft → Prop
  | message (m : Message) (items : List Draft) : ListOf (.message m) m items items
  | payload (kind : Kind) (items : List Draft) :
      ListOf .payload kind.message (.text (some (Word.name kind)) :: items) items

-- What stands for a field in a message or a payload, under its name or in its place.
inductive FieldIn (base : Base) : Draft → Field → Draft → Prop
  | member (m : Message) (members : List (Option String × Draft)) (stop : Stop) (f : Field)
      (value : Draft) (record : RecordOf base m members) (field : f ∈ m.layout.fields)
      (member : (some f.name, value) ∈ members) : FieldIn base (.record members stop) f value
  | item (m : Message) (all items : List Draft) (stop : Stop) (i : Nat) (f : Field) (value : Draft)
      (list : ListOf base m all items) (field : m.layout.fields[i]? = some f)
      (item : items[i]? = some value) : FieldIn base (.list all stop) f value

-- A part that is read as `inner` when the whole is read as `base`.
inductive Inside (inner : Base) (part : Draft) : Base → Draft → Prop
  | here : Inside inner part inner part
  | field (base : Base) (d : Draft) (f : Field) (value : Draft) (field : FieldIn base d f value)
      (inside : Inside inner part f.slot.base value) : Inside inner part base d
  | item (item : Base) (items : List Draft) (stop : Stop) (d : Draft) (member : d ∈ items)
      (inside : Inside inner part item d) : Inside inner part (.list item) (.list items stop)

-- The keys that a message or a payload is read by; all others are ignored.
inductive Known : Base → List (Option String × Draft) → String → Prop
  | kind (members : List (Option String × Draft)) : Known .payload members kindName
  | field (base : Base) (m : Message) (members : List (Option String × Draft)) (f : Field)
      (record : RecordOf base m members) (field : f ∈ m.layout.fields) : Known base members f.name

inductive Composite : Base → Prop
  | message (m : Message) : Composite (.message m)
  | payload : Composite .payload

def Ignored (base : Base) (members : List (Option String × Draft)) (key : String) : Prop :=
  Composite base ∧ ¬Known base members key

def Repeats (key : String) (members : List (Option String × Draft)) : Prop :=
  1 < (under key members).length

instance (key : String) (members : List (Option String × Draft)) :
    Decidable (Repeats key members) :=
  inferInstanceAs (Decidable (1 < (under key members).length))

/-! ### What is read of a part -/

inductive Has : (fs : List Field) → Row fs → (f : Field) → f.slot.Value → Prop
  | here (f : Field) (fs : List Field) (v : f.slot.Value) (row : Row fs) :
      Has (f :: fs) (v, row) f v
  | behind (g : Field) (fs : List Field) (v : g.slot.Value) (row : Row fs) (f : Field)
      (w : f.slot.Value) (has : Has fs row f w) : Has (g :: fs) (v, row) f w

inductive RowOf : (base : Base) → base.Value → (m : Message) → Row m.layout.fields → Prop
  | message (m : Message) (v : m.Type) : RowOf (.message m) v m (m.layout.unpack v)
  | payload (kind : Kind) (v : kind.message.Type) :
      RowOf .payload (.of kind v) kind.message (kind.message.layout.unpack v)

theorem holds_field (read : Reader) (fs : List Field) (row : Row fs)
    (members : List (Option String × Draft)) (holds : HoldsRow read fs row members) (f : Field)
    (field : f ∈ fs) : ∃ v, Has fs row f v ∧ Holds read f v (under f.name members) := by
  induction fs with
  | nil => cases field
  | cons g fs ih =>
    obtain ⟨v, row⟩ := row
    rcases List.mem_cons.1 field with rfl | later
    · exact ⟨v, .here f fs v row, holds.1⟩
    · obtain ⟨w, has, value⟩ := ih row holds.2 later
      exact ⟨w, .behind g fs v row f w has, value⟩

theorem holds_once (read : Reader) (f : Field) (v : f.slot.Value) (ds : List Draft)
    (holds : Holds read f v ds) : ds.length ≤ 1 := by
  cases ds with
  | nil => exact Nat.zero_le 1
  | cons d ds =>
    cases ds with
    | nil => exact Nat.le_refl 1
    | cons other ds => exact holds.elim

theorem holds_member (read : Reader) (f : Field) (v : f.slot.Value) (ds : List Draft) (d : Draft)
    (holds : Holds read f v ds) (member : d ∈ ds) : readSlot read f.slot d = .ok v := by
  cases ds with
  | nil => cases member
  | cons e ds =>
    cases ds with
    | nil => exact List.mem_singleton.1 member ▸ holds
    | cons other ds => exact holds.elim

theorem items_field (read : Reader) (fs : List Field) (items : List Draft) (stop : Stop)
    (row : Row fs) (ok : readItems read fs items stop = .ok row) (i : Nat) (f : Field)
    (value : Draft) (field : fs[i]? = some f) (item : items[i]? = some value) :
    ∃ v, Has fs row f v ∧ readSlot read f.slot value = .ok v := by
  induction fs generalizing items i with
  | nil => cases field
  | cons g fs ih =>
    cases items with
    | nil => cases item
    | cons d items =>
      obtain ⟨v, first, others⟩ := (bind_ok_iff _ _ _).1 ok
      obtain ⟨rest, later, same⟩ := (bind_ok_iff _ _ _).1 others
      cases same
      cases i with
      | zero =>
        cases field
        cases item
        exact ⟨v, .here f fs v rest, first⟩
      | succ i =>
        obtain ⟨w, has, read⟩ := ih items rest later i field item
        exact ⟨w, .behind g fs v rest f w has, read⟩

theorem items_fit (read : Reader) (fs : List Field) (items : List Draft) (stop : Stop)
    (row : Row fs) (ok : readItems read fs items stop = .ok row) : items.length ≤ fs.length := by
  induction fs generalizing items with
  | nil =>
    cases items with
    | nil => exact Nat.le_refl 0
    | cons d items => cases ok
  | cons f fs ih =>
    cases items with
    | nil => exact Nat.zero_le _
    | cons d items =>
      obtain ⟨v, -, others⟩ := (bind_ok_iff _ _ _).1 ok
      obtain ⟨rest, later, -⟩ := (bind_ok_iff _ _ _).1 others
      exact Nat.succ_le_succ (ih items rest later)

theorem record_row (base : Base) (m : Message) (members : List (Option String × Draft))
    (stop : Stop) (record : RecordOf base m members) (room : Nat) (held : Bool) (v : base.Value)
    (ok : Wire.read room held base (.record members stop) = .ok v) :
    ∃ less deep row, RowOf base v m row ∧
      HoldsRow (Wire.read less deep) m.layout.fields row members := by
  cases record with
  | message =>
    obtain ⟨less, -, read⟩ := (read_message_record room held m members stop v).1 ok
    obtain ⟨-, -, holds⟩ := (read_record_iff _ _ _ _ _ (field_names_distinct m)).1 read
    exact ⟨less, held, _, .message m v, holds⟩
  | payload kind _ told =>
    obtain ⟨less, -, read⟩ := (read_payload_record room held members stop v).1 ok
    obtain ⟨-, found, once, -, contents⟩ := (read_payload_iff _ less members stop v).1 read
    have same : Draft.text (some (Word.name kind)) = .text (some found) := by
      rw [← List.mem_singleton, ← once]
      exact (mem_under _ _ _).2 told
    cases same
    rw [read_contents_iff, kind_of_name] at contents
    obtain ⟨w, row, rfl⟩ := contents
    obtain ⟨-, -, holds⟩ := (read_record_iff _ _ _ _ _ (field_names_distinct kind.message)).1 row
    refine ⟨less, true, _, .payload kind w, holds_row_kept _ _ _ _ _ (fun f field => ?_) holds⟩
    have other : f.name ≠ kindName := fun same =>
      kind_no_field kind (same ▸ List.mem_map_of_mem field)
    rw [under_contents f.name members other]
    exact keeps_all_refl _ _

theorem list_row (base : Base) (m : Message) (all items : List Draft) (stop : Stop)
    (list : ListOf base m all items) (room : Nat) (held : Bool) (v : base.Value)
    (ok : Wire.read room held base (.list all stop) = .ok v) :
    ∃ less deep row last, RowOf base v m row ∧
      readItems (Wire.read less deep) m.layout.fields items last = .ok row := by
  cases list with
  | message =>
    obtain ⟨less, -, read⟩ := (read_message_list room held m all stop v).1 ok
    exact ⟨less, held, _, stop, .message m v, read⟩
  | payload kind _ =>
    obtain ⟨less, -, read⟩ := (read_payload_list room held _ stop v).1 ok
    obtain ⟨-, found, rest, same, -, contents⟩ := (read_payload_row_iff _ less _ stop v).1 read
    cases same
    rw [read_contents_iff, kind_of_name] at contents
    obtain ⟨w, row, rfl⟩ := contents
    exact ⟨less, true, _, .closed, .payload kind w, row⟩

theorem field_read (base : Base) (d : Draft) (f : Field) (value : Draft)
    (field : FieldIn base d f value) (room : Nat) (held : Bool) (v : base.Value)
    (ok : Wire.read room held base d = .ok v) :
    ∃ less deep m row w, RowOf base v m row ∧ Has m.layout.fields row f w ∧
      readSlot (Wire.read less deep) f.slot value = .ok w := by
  cases field with
  | member m members stop _ _ record field member =>
    obtain ⟨less, deep, row, made, holds⟩ := record_row base m members stop record room held v ok
    obtain ⟨w, has, held⟩ := holds_field _ _ _ _ holds f field
    exact ⟨less, deep, m, row, w, made, has,
      holds_member _ f w _ value held ((mem_under _ _ _).2 member)⟩
  | item m all items stop i _ _ list field item =>
    obtain ⟨less, deep, row, _, made, read⟩ := list_row base m all items stop list room held v ok
    obtain ⟨w, has, read⟩ := items_field _ _ _ _ row read i f value field item
    exact ⟨less, deep, m, row, w, made, has, read⟩

theorem list_parts (room : Nat) (held : Bool) (item : Base) (items : List Draft) (stop : Stop)
    (vs : List item.Value) (ok : Wire.read room held (.list item) (.list items stop) = .ok vs) :
    ∃ less, ∀ d ∈ items, ∃ v, Wire.read less held item d = .ok v := by
  obtain ⟨less, -, each, -⟩ := (read_list room held item items stop vs).1 ok
  have parts := each.imp fun d v read => And.intro (Exists.intro v read) read
  exact ⟨less, ((List.forall₂_and_left _ _).1 parts).1⟩

theorem slot_read (read : Reader) (slot : Slot) (d : Draft) (w : slot.Value)
    (ok : readSlot read slot d = .ok w) (other : d ≠ .null) : ∃ v, read slot.base d = .ok v := by
  cases slot with
  | plain base => exact ⟨w, ok⟩
  | optional base =>
    rw [read_optional read base d other] at ok
    obtain ⟨v, found, -⟩ := (bind_ok_iff _ _ _).1 ok
    exact ⟨v, found⟩

theorem field_value (base : Base) (d : Draft) (f : Field) (value : Draft)
    (field : FieldIn base d f value) (other : value ≠ .null) (room : Nat) (held : Bool)
    (v : base.Value) (ok : Wire.read room held base d = .ok v) :
    ∃ less deep u, Wire.read less deep f.slot.base value = .ok u := by
  obtain ⟨less, deep, _, _, w, -, -, read⟩ := field_read base d f value field room held v ok
  obtain ⟨u, read⟩ := slot_read _ f.slot value w read other
  exact ⟨less, deep, u, read⟩

theorem Inside.of_null (inner : Base) (part : Draft) (base : Base)
    (inside : Inside inner part base .null) : part = .null := by
  cases inside with
  | here => rfl
  | field _ _ _ _ field _ => cases field

theorem Inside.read (inner : Base) (part : Draft) (other : part ≠ .null) (base : Base) (d : Draft)
    (inside : Inside inner part base d) (room : Nat) (held : Bool) (v : base.Value)
    (ok : Wire.read room held base d = .ok v) :
    ∃ less deep w, Wire.read less deep inner part = .ok w := by
  induction inside generalizing room held with
  | here => exact ⟨room, held, v, ok⟩
  | field base d f value field inside ih =>
    have some : value ≠ .null := by
      rintro rfl
      exact other (inside.of_null inner part f.slot.base)
    obtain ⟨less, deep, u, read⟩ := field_value base d f value field some room held v ok
    exact ih less deep u read
  | item item items stop d member inside ih =>
    obtain ⟨less, each⟩ := list_parts room held item items stop v ok
    obtain ⟨u, read⟩ := each d member
    exact ih less held u read

theorem known_once (base : Base) (members : List (Option String × Draft)) (stop : Stop)
    (key : String) (known : Known base members key) (room : Nat) (held : Bool) (v : base.Value)
    (ok : Wire.read room held base (.record members stop) = .ok v) : ¬Repeats key members := by
  cases known with
  | kind =>
    obtain ⟨less, -, read⟩ := (read_payload_record room held members stop v).1 ok
    obtain ⟨-, kind, once, -⟩ := (read_payload_iff _ less members stop v).1 read
    rw [Repeats, once]
    exact Nat.lt_irrefl 1
  | field _ m _ f record field =>
    obtain ⟨less, deep, row, -, holds⟩ := record_row base m members stop record room held v ok
    obtain ⟨w, -, value⟩ := holds_field _ _ row members holds f field
    exact Nat.not_lt.2 (holds_once _ f w _ value)

/-! ### Where a part of an event stands -/

inductive Within (part : Draft) : Draft → Prop
  | here : Within part part
  | member (members : List (Option String × Draft)) (stop : Stop) (m : Option String × Draft)
      (member : m ∈ members) (within : Within part m.2) : Within part (.record members stop)
  | item (items : List Draft) (stop : Stop) (d : Draft) (member : d ∈ items)
      (within : Within part d) : Within part (.list items stop)

-- A part is read, or it is in the value of a key that is ignored where it stands.
inductive Situated (part : Draft) (base : Base) (d : Draft) : Prop
  | read (inner : Base) (inside : Inside inner part base d)
  | ignored (inner : Base) (members : List (Option String × Draft)) (stop : Stop) (key : String)
      (value : Draft) (inside : Inside inner (.record members stop) base d)
      (ignored : Ignored inner members key) (member : (some key, value) ∈ members)
      (within : Within part value)

theorem Situated.through (part : Draft) (base : Base) (d : Draft) (above : Base) (whole : Draft)
    (situated : Situated part base d)
    (step : ∀ inner p, Inside inner p base d → Inside inner p above whole) :
    Situated part above whole := by
  cases situated with
  | read inner inside => exact .read inner (step inner part inside)
  | ignored inner members stop key value inside ignored member within =>
    exact .ignored inner members stop key value (step inner _ inside) ignored member within

theorem Within.deep (members : List (Option String × Draft)) (stop : Stop) (d : Draft)
    (within : Within (.record members stop) d) : 0 < d.depth := by
  cases within <;> exact Nat.succ_pos _

theorem deep_not_null (d : Draft) (deep : 0 < d.depth) : d ≠ .null := by
  rintro rfl
  exact Nat.lt_irrefl 0 deep

theorem texts_record (room : Nat) (held : Bool) (members : List (Option String × Draft))
    (stop : Stop) (texts : KeyMap String)
    (ok : Wire.read room held .texts (.record members stop) = .ok texts) :
    readTexts ∅ members = .ok texts := by
  have read : (readTexts ∅ members >>= fun found => stop.ended >>= fun _ => .ok found) =
      .ok texts := by
    cases room with
    | zero => cases ok
    | succ less => exact ok
  obtain ⟨found, read, ended⟩ := (bind_ok_iff _ _ _).1 read
  obtain ⟨-, same⟩ := (then_ok_iff _ _ _).1 ended
  exact Except.ok.inj same ▸ read

theorem texts_read (members : List (Option String × Draft)) (found texts : KeyMap String)
    (ok : readTexts found members = .ok texts) :
    (∀ m ∈ members, ∃ s, m.2 = .text (some s)) ∧
    ∀ key, (texts.get? key).map (fun s => Draft.text (some s)) =
      (under key members).getLast?.or ((found.get? key).map fun s => Draft.text (some s)) := by
  induction members generalizing found with
  | nil =>
    cases ok
    exact ⟨List.forall_mem_nil _, fun key => rfl⟩
  | cons m members ih =>
    obtain ⟨name, value⟩ := m
    cases name with
    | none => cases ok
    | some name =>
      have read : (value.readText >>= fun text => readTexts (found.insert name text) members) =
          .ok texts := ok
      obtain ⟨text, told, others⟩ := (bind_ok_iff _ _ _).1 read
      obtain rfl := (Draft.read_text_iff value text).1 told
      obtain ⟨each, last⟩ := ih _ others
      refine ⟨List.forall_mem_cons.2 ⟨⟨text, rfl⟩, each⟩, fun key => ?_⟩
      rw [last, under_cons, List.getLast?_append, KeyMap.get?_insert]
      by_cases same : key = name
      · subst same
        rw [if_pos rfl, under_same, Option.or_assoc]
        rfl
      · have other : (some name : Option String) ≠ some key := fun h =>
          same (Option.some.inj h).symm
        rw [if_neg same, under_other _ _ other, List.getLast?_nil, Option.or_none]

theorem texts_last (room : Nat) (held : Bool) (members : List (Option String × Draft))
    (stop : Stop) (texts : KeyMap String)
    (ok : Wire.read room held .texts (.record members stop) = .ok texts) (key s : String) :
    texts.get? key = some s ↔ (under key members).getLast? = some (.text (some s)) := by
  obtain ⟨-, last⟩ := texts_read members ∅ texts (texts_record room held members stop texts ok)
  have found := (last key).trans Option.or_none
  rw [← found]
  cases texts.get? key <;> simp

theorem unit_read (held : Bool) (value : Draft) (ok : readUnit held value = .ok ()) :
    value = .null ∨ value = .record [] .closed := by
  cases value with
  | null => exact .inl rfl
  | record members stop =>
    cases members with
    | cons => cases ok
    | nil =>
      cases stop with
      | closed => exact .inr rfl
      | cut => cases ok
  | _ => cases ok

theorem choice_read (room : Nat) (held : Bool) (c : Choice)
    (members : List (Option String × Draft)) (stop : Stop) (word : c.Type)
    (ok : Wire.read room held (.choice c) (.record members stop) = .ok word) :
    ∃ name value, members = [(name, value)] ∧ (value = .null ∨ value = .record [] .closed) := by
  cases room with
  | zero => cases ok
  | succ less =>
    cases members with
    | nil => cases stop <;> cases ok
    | cons m rest =>
      obtain ⟨name, value⟩ := m
      cases name with
      | none => cases ok
      | some name =>
        simp only [Wire.read, readLevel, readWord, Nat.add_one_ne_zero, if_false, Draft.readName,
          ok_bind] at ok
        cases found : (Word.ofName? name : Option c.Type) with
        | none =>
          rw [found] at ok
          cases ok
        | some told =>
          rw [found] at ok
          obtain ⟨empty, after⟩ := (then_ok_iff _ _ _).1 ok
          cases rest with
          | cons => cases after
          | nil => exact ⟨some name, value, rfl, unit_read held value empty⟩

theorem member_read (base : Base) (composite : Composite base)
    (members : List (Option String × Draft)) (stop : Stop) (room : Nat) (held : Bool)
    (v : base.Value) (ok : Wire.read room held base (.record members stop) = .ok v)
    (m : Option String × Draft) (member : m ∈ members) (deep : 0 < m.2.depth) :
    ∃ key, m.1 = some key ∧ (Ignored base members key ∨
      ∃ f, FieldIn base (.record members stop) f m.2) := by
  have named : m.1.isSome := by
    cases composite with
    | message n =>
      obtain ⟨less, -, read⟩ := (read_message_record room held n members stop v).1 ok
      obtain ⟨-, each, -⟩ := (read_record_iff _ _ _ _ _ (field_names_distinct n)).1 read
      exact (each m member).1
    | payload =>
      obtain ⟨less, -, read⟩ := (read_payload_record room held members stop v).1 ok
      obtain ⟨-, -, -, each, -⟩ := (read_payload_iff _ less members stop v).1 read
      exact (each m member).1
  obtain ⟨name, value⟩ := m
  obtain ⟨key, rfl⟩ := Option.isSome_iff_exists.1 named
  refine ⟨key, rfl, ?_⟩
  by_cases known : Known base members key
  · cases known with
    | field _ n _ f record field =>
      exact .inr ⟨f, .member n members stop f value record field member⟩
    | kind =>
      -- The kind is told by a text.
      obtain ⟨less, -, read⟩ := (read_payload_record room held members stop v).1 ok
      obtain ⟨-, kind, once, -⟩ := (read_payload_iff _ less members stop v).1 read
      have text : value ∈ under kindName members := (mem_under _ _ _).2 member
      rw [once, List.mem_singleton] at text
      subst text
      exact absurd deep (Nat.lt_irrefl 0)
  · exact .inl ⟨composite, known⟩

theorem name_of_kind (kind : String) (known : Kind) (found : Word.ofName? kind = some known) :
    Word.name known = kind := by
  have told := List.find?_some found
  exact of_decide_eq_true told

theorem item_read (base : Base) (composite : Composite base) (items : List Draft) (stop : Stop)
    (room : Nat) (held : Bool) (v : base.Value)
    (ok : Wire.read room held base (.list items stop) = .ok v) (d : Draft) (member : d ∈ items)
    (deep : 0 < d.depth) : ∃ f, FieldIn base (.list items stop) f d := by
  have placed (m : Message) (inner : List Draft) (list : ListOf base m items inner) (i : Nat)
      (item : inner[i]? = some d) : ∃ f, FieldIn base (.list items stop) f d := by
    obtain ⟨less, deep, row, last, -, read⟩ := list_row base m items inner stop list room held v ok
    have fits := items_fit _ _ _ _ row read
    have place := (List.getElem?_eq_some_iff.1 item).1
    have field := List.getElem?_eq_getElem (Nat.lt_of_lt_of_le place fits)
    exact ⟨_, .item m items inner stop i _ d list field item⟩
  cases composite with
  | message m =>
    obtain ⟨i, item⟩ := List.mem_iff_getElem?.1 member
    exact placed m items (.message m items) i item
  | payload =>
    obtain ⟨less, -, read⟩ := (read_payload_list room held items stop v).1 ok
    obtain ⟨-, kind, rest, rfl, -, contents⟩ := (read_payload_row_iff _ less items stop v).1 read
    rcases List.mem_cons.1 member with rfl | later
    · exact absurd deep (Nat.lt_irrefl 0)
    · rw [read_contents_iff] at contents
      cases found : (Word.ofName? kind : Option Kind) with
      | none =>
        rw [found] at contents
        cases rest with
        | nil => cases later
        | cons => cases contents
      | some known =>
        obtain ⟨i, item⟩ := List.mem_iff_getElem?.1 later
        obtain rfl := name_of_kind kind known found
        exact placed known.message rest (.payload known rest) i item

-- A record with a repeated key, in what is read, is read itself or stands in what is ignored.
theorem situated_in (members : List (Option String × Draft)) (stop : Stop) (key : String)
    (repeats : Repeats key members) (d : Draft) (within : Within (.record members stop) d)
    (base : Base) (room : Nat) (held : Bool) (v : base.Value)
    (ok : Wire.read room held base d = .ok v) : Situated (.record members stop) base d := by
  induction within generalizing base room held with
  | here => exact .read base .here
  | member outer last m member within ih =>
    have deep := within.deep
    have told (composite : Composite base) : Situated (.record members stop) base
        (.record outer last) := by
      obtain ⟨name, value⟩ := m
      obtain ⟨name, rfl, ignored | ⟨f, field⟩⟩ :=
        member_read base composite outer last room held v ok _ member deep
      · exact .ignored base outer last name value .here ignored member within
      · obtain ⟨less, deeper, u, read⟩ :=
          field_value base _ f value field (deep_not_null value deep) room held v ok
        exact (ih f.slot.base less deeper u read).through _ _ _ _ _ fun inner p inside =>
          .field base _ f value field inside
    cases base with
    | message n => exact told (.message n)
    | payload => exact told .payload
    | texts =>
      have read := texts_record room held outer last v ok
      obtain ⟨s, text⟩ := (texts_read outer ∅ v read).1 m member
      rw [text] at deep
      exact absurd deep (Nat.lt_irrefl 0)
    | choice c =>
      obtain ⟨name, value, rfl, empty⟩ := choice_read room held c outer last v ok
      obtain rfl := List.mem_singleton.1 member
      rcases empty with rfl | rfl
      · exact absurd deep (Nat.lt_irrefl 0)
      · cases within with
        | here => exact absurd repeats (Nat.not_lt_zero 1)
        | member _ _ _ inEmpty => cases inEmpty
    | _ => cases room <;> cases ok
  | item items last d member within ih =>
    have deep := within.deep
    have told (composite : Composite base) : Situated (.record members stop) base
        (.list items last) := by
      obtain ⟨f, field⟩ := item_read base composite items last room held v ok d member deep
      obtain ⟨less, deeper, u, read⟩ :=
        field_value base _ f d field (deep_not_null d deep) room held v ok
      exact (ih f.slot.base less deeper u read).through _ _ _ _ _ fun inner p inside =>
        .field base _ f d field inside
    cases base with
    | message n => exact told (.message n)
    | payload => exact told .payload
    | list item =>
      obtain ⟨less, each⟩ := list_parts room held item items last v ok
      obtain ⟨u, read⟩ := each d member
      exact (ih item less held u read).through _ _ _ _ _ fun inner p inside =>
        .item item items last d member inside
    | _ => cases room <;> cases ok

-- A repeated key is tolerated in the metadata, where it is ignored, and in what is ignored.
inductive Tolerated (d : Draft) (key : String) (members : List (Option String × Draft))
    (stop : Stop) : Prop
  | metadata (inside : Inside .texts (.record members stop) (.message .event) d)
  | ignored (base : Base) (inside : Inside base (.record members stop) (.message .event) d)
      (ignored : Ignored base members key)
  | within (base : Base) (outer : List (Option String × Draft)) (last : Stop) (name : String)
      (value : Draft) (inside : Inside base (.record outer last) (.message .event) d)
      (ignored : Ignored base outer name) (member : (some name, value) ∈ outer)
      (within : Within (.record members stop) value)

theorem tolerated (d : Draft) (key : String) (members : List (Option String × Draft)) (stop : Stop)
    (repeats : Repeats key members) (within : Within (.record members stop) d) (room : Nat)
    (held : Bool) (e : Event) (ok : Wire.read room held (.message .event) d = .ok e) :
    Tolerated d key members stop := by
  cases situated_in members stop key repeats d within (.message .event) room held e ok with
  | ignored inner outer last name value inside ignored member within =>
    exact .within inner outer last name value inside ignored member within
  | read inner inside =>
    obtain ⟨less, deep, w, read⟩ :=
      inside.read inner (.record members stop) nofun (.message .event) d room held e ok
    have told (composite : Composite inner) : Tolerated d key members stop :=
      .ignored inner inside ⟨composite, fun known =>
        known_once inner members stop key known less deep w read repeats⟩
    cases inner with
    | message m => exact told (.message m)
    | payload => exact told .payload
    | texts => exact .metadata inside
    | choice c =>
      obtain ⟨name, value, rfl, -⟩ := choice_read less deep c members stop w read
      have few : (under key [(name, value)]).length ≤ 1 := List.length_filterMap_le _ _
      exact absurd repeats (Nat.not_lt.2 few)
    | _ => cases less <;> cases read

/-! ### The metadata -/

def Base.holdsTexts : Base → Bool
  | .texts | .payload | .message .event | .message .metadata => true
  | .list item => item.holdsTexts
  | _ => false

theorem texts_above (m : Message) (f : Field) (field : f ∈ m.layout.fields)
    (holds : f.slot.base.holdsTexts = true) : (Base.message m).holdsTexts = true := by
  have table : (Base.message m).holdsTexts = true ∨
      m.layout.fields.all fun f => !f.slot.base.holdsTexts := by
    cases m <;> decide
  refine table.resolve_right fun none => ?_
  have no := List.all_eq_true.1 none f field
  rw [holds] at no
  cases no

theorem kind_with_texts (kind : Kind) (holds : (Base.message kind.message).holdsTexts = true) :
    kind = .buildMetadata := by
  cases kind <;> first | rfl | cases holds

theorem Has.mem (fs : List Field) (row : Row fs) (f : Field) (w : f.slot.Value)
    (has : Has fs row f w) : f ∈ fs := by
  induction has with
  | here => exact List.mem_cons_self
  | behind g fs v row f w has ih => exact List.mem_cons_of_mem g ih

theorem FieldIn.texts_above (base : Base) (d : Draft) (f : Field) (value : Draft)
    (field : FieldIn base d f value) (holds : f.slot.base.holdsTexts = true) :
    base.holdsTexts = true := by
  cases field with
  | member m members stop _ _ record field member =>
    cases record with
    | message => exact Wire.texts_above m f field holds
    | payload => rfl
  | item m all items stop i _ _ list field item =>
    cases list with
    | message => exact Wire.texts_above m f (List.mem_of_getElem? field) holds
    | payload => rfl

theorem Inside.texts_above (part : Draft) (base : Base) (d : Draft)
    (inside : Inside .texts part base d) : base.holdsTexts = true := by
  induction inside with
  | here => rfl
  | item item items stop d member inside ih => exact ih
  | field base d f value field inside ih => exact field.texts_above base d f value ih

-- Of the values of an event, and of a payload, one at most holds texts.
theorem event_texts (e : Event) (f : Field) (w : f.slot.Value)
    (has : Has eventLayout.fields (eventLayout.unpack e) f w)
    (holds : f.slot.base.holdsTexts = true) :
    (⟨f, w⟩ : Σ f : Field, f.slot.Value) = ⟨.required .payload "payload", e.payload⟩ := by
  obtain ⟨id, last, payload⟩ := e
  cases has with
  | here => cases holds
  | behind _ _ _ _ _ _ has =>
    cases has with
    | here => cases holds
    | behind _ _ _ _ _ _ has =>
      cases has with
      | here => rfl
      | behind _ _ _ _ _ _ has => cases has

theorem payload_texts (m : Metadata) (f : Field) (w : f.slot.Value)
    (has : Has metadataLayout.fields (metadataLayout.unpack m) f w) :
    (⟨f, w⟩ : Σ f : Field, f.slot.Value) = ⟨.texts "metadata", m.metadata⟩ := by
  cases has with
  | here => rfl
  | behind _ _ _ _ _ _ has => cases has

theorem metadata_read (d : Draft) (part : Draft) (room : Nat) (held : Bool) (e : Event)
    (ok : Wire.read room held (.message .event) d = .ok e)
    (inside : Inside .texts part (.message .event) d) :
    ∃ m less deep, e.payload = .buildMetadata m ∧
      Wire.read less deep .texts part = .ok m.metadata := by
  cases inside with
  | field _ _ f value field inside =>
    have holds := inside.texts_above
    obtain ⟨less, deep, _, row, w, made, has, read⟩ := field_read _ d f value field room held e ok
    cases made
    cases event_texts e f w has holds
    have inside : Inside .texts part .payload value := inside
    cases inside with
    | field _ _ g inner field inside =>
      have holds := inside.texts_above
      obtain ⟨least, deeper, _, row, u, made, has, read⟩ :=
        field_read _ value g inner field less deep e.payload read
      generalize e.payload = p at made
      cases made with
      | payload kind v =>
        have known := kind_with_texts kind (texts_above kind.message g (has.mem _ _ _ _) holds)
        subst known
        cases payload_texts v g u has
        have inside : Inside .texts part .texts inner := inside
        cases inside with
        | here => exact ⟨v, least, deeper, rfl, read⟩
        | field _ _ _ _ field _ =>
          cases field with
          | member _ _ _ _ _ record _ _ => cases record
          | item _ _ _ _ _ _ _ list _ _ => cases list

-- An event is refused if a key that a part of it is read by is repeated there, but for the
-- metadata, where the last value under a key is taken.
theorem event_with_repeats (text : String) (d : Draft) (document : Grammar.Document d text) :
    (∀ base members stop key, Inside base (.record members stop) (.message .event) d →
      Known base members key → Repeats key members → ∃ flaw, Event.ofText? text = .error flaw) ∧
    ∀ e, Event.ofText? text = .ok e →
      (∀ members stop key, Within (.record members stop) d → Repeats key members →
        Tolerated d key members stop) ∧
      ∀ members stop, Inside .texts (.record members stop) (.message .event) d →
        ∃ m, e.payload = .buildMetadata m ∧ ∀ key s,
          m.metadata.get? key = some s ↔ (under key members).getLast? = some (.text (some s)) := by
  rw [event_of_document d text document]
  refine ⟨fun base members stop key inside known repeats => ?_, fun e ok =>
    ⟨fun members stop key within repeats => ?_, fun members stop inside => ?_⟩⟩
  · cases result : Wire.read depthLimit false (.message .event) d with
    | error flaw => exact ⟨flaw, rfl⟩
    | ok e =>
      obtain ⟨less, deep, v, read⟩ :=
        inside.read base (.record members stop) nofun (.message .event) d depthLimit false e result
      exact absurd repeats (known_once base members stop key known less deep v read)
  · exact tolerated d key members stop repeats within depthLimit false e ok
  · obtain ⟨m, less, deep, payload, read⟩ := metadata_read d _ depthLimit false e ok inside
    exact ⟨m, payload, texts_last less deep members stop m.metadata read⟩

set_option maxRecDepth 4000 in
theorem url_and_metadata_repeated :
    let refused := "\x7b\"payload\":\x7b\"url\":\"a\",\"kind\":\"fetch\",\"url\":\"a\"\x7d\x7d"
    let taken := "\x7b\"x\":true,\"payload\":\x7b\"kind\":\"build_metadata\"," ++
      "\"metadata\":\x7b\"k\":\"1\",\"k\":\"2\"\x7d\x7d,\"x\":[]\x7d"
    let url : Option String × Draft := (some "url", .text (some "a"))
    let fetch := [url, (some "kind", .text (some "fetch")), url]
    let d : Draft := .record [(some "payload", .record fetch .closed)] .closed
    let metadata : List (Option String × Draft) :=
      [(some "k", .text (some "1")), (some "k", .text (some "2"))]
    let contents := [(some "kind", .text (some "build_metadata")),
      (some "metadata", .record metadata .closed)]
    let members : List (Option String × Draft) := [(some "x", .bool true),
      (some "payload", .record contents .closed), (some "x", .list [] .closed)]
    let d' : Draft := .record members .closed
    (Grammar.Document d refused ∧ Inside .payload (.record fetch .closed) (.message .event) d ∧
      Known .payload fetch "url" ∧ Repeats "url" fetch ∧
      ∃ flaw, Event.ofText? refused = .error flaw) ∧
    Grammar.Document d' taken ∧ Within (.record members .closed) d' ∧ Repeats "x" members ∧
      Inside .texts (.record metadata .closed) (.message .event) d' ∧
      Tolerated d' "x" members .closed ∧
      ∃ e m, Event.ofText? taken = .ok e ∧ e.payload = .buildMetadata m ∧
        m.metadata.get? "k" = some "2" := by
  intro refused taken url fetch d metadata contents members d'
  have document : Grammar.Document d refused :=
    (Grammar.document_iff d refused).2 ⟨[], by cbv, rfl, Grammar.no_blanks⟩
  have document' : Grammar.Document d' taken :=
    (Grammar.document_iff d' taken).2 ⟨[], by cbv, rfl, Grammar.no_blanks⟩
  have payload : Field.required .payload "payload" ∈ eventLayout.fields :=
    .tail _ (.tail _ (.head _))
  have inside : Inside .payload (.record fetch .closed) (.message .event) d :=
    .field _ _ (.required .payload "payload") _
      (.member .event _ .closed _ _ (.message .event _) payload (.head _)) .here
  have known : Known .payload fetch "url" :=
    .field _ _ fetch (.text "url") (.payload .fetch fetch (.tail _ (.head _))) (.head _)
  have twice : Repeats "url" fetch := by decide
  have metadataInside : Inside .texts (.record metadata .closed) (.message .event) d' :=
    .field _ _ (.required .payload "payload") _
      (.member .event members .closed _ _ (.message .event _) payload (.tail _ (.head _)))
      (.field _ _ (.texts "metadata") _
        (.member .metadata contents .closed _ _ (.payload .buildMetadata contents (.head _))
          (.head _) (.tail _ (.head _))) .here)
  have within : Within (.record members .closed) d' := .here
  have again : Repeats "x" members := by decide
  let texts : KeyMap String := (KeyMap.insert ∅ "k" "1").insert "k" "2"
  let e : Event := ⟨"", false, .buildMetadata ⟨texts⟩⟩
  have ok : Event.ofText? taken = .ok e := by
    rw [event_of_document d' taken document']
    rfl
  obtain ⟨tolerates, last⟩ := (event_with_repeats taken d' document').2 e ok
  obtain ⟨m, is, found⟩ := last metadata .closed metadataInside
  exact ⟨⟨document, inside, known, twice,
      (event_with_repeats refused d document).1 .payload fetch .closed "url" inside known twice⟩,
    document', within, again, metadataInside, tolerates members .closed "x" within again,
    e, m, ok, is, (found "k" "2").2 rfl⟩

end BuildDigest.Wire
