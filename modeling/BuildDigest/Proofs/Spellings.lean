import BuildDigest.Proofs.Rendering
import Mathlib

set_option autoImplicit false

namespace BuildDigest.Wire

def Choice.first : (c : Choice) → c.Type
  | .testStatus => .noStatus
  | .testSize => .unknown
  | .abortReason => .unknown
  | .missReason => .differentActionKey

mutual
-- A time and a payload have no zero.
inductive Zero : (base : Base) → base.Value → Prop
  | bool : Zero .bool false
  | int32 : Zero .int32 0
  | int64 : Zero .int64 0
  | uint64 : Zero .uint64 0
  | text : Zero .text ""
  | texts : Zero .texts ∅
  | choice (c : Choice) : Zero (.choice c) c.first
  | list (item : Base) : Zero (.list item) []
  | message (m : Message) (v : m.Type) (row : ZeroRow m.layout.fields (m.layout.unpack v)) :
      Zero (.message m) v
inductive ZeroSlot : (slot : Slot) → slot.Value → Prop
  | plain (base : Base) (v : base.Value) (zero : Zero base v) : ZeroSlot (.plain base) v
  | none (base : Base) : ZeroSlot (.optional base) none
inductive ZeroRow : (fs : List Field) → Row fs → Prop
  | nil : ZeroRow [] ()
  | cons (f : Field) (fs : List Field) (v : f.slot.Value) (row : Row fs) (slot : ZeroSlot f.slot v)
      (others : ZeroRow fs row) : ZeroRow (f :: fs) (v, row)
end

def isZero : (base : Base) → base.Value → Bool
  | .bool, b => !b
  | .int32, n => n = 0
  | .int64, n => n = 0
  | .uint64, n => n = 0
  | .text, s => s = ""
  | .texts, texts => texts.entries.isEmpty
  | .choice .testStatus, word => word = .noStatus
  | .choice .testSize, word => word = .unknown
  | .choice .abortReason, word => word = .unknown
  | .choice .missReason, word => word = .differentActionKey
  | .list _, vs => vs.isEmpty
  | .message .duration, d => d = ⟨0, 0⟩
  | _, _ => false

-- Whether a field that is left out is zero then. Only a payload may not be left out.
def absentZero : (slot : Slot) → Option slot.Value → Bool
  | .plain base, some v => isZero base v
  | .plain base, none => base = .payload
  | .optional _, some v => v.isNone
  | .optional _, none => false

theorem fields_absent_zero (m : Message) :
    m.layout.fields.all fun f => absentZero f.slot f.absent := by
  cases m <;> decide

theorem zero_duration (d : Duration) (zero : Zero (.message .duration) d) : d = ⟨0, 0⟩ := by
  cases zero with
  | message _ _ row =>
    obtain ⟨seconds, nanos⟩ := d
    cases row with
    | cons _ _ _ _ first others =>
      cases others with
      | cons _ _ _ _ second _ =>
        cases first with
        | plain _ _ zeroSeconds =>
          cases second with
          | plain _ _ zeroNanos =>
            cases zeroSeconds
            cases zeroNanos
            rfl

theorem zero_unique (base : Base) (found v : base.Value) (isZero : isZero base found)
    (zero : Zero base v) : found = v := by
  cases zero with
  | bool => simpa [Wire.isZero] using isZero
  | int32 => exact of_decide_eq_true isZero
  | int64 => exact of_decide_eq_true isZero
  | uint64 => exact of_decide_eq_true isZero
  | text => exact of_decide_eq_true isZero
  | texts =>
    obtain ⟨entries, ascending⟩ := found
    obtain rfl := List.isEmpty_iff.1 isZero
    rfl
  | choice c => cases c <;> exact of_decide_eq_true isZero
  | list item => exact List.isEmpty_iff.1 isZero
  | message m v row =>
    cases m with
    | duration =>
      rw [zero_duration v (.message .duration v row)]
      exact of_decide_eq_true isZero
    | _ => cases isZero

def ZerosAbsent (fs : List Field) : Prop :=
  ∀ f ∈ fs, ∀ v : f.slot.Value, ZeroSlot f.slot v → f.absent = some v

theorem zeros_absent (m : Message) : ZerosAbsent m.layout.fields := by
  intro f field v zero
  have isZero := List.all_eq_true.1 (fields_absent_zero m) f field
  obtain ⟨name, slot, absent⟩ := f
  cases zero with
  | plain base v zero =>
    cases absent with
    | none =>
      cases of_decide_eq_true isZero
      cases zero
    | some found => exact congrArg some (zero_unique base found v isZero zero)
  | none base =>
    cases absent with
    | none => cases isZero
    | some found => exact congrArg some (Option.isNone_iff_eq_none.1 isZero)

theorem complete_zero : ∀ {fs : List Field} {row : Row fs}, ZeroRow fs row → ZerosAbsent fs →
    (Found.nothing fs).complete = .ok row
  | _, _, .nil => fun _ => rfl
  | _, _, .cons f fs v row slot others => fun absent =>
    have ⟨first, rest⟩ := List.forall_mem_cons.1 absent
    (complete_cons f fs none (Found.nothing fs) v row).2
      ⟨first v slot, complete_zero others rest⟩

mutual
-- What is neither a message nor a payload, and holds none, is spelled as it is rendered.
inductive Spelled : (base : Base) → base.Value → Draft → Prop
  | rendered (base : Base) (v : base.Value) (d : Draft) (rendered : Renders base v d) :
      Spelled base v d
  | list (item : Base) (vs : List item.Value) (ds : List Draft) (items : SpelledList item vs ds) :
      Spelled (.list item) vs (.list ds .closed)
  | record (m : Message) (v : m.Type) (ordered members : List (Option String × Draft))
      (fields : SpelledMembers m.layout.fields (m.layout.unpack v) ordered)
      (order : members.Perm ordered) : Spelled (.message m) v (.record members .closed)
  | row (m : Message) (v : m.Type) (items : List Draft)
      (fields : SpelledItems m.layout.fields (m.layout.unpack v) items) :
      Spelled (.message m) v (.list items .closed)
  | payloadRecord (kind : Kind) (v : kind.message.Type)
      (ordered members : List (Option String × Draft))
      (fields : SpelledMembers kind.message.layout.fields (kind.message.layout.unpack v) ordered)
      (order : members.Perm ((some kindName, .text (some (Word.name kind))) :: ordered)) :
      Spelled .payload (.of kind v) (.record members .closed)
  | payloadRow (kind : Kind) (v : kind.message.Type) (items : List Draft)
      (fields : SpelledItems kind.message.layout.fields (kind.message.layout.unpack v) items) :
      Spelled .payload (.of kind v) (.list (.text (some (Word.name kind)) :: items) .closed)
  | unknownRow (kind : String) (other : (Word.ofName? kind : Option Kind) = none) :
      Spelled .payload .unknown (.list [.text (some kind)] .closed)
inductive SpelledList : (item : Base) → List item.Value → List Draft → Prop
  | nil (item : Base) : SpelledList item [] []
  | cons (item : Base) (v : item.Value) (vs : List item.Value) (d : Draft) (ds : List Draft)
      (first : Spelled item v d) (others : SpelledList item vs ds) :
      SpelledList item (v :: vs) (d :: ds)
inductive SpelledSlot : (slot : Slot) → slot.Value → Draft → Prop
  | plain (base : Base) (v : base.Value) (d : Draft) (value : Spelled base v d) :
      SpelledSlot (.plain base) v d
  | none (base : Base) : SpelledSlot (.optional base) none .null
  | some (base : Base) (v : base.Value) (d : Draft) (value : Spelled base v d) :
      SpelledSlot (.optional base) (some v) d
-- The members of a record, where any that are zero may be left out.
inductive SpelledMembers : (fs : List Field) → Row fs → List (Option String × Draft) → Prop
  | nil : SpelledMembers [] () []
  | write (f : Field) (fs : List Field) (v : f.slot.Value) (row : Row fs) (d : Draft)
      (members : List (Option String × Draft)) (slot : SpelledSlot f.slot v d)
      (others : SpelledMembers fs row members) :
      SpelledMembers (f :: fs) (v, row) ((some f.name, d) :: members)
  | omit (f : Field) (fs : List Field) (v : f.slot.Value) (row : Row fs)
      (members : List (Option String × Draft)) (zero : ZeroSlot f.slot v)
      (others : SpelledMembers fs row members) : SpelledMembers (f :: fs) (v, row) members
-- The items of a list of fields, where zeros at the end may be cut off.
inductive SpelledItems : (fs : List Field) → Row fs → List Draft → Prop
  | cut (fs : List Field) (row : Row fs) (zeros : ZeroRow fs row) : SpelledItems fs row []
  | write (f : Field) (fs : List Field) (v : f.slot.Value) (row : Row fs) (d : Draft)
      (items : List Draft) (slot : SpelledSlot f.slot v d) (others : SpelledItems fs row items) :
      SpelledItems (f :: fs) (v, row) (d :: items)
end

mutual
theorem Spelled.sayable : ∀ {base : Base} {v : base.Value} {d : Draft},
    Spelled base v d → Sayable d
  | _, _, _, .rendered base v d rendered => rendered.sayable
  | _, _, _, .list item vs ds items => sayable_list ds items.sayable
  | _, _, _, .record m v ordered members fields order => by
    have parts := fields.sayable
    exact sayable_record members fun m member => parts m (order.subset member)
  | _, _, _, .row m v items fields => sayable_list items fields.sayable
  | _, _, _, .payloadRecord kind v ordered members fields order =>
    sayable_beside_kind (Word.name kind) ordered members order fields.sayable
  | _, _, _, .payloadRow kind v items fields =>
    sayable_list _ (List.forall_mem_cons.2 ⟨sayable_text (Word.name kind), fields.sayable⟩)
  | _, _, _, .unknownRow kind other =>
    sayable_list _ (List.forall_mem_singleton.2 (sayable_text kind))
theorem SpelledList.sayable : ∀ {item : Base} {vs : List item.Value} {ds : List Draft},
    SpelledList item vs ds → ∀ d ∈ ds, Sayable d
  | _, _, _, .nil _ => fun _ member => nomatch member
  | _, _, _, .cons item v vs d ds first others =>
    List.forall_mem_cons.2 ⟨first.sayable, others.sayable⟩
theorem SpelledSlot.sayable : ∀ {slot : Slot} {v : slot.Value} {d : Draft},
    SpelledSlot slot v d → Sayable d
  | _, _, _, .plain base v d value => value.sayable
  | _, _, _, .none _ => ⟨trivial, _, .null⟩
  | _, _, _, .some base v d value => value.sayable
theorem SpelledMembers.sayable : ∀ {fs : List Field} {row : Row fs}
    {members : List (Option String × Draft)}, SpelledMembers fs row members →
    ∀ m ∈ members, m.1.isSome ∧ Sayable m.2
  | _, _, _, .nil => fun _ member => nomatch member
  | _, _, _, .write f fs v row d members slot others =>
    List.forall_mem_cons.2 ⟨⟨rfl, slot.sayable⟩, others.sayable⟩
  | _, _, _, .omit f fs v row members _ others => others.sayable
theorem SpelledItems.sayable : ∀ {fs : List Field} {row : Row fs} {items : List Draft},
    SpelledItems fs row items → ∀ d ∈ items, Sayable d
  | _, _, _, .cut _ _ _ => fun _ member => nomatch member
  | _, _, _, .write f fs v row d items slot others =>
    List.forall_mem_cons.2 ⟨slot.sayable, others.sayable⟩
end

theorem Spelled.no_null (base : Base) (v : base.Value) (d : Draft) (spelled : Spelled base v d) :
    d ≠ .null := by
  rintro rfl
  cases spelled with
  | rendered _ _ _ rendered => exact rendered.no_null base v .null rfl

theorem SpelledMembers.of_fields : ∀ {fs : List Field} {row : Row fs}
    {members : List (Option String × Draft)}, SpelledMembers fs row members → OfFields fs members
  | _, _, _, .nil => fun _ member => nomatch member
  | _, _, _, .write f fs v row d members _ others =>
    List.forall_mem_cons.2 ⟨⟨f, List.mem_cons_self, rfl⟩, others.of_fields.behind f fs members⟩
  | _, _, _, .omit f fs v row members _ others => others.of_fields.behind f fs members

mutual
theorem Spelled.read : ∀ {base : Base} {v : base.Value} {d : Draft}, Spelled base v d →
    ∀ (room : Nat) (held : Bool), d.depth ≤ room → Wire.read room held base d = .ok v
  | _, _, _, .rendered base v d rendered => rendered.read
  | _, _, _, .list item vs ds items => by
    intro room held fits
    obtain ⟨less, rfl, fitting⟩ := Draft.list_room ds .closed room fits
    exact (read_list _ _ _ _ _ _).2 ⟨less, rfl, items.read less held fitting, rfl⟩
  | _, _, _, .record m v ordered members fields order =>
    read_ordered_message m v ordered members order fields.sayable fun room held others =>
      fields.read room held others (field_names_distinct m) (zeros_absent m)
  | _, _, _, .row m v items fields => by
    intro room held fits
    obtain ⟨less, rfl, fitting⟩ := Draft.list_room items .closed room fits
    exact (read_message_list _ _ _ _ _ _).2
      ⟨less, rfl, fields.read less held (zeros_absent m) fitting⟩
  | _, _, _, .payloadRecord kind v ordered members fields order =>
    read_ordered_payload kind v ordered members order fields.of_fields fields.sayable
      fun room held others => fields.read room held others (field_names_distinct kind.message)
        (zeros_absent kind.message)
  | _, _, _, .payloadRow kind v items fields => by
    intro room held fits
    obtain ⟨less, rfl, fitting⟩ := Draft.list_room _ .closed room fits
    have shallow := (List.forall_mem_cons.1 fitting).2
    have parts := fields.read less true (zeros_absent kind.message) shallow
    refine (read_payload_list _ _ _ _ _).2 ⟨less, rfl, (read_payload_row_iff _ _ _ _ _).2
      ⟨rfl, _, items, rfl, fun d member => ⟨(fields.sayable d member).1, shallow d member⟩,
        (read_contents_iff _ _ _ _).2 ?_⟩⟩
    rw [kind_of_name]
    exact ⟨v, parts, rfl⟩
  | _, _, _, .unknownRow kind other => by
    intro room held fits
    obtain ⟨less, rfl, -⟩ := Draft.list_room _ .closed room fits
    refine (read_payload_list _ _ _ _ _).2 ⟨less, rfl, (read_payload_row_iff _ _ _ _ _).2
      ⟨rfl, kind, [], rfl, nofun, (read_contents_iff _ _ _ _).2 ?_⟩⟩
    rw [other]
    rfl
theorem SpelledList.read : ∀ {item : Base} {vs : List item.Value} {ds : List Draft},
    SpelledList item vs ds → ∀ (room : Nat) (held : Bool), (∀ d ∈ ds, d.depth ≤ room) →
    List.Forall₂ (fun d v => Wire.read room held item d = .ok v) ds vs
  | _, _, _, .nil _ => fun _ _ _ => .nil
  | _, _, _, .cons item v vs d ds first others => fun room held fits =>
    .cons (first.read room held (List.forall_mem_cons.1 fits).1)
      (others.read room held (List.forall_mem_cons.1 fits).2)
theorem SpelledSlot.read : ∀ {slot : Slot} {v : slot.Value} {d : Draft},
    SpelledSlot slot v d → ∀ (room : Nat) (held : Bool), d.depth ≤ room →
    readSlot (Wire.read room held) slot d = .ok v
  | _, _, _, .plain base v d value => value.read
  | _, _, _, .none _ => fun _ _ _ => rfl
  | _, _, _, .some base v d value => by
    intro room held fits
    have read := value.read room held fits
    rw [read_optional _ base d (value.no_null base v d), read, ok_bind]
theorem SpelledMembers.read : ∀ {fs : List Field} {row : Row fs}
    {ordered : List (Option String × Draft)}, SpelledMembers fs row ordered →
    ∀ (room : Nat) (held : Bool) (members : List (Option String × Draft)),
    (fs.map Field.name).Nodup → ZerosAbsent fs → (∀ m ∈ ordered, m.2.depth ≤ room) →
    (∀ f ∈ fs, (under f.name members).Perm (under f.name ordered)) →
    HoldsRow (Wire.read room held) fs row members
  | _, _, _, .nil => fun _ _ _ _ _ _ _ => trivial
  | _, _, _, .write f fs v row d ordered slot others => by
    intro room held members distinct absent fits same
    obtain ⟨first, later⟩ := List.forall_mem_cons.1 fits
    exact holds_first _ f fs v row d ordered members (slot.read room held first) others.of_fields
      distinct same (others.read room held members (List.nodup_cons.1 distinct).2
        (List.forall_mem_cons.1 absent).2 later)
  | _, _, _, .omit f fs v row ordered zero others => by
    intro room held members distinct absent fits same
    obtain ⟨atField, atOthers⟩ := List.forall_mem_cons.1 same
    obtain ⟨absentField, absentOthers⟩ := List.forall_mem_cons.1 absent
    rw [under_absent _ _ (others.of_fields.fresh f fs ordered distinct)] at atField
    refine ⟨?_, others.read room held members (List.nodup_cons.1 distinct).2 absentOthers fits
      atOthers⟩
    rw [atField.eq_nil]
    exact absentField v zero
theorem SpelledItems.read : ∀ {fs : List Field} {row : Row fs} {items : List Draft},
    SpelledItems fs row items → ∀ (room : Nat) (held : Bool), ZerosAbsent fs →
    (∀ d ∈ items, d.depth ≤ room) → readItems (Wire.read room held) fs items .closed = .ok row
  | _, _, _, .cut fs row zeros => by
    intro room held absent fits
    have complete := complete_zero zeros absent
    cases fs with
    | nil => rfl
    | cons f fs => exact complete
  | _, _, _, .write f fs v row d items slot others => by
    intro room held absent fits
    obtain ⟨first, later⟩ := List.forall_mem_cons.1 fits
    have value := slot.read room held first
    have rest := others.read room held (List.forall_mem_cons.1 absent).2 later
    rw [readItems, value, ok_bind, rest, ok_bind]
    rfl
end

theorem RendersSlot.as_spelled (slot : Slot) (v : slot.Value) (d : Draft)
    (rendered : RendersSlot slot v d) : SpelledSlot slot v d := by
  cases rendered with
  | plain base v d value => exact .plain base v d (.rendered base v d value)
  | none base => exact .none base
  | some base v d value => exact .some base v d (.rendered base v d value)

theorem RendersRow.as_items (fs : List Field) (row : Row fs)
    (members : List (Option String × Draft)) (rendered : RendersRow fs row members) :
    SpelledItems fs row (members.map Prod.snd) := by
  induction fs generalizing members with
  | nil =>
    cases rendered
    exact .cut [] () .nil
  | cons f fs ih =>
    cases rendered with
    | cons _ _ v row d members slot others =>
      exact .write f fs v row d _ (slot.as_spelled f.slot v d) (ih row members others)

-- Every event is spelled as a record of its fields and as a list of them, and it is read back from
-- every text of a spelling within the limit of depth.
theorem event_of_spelling (e : Event) :
    (∃ d, Renders (.message .event) e d ∧ Spelled (.message .event) e d) ∧
    (∃ items, Spelled (.message .event) e (.list items .closed)) ∧
    ∀ d, Spelled (.message .event) e d →
      (∃ text, Grammar.Document d text) ∧
      ∀ text, Grammar.Document d text → d.depth ≤ depthLimit → Event.ofText? text = .ok e := by
  obtain ⟨d, rendered⟩ := renderable 11 (.message .event) (by decide) e
  refine ⟨⟨d, rendered, .rendered (.message .event) e d rendered⟩, ?_, fun d spelled => ⟨?_, ?_⟩⟩
  · cases rendered with
    | message _ _ ordered members row _ => exact ⟨_, .row .event e _ (row.as_items _ _ ordered)⟩
  · obtain ⟨-, text, written⟩ := spelled.sayable
    refine ⟨String.ofList text, ?_⟩
    rw [Grammar.Document, String.toList_ofList]
    exact written.part
  · intro text document shallow
    rw [event_of_document d text document]
    exact spelled.read depthLimit false shallow

set_option maxRecDepth 4000 in
theorem completion_of_spelling :
    let e : Event := ⟨"", true, .targetCompleted ⟨"//a", false, [], some ⟨5, 0⟩, none⟩⟩
    let text := "\x7b\"payload\":[\"target_completed\",\"//a\",false,[],[5]]," ++
      "\"last_message\":true\x7d"
    let items : List Draft := [.text (some "//a"), .bool false, .list [] .closed,
      .list [.number (.integer 5)] .closed]
    let payload : Draft := .list (.text (some "target_completed") :: items) .closed
    let d : Draft := .record [(some "payload", payload), (some "last_message", .bool true)] .closed
    (Spelled (.message .event) e d ∧ Grammar.Document d text ∧ d.depth ≤ depthLimit) ∧
      Event.ofText? text = .ok e := by
  intro e text items payload d
  have document : Grammar.Document d text :=
    (Grammar.document_iff d text).2 ⟨[], by cbv, rfl, Grammar.no_blanks⟩
  have rendered (base : Base) (v : base.Value) (d : Draft) (value : Renders base v d) :
      SpelledSlot (.plain base) v d := .plain base v d (.rendered base v d value)
  have timeout : Spelled (.message .duration) ⟨5, 0⟩ (.list [.number (.integer 5)] .closed) :=
    .row .duration ⟨5, 0⟩ _
      (.write (.int64 "seconds") _ _ _ _ _ (rendered .int64 5 _ (.int64 5))
        (.cut _ _ (.cons (.int32 "nanos") _ _ _ (.plain .int32 0 .int32) .nil)))
  have contents : SpelledItems targetCompletedLayout.fields
      ("//a", false, [], some ⟨5, 0⟩, none, ()) items :=
    .write (.text "label") _ _ _ _ _ (rendered .text "//a" _ (.text "//a"))
      (.write (.bool "success") _ _ _ _ _ (rendered .bool false _ (.bool false))
        (.write (.list .text "tag") _ _ _ _ _ (.plain _ _ _ (.list .text [] [] (.nil .text)))
          (.write (.optionalMessage .duration "test_timeout") _ _ _ _ _ (.some _ _ _ timeout)
            (.cut _ _ (.cons (.optionalMessage .aborted "aborted") _ _ _ (.none _) .nil)))))
  have spelledPayload : Spelled .payload e.payload payload :=
    .payloadRow .targetCompleted ⟨"//a", false, [], some ⟨5, 0⟩, none⟩ items contents
  have spelled : Spelled (.message .event) e d :=
    .record .event e _ _
      (.omit (.text "id") _ _ _ _ (.plain .text "" .text)
        (.write (.bool "last_message") _ _ _ _ _ (rendered .bool true _ (.bool true))
          (.write (.required .payload "payload") _ _ _ _ _ (.plain _ _ _ spelledPayload) .nil)))
      (.swap _ _ _)
  have shallow : d.depth ≤ depthLimit := by decide
  exact ⟨⟨spelled, document, shallow⟩,
    ((event_of_spelling e).2.2 d spelled).2 text document shallow⟩

end BuildDigest.Wire
