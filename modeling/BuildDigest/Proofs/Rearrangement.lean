import BuildDigest.Proofs.Records
import Mathlib

set_option autoImplicit false

namespace BuildDigest.Wire

/-! ### Rearrangements -/

def contentFields (kind : String) : List Field :=
  match (Word.ofName? kind : Option Kind) with
  | none => []
  | some known => known.message.layout.fields

mutual
inductive Rearranged (grows : Prop) : Base → Draft → Draft → Prop
  | same (base : Base) (d : Draft) : Rearranged grows base d d
  | list (item : Base) (ds es : List Draft) (stop : Stop)
      (items : RearrangedItems grows item ds es) :
      Rearranged grows (.list item) (.list ds stop) (.list es stop)
  | record (m : Message) (ms ns : List (Option String × Draft)) (stop : Stop)
      (members : RearrangedRecord grows m.layout.fields ms ns) :
      Rearranged grows (.message m) (.record ms stop) (.record ns stop)
  | row (m : Message) (ds es : List Draft) (stop : Stop)
      (items : RearrangedRow grows m.layout.fields ds es) :
      Rearranged grows (.message m) (.list ds stop) (.list es stop)
  | payload (kind : String) (ms ns : List (Option String × Draft)) (stop : Stop)
      (told : (some kindName, .text (some kind)) ∈ ms)
      (members : RearrangedRecord grows (kindField :: contentFields kind) ms ns) :
      Rearranged grows .payload (.record ms stop) (.record ns stop)
  | payloadRow (kind : String) (ds es : List Draft) (stop : Stop)
      (items : RearrangedRow grows (contentFields kind) ds es) :
      Rearranged grows .payload (.list (.text (some kind) :: ds) stop)
        (.list (.text (some kind) :: es) stop)
inductive RearrangedItems (grows : Prop) : Base → List Draft → List Draft → Prop
  | nil (item : Base) : RearrangedItems grows item [] []
  | cons (item : Base) (d e : Draft) (ds es : List Draft) (first : Rearranged grows item d e)
      (others : RearrangedItems grows item ds es) :
      RearrangedItems grows item (d :: ds) (e :: es)
-- The array form of a message: each value in its place is that of the field there.
inductive RearrangedRow (grows : Prop) : List Field → List Draft → List Draft → Prop
  | nil (fs : List Field) : RearrangedRow grows fs [] []
  | cons (f : Field) (fs : List Field) (d e : Draft) (ds es : List Draft)
      (first : Rearranged grows f.slot.base d e) (others : RearrangedRow grows fs ds es) :
      RearrangedRow grows (f :: fs) (d :: ds) (e :: es)
inductive RearrangedMembers (grows : Prop) :
    List Field → List (Option String × Draft) → List (Option String × Draft) → Prop
  | nil (fs : List Field) : RearrangedMembers grows fs [] []
  | keep (fs : List Field) (m : Option String × Draft) (ms ns : List (Option String × Draft))
      (others : RearrangedMembers grows fs ms ns) : RearrangedMembers grows fs (m :: ms) (m :: ns)
  | change (fs : List Field) (f : Field) (d e : Draft) (ms ns : List (Option String × Draft))
      (field : f ∈ fs) (value : Rearranged grows f.slot.base d e)
      (others : RearrangedMembers grows fs ms ns) :
      RearrangedMembers grows fs ((some f.name, d) :: ms) ((some f.name, e) :: ns)
inductive RearrangedRecord (grows : Prop) :
    List Field → List (Option String × Draft) → List (Option String × Draft) → Prop
  | mk (fs : List Field) (ms ns before after gone added : List (Option String × Draft))
      (kept : RearrangedMembers grows fs before after) (was : ms.Perm (before ++ gone))
      (now : ns.Perm (after ++ added)) (lost : ∀ m ∈ gone, Foreign fs m)
      (new : ∀ m ∈ added, Foreign fs m ∧ m.1.isSome ∧ m.2.Readable) (grown : added ≠ [] → grows) :
      RearrangedRecord grows fs ms ns
end

variable {grows : Prop}

theorem RearrangedMembers.same_members (fs : List Field) (ms : List (Option String × Draft)) :
    RearrangedMembers grows fs ms ms := by
  induction ms with
  | nil => exact .nil fs
  | cons m ms ih => exact .keep fs m ms ms ih

theorem Rearranged.null_iff (base : Base) (d e : Draft) (rearranged : Rearranged grows base d e) :
    d = .null ↔ e = .null := by
  cases rearranged with
  | same => exact Iff.rfl
  | _ => exact iff_of_false nofun nofun

/-! ### What is readable and shallow stays so -/

def Fits (room : Nat) (d : Draft) : Prop :=
  d.Readable ∧ d.depth ≤ room

theorem list_fits (items : List Draft) (stop : Stop) (room : Nat) :
    Fits room (.list items stop) ↔
      ∃ less, room = less + 1 ∧ stop = .closed ∧ ∀ d ∈ items, Fits less d := by
  cases room with
  | zero => exact ⟨fun fits => absurd fits.2 (Nat.not_succ_le_zero _), nofun⟩
  | succ less =>
    simp only [Fits, Draft.Readable, Draft.readable_items_iff, Draft.list_depth_le,
      Nat.succ.injEq, exists_eq_left', forall_and]
    tauto

theorem record_fits (members : List (Option String × Draft)) (stop : Stop) (room : Nat) :
    Fits room (.record members stop) ↔
      ∃ less, room = less + 1 ∧ stop = .closed ∧ ∀ m ∈ members, m.1.isSome ∧ Fits less m.2 := by
  cases room with
  | zero => exact ⟨fun fits => absurd fits.2 (Nat.not_succ_le_zero _), nofun⟩
  | succ less =>
    simp only [Fits, Draft.Readable, Draft.readable_members_iff, Draft.record_depth_le,
      Nat.succ.injEq, exists_eq_left', forall_and]
    tauto

mutual
-- New values are readable, but may be of any depth, so that the limit holds for what has them.
theorem Rearranged.fits : ∀ {base : Base} {d e : Draft}, Rearranged grows base d e →
    ∀ (room : Nat), (grows → e.depth ≤ room) → Fits room d → Fits room e
  | _, _, _, .same base d => fun _ _ fits => fits
  | _, _, _, .list item ds es stop items => by
    intro room shallow fits
    obtain ⟨less, rfl, closed, parts⟩ := (list_fits ds stop room).1 fits
    exact (list_fits es stop _).2 ⟨less, rfl, closed, items.fits less
      (fun new => (Draft.list_depth_le es stop less).1 (shallow new)) parts⟩
  | _, _, _, .record m ms ns stop members => by
    intro room shallow fits
    obtain ⟨less, rfl, closed, parts⟩ := (record_fits ms stop room).1 fits
    exact (record_fits ns stop _).2 ⟨less, rfl, closed, members.fits less
      (fun new => (Draft.record_depth_le ns stop less).1 (shallow new)) parts⟩
  | _, _, _, .row m ds es stop items => by
    intro room shallow fits
    obtain ⟨less, rfl, closed, parts⟩ := (list_fits ds stop room).1 fits
    exact (list_fits es stop _).2 ⟨less, rfl, closed, items.fits less
      (fun new => (Draft.list_depth_le es stop less).1 (shallow new)) parts⟩
  | _, _, _, .payload kind ms ns stop told members => by
    intro room shallow fits
    obtain ⟨less, rfl, closed, parts⟩ := (record_fits ms stop room).1 fits
    exact (record_fits ns stop _).2 ⟨less, rfl, closed, members.fits less
      (fun new => (Draft.record_depth_le ns stop less).1 (shallow new)) parts⟩
  | _, _, _, .payloadRow kind ds es stop items => by
    intro room shallow fits
    obtain ⟨less, rfl, closed, parts⟩ := (list_fits _ stop room).1 fits
    obtain ⟨text, rest⟩ := List.forall_mem_cons.1 parts
    refine (list_fits _ stop _).2 ⟨less, rfl, closed, List.forall_mem_cons.2 ⟨text, ?_⟩⟩
    exact items.fits less (fun new => (List.forall_mem_cons.1
      ((Draft.list_depth_le _ stop less).1 (shallow new))).2) rest
theorem RearrangedItems.fits : ∀ {item : Base} {ds es : List Draft},
    RearrangedItems grows item ds es → ∀ (room : Nat), (grows → ∀ e ∈ es, e.depth ≤ room) →
    (∀ d ∈ ds, Fits room d) → ∀ e ∈ es, Fits room e
  | _, _, _, .nil _ => fun _ _ _ _ member => nomatch member
  | _, _, _, .cons item d e ds es first others => fun room shallow fits =>
    List.forall_mem_cons.2
      ⟨first.fits room (fun new => (List.forall_mem_cons.1 (shallow new)).1)
        (List.forall_mem_cons.1 fits).1,
      others.fits room (fun new => (List.forall_mem_cons.1 (shallow new)).2)
        (List.forall_mem_cons.1 fits).2⟩
theorem RearrangedRow.fits : ∀ {fs : List Field} {ds es : List Draft},
    RearrangedRow grows fs ds es → ∀ (room : Nat), (grows → ∀ e ∈ es, e.depth ≤ room) →
    (∀ d ∈ ds, Fits room d) → ∀ e ∈ es, Fits room e
  | _, _, _, .nil _ => fun _ _ _ _ member => nomatch member
  | _, _, _, .cons f fs d e ds es first others => fun room shallow fits =>
    List.forall_mem_cons.2
      ⟨first.fits room (fun new => (List.forall_mem_cons.1 (shallow new)).1)
        (List.forall_mem_cons.1 fits).1,
      others.fits room (fun new => (List.forall_mem_cons.1 (shallow new)).2)
        (List.forall_mem_cons.1 fits).2⟩
theorem RearrangedMembers.fits : ∀ {fs : List Field} {ms ns : List (Option String × Draft)},
    RearrangedMembers grows fs ms ns → ∀ (room : Nat),
    (grows → ∀ n ∈ ns, n.2.depth ≤ room) →
    (∀ m ∈ ms, m.1.isSome ∧ Fits room m.2) → ∀ n ∈ ns, n.1.isSome ∧ Fits room n.2
  | _, _, _, .nil _ => fun _ _ _ _ member => nomatch member
  | _, _, _, .keep fs m ms ns others => fun room shallow fits =>
    List.forall_mem_cons.2 ⟨(List.forall_mem_cons.1 fits).1,
      others.fits room (fun new => (List.forall_mem_cons.1 (shallow new)).2)
        (List.forall_mem_cons.1 fits).2⟩
  | _, _, _, .change fs f d e ms ns _ value others => fun room shallow fits =>
    List.forall_mem_cons.2
      ⟨⟨rfl, value.fits room (fun new => (List.forall_mem_cons.1 (shallow new)).1)
        (List.forall_mem_cons.1 fits).1.2⟩,
      others.fits room (fun new => (List.forall_mem_cons.1 (shallow new)).2)
        (List.forall_mem_cons.1 fits).2⟩
theorem RearrangedRecord.fits : ∀ {fs : List Field} {ms ns : List (Option String × Draft)},
    RearrangedRecord grows fs ms ns → ∀ (room : Nat),
    (grows → ∀ n ∈ ns, n.2.depth ≤ room) →
    (∀ m ∈ ms, m.1.isSome ∧ Fits room m.2) → ∀ n ∈ ns, n.1.isSome ∧ Fits room n.2
  | _, _, _, .mk fs ms ns before after gone added kept was now lost new grown => by
    intro room shallow fits n member
    rcases List.mem_append.1 (now.subset member) with stayed | isNew
    · refine kept.fits room (fun new n inAfter => ?_) (fun m inBefore => ?_) n stayed
      · exact shallow new n (now.symm.subset (List.mem_append_left _ inAfter))
      · exact fits m (was.symm.subset (List.mem_append_left _ inBefore))
    · obtain ⟨-, named, readable⟩ := new n isNew
      exact ⟨named, readable, shallow (grown (List.ne_nil_of_mem isNew)) n member⟩
end

/-! ### What is read stays so -/

def Keeps {α : Type} (read : Draft → Except Flaw α) (d e : Draft) : Prop :=
  ∀ a, read d = .ok a → read e = .ok a

def KeepsAll {α : Type} (read : Draft → Except Flaw α) (ds es : List Draft) : Prop :=
  es.length = ds.length ∧ ∀ e ∈ es, ∃ d ∈ ds, Keeps read d e

theorem keeps_all_append {α : Type} (read : Draft → Except Flaw α) (ds es more others : List Draft)
    (first : KeepsAll read ds es) (rest : KeepsAll read more others) :
    KeepsAll read (ds ++ more) (es ++ others) := by
  refine ⟨by rw [List.length_append, List.length_append, first.1, rest.1], fun e member => ?_⟩
  rcases List.mem_append.1 member with early | late
  · obtain ⟨d, there, keeps⟩ := first.2 e early
    exact ⟨d, List.mem_append_left _ there, keeps⟩
  · obtain ⟨d, there, keeps⟩ := rest.2 e late
    exact ⟨d, List.mem_append_right _ there, keeps⟩

theorem keeps_all_refl {α : Type} (read : Draft → Except Flaw α) (ds : List Draft) :
    KeepsAll read ds ds :=
  ⟨rfl, fun e member => ⟨e, member, fun _ ok => ok⟩⟩

theorem keeps_all_perm {α : Type} (read : Draft → Except Flaw α) (ds es before after : List Draft)
    (keeps : KeepsAll read before after) (was : ds.Perm before) (now : es.Perm after) :
    KeepsAll read ds es := by
  refine ⟨by rw [now.length_eq, keeps.1, was.length_eq], fun e member => ?_⟩
  obtain ⟨d, there, kept⟩ := keeps.2 e (now.subset member)
  exact ⟨d, was.symm.subset there, kept⟩

theorem keeps_all_single {α : Type} (read : Draft → Except Flaw α) (d : Draft) (es : List Draft)
    (keeps : KeepsAll read [d] es) : ∃ e, es = [e] ∧ Keeps read d e := by
  obtain ⟨e, rfl⟩ := List.length_eq_one_iff.1 keeps.1
  obtain ⟨found, there, kept⟩ := keeps.2 e List.mem_cons_self
  exact ⟨e, rfl, List.mem_singleton.1 there ▸ kept⟩

theorem holds_kept (read : Reader) (f : Field) (v : f.slot.Value) (ds es : List Draft)
    (keeps : KeepsAll (readSlot read f.slot) ds es) (holds : Holds read f v ds) :
    Holds read f v es := by
  cases ds with
  | nil =>
    rw [List.length_eq_zero_iff.1 keeps.1]
    exact holds
  | cons d ds =>
    cases ds with
    | nil =>
      obtain ⟨e, rfl, kept⟩ := keeps_all_single _ d es keeps
      exact kept v holds
    | cons other ds => exact holds.elim

theorem holds_row_kept (read : Reader) (fs : List Field) (row : Row fs)
    (ms ns : List (Option String × Draft))
    (keeps : ∀ f ∈ fs, KeepsAll (readSlot read f.slot) (under f.name ms) (under f.name ns))
    (holds : HoldsRow read fs row ms) : HoldsRow read fs row ns := by
  induction fs with
  | nil => trivial
  | cons f fs ih =>
    obtain ⟨first, others⟩ := List.forall_mem_cons.1 keeps
    exact ⟨holds_kept read f row.1 _ _ first holds.1, ih row.2 others holds.2⟩

theorem slot_kept (read : Reader) (slot : Slot) (d e : Draft) (null : d = .null ↔ e = .null)
    (keeps : Keeps (read slot.base) d e) : Keeps (readSlot read slot) d e := by
  cases slot with
  | plain base => exact keeps
  | optional base =>
    intro v ok
    by_cases isNull : d = .null
    · rwa [null.1 isNull, ← isNull]
    · rw [read_optional read base d isNull] at ok
      rw [read_optional read base e (fun same => isNull (null.2 same))]
      obtain ⟨w, found, same⟩ := (bind_ok_iff _ _ _).1 ok
      exact (bind_ok_iff _ _ _).2 ⟨w, keeps w found, same⟩

theorem under_foreign (fs : List Field) (f : Field) (field : f ∈ fs)
    (members : List (Option String × Draft)) (foreign : ∀ m ∈ members, Foreign fs m) :
    under f.name members = [] :=
  List.filterMap_eq_nil_iff.2 fun m member => if_neg (foreign m member f field)

theorem content_fields_distinct (kind : String) :
    ((kindField :: contentFields kind).map Field.name).Nodup := by
  unfold contentFields
  cases (Word.ofName? kind : Option Kind) with
  | none => exact List.nodup_singleton kindName
  | some known => exact List.nodup_cons.2 ⟨kind_no_field known, field_names_distinct known.message⟩

theorem under_contents (name : String) (members : List (Option String × Draft))
    (other : name ≠ kindName) :
    under name (members.filter fun m => m.1 ≠ some kindName) = under name members := by
  rw [under, under, List.filterMap_filter]
  congr 1
  funext m
  by_cases same : m.1 = some name
  · have noKind : m.1 ≠ some kindName := fun kind => other (Option.some.inj (same.symm.trans kind))
    rw [if_pos same, if_pos (decide_eq_true noKind)]
  · rw [if_neg same, ite_self]

theorem RearrangedMembers.whole : ∀ {fs : List Field} {ms ns : List (Option String × Draft)},
    RearrangedMembers grows fs ms ns →
    (∀ m ∈ ms, m.1.isSome ∧ (Foreign fs m → m.2.fault? = none)) →
    ∀ n ∈ ns, n.1.isSome ∧ (Foreign fs n → n.2.fault? = none)
  | _, _, _, .nil _ => fun _ _ member => nomatch member
  | _, _, _, .keep fs m ms ns others => fun whole =>
    List.forall_mem_cons.2 ⟨(List.forall_mem_cons.1 whole).1,
      others.whole (List.forall_mem_cons.1 whole).2⟩
  | _, _, _, .change fs f d e ms ns field _ others => fun whole =>
    List.forall_mem_cons.2 ⟨⟨rfl, fun foreign => absurd rfl (foreign f field)⟩,
      others.whole (List.forall_mem_cons.1 whole).2⟩

theorem RearrangedRecord.whole (fs : List Field) (ms ns : List (Option String × Draft))
    (members : RearrangedRecord grows fs ms ns)
    (whole : ∀ m ∈ ms, m.1.isSome ∧ (Foreign fs m → m.2.fault? = none)) :
    ∀ n ∈ ns, n.1.isSome ∧ (Foreign fs n → n.2.fault? = none) := by
  obtain ⟨_, _, _, before, after, gone, added, kept, was, now, lost, new, grown⟩ := members
  intro n member
  rcases List.mem_append.1 (now.subset member) with stayed | isNew
  · exact kept.whole (fun m inBefore =>
      whole m (was.symm.subset (List.mem_append_left _ inBefore))) n stayed
  · obtain ⟨-, named, readable⟩ := new n isNew
    exact ⟨named, fun _ => readable.sound⟩

theorem payload_kept (room : Nat) (kind : String) (ms ns : List (Option String × Draft))
    (stop : Stop) (p : Payload) (told : (some kindName, .text (some kind)) ∈ ms)
    (keeps : ∀ f ∈ kindField :: contentFields kind,
      KeepsAll (readSlot (Wire.read room true) f.slot) (under f.name ms) (under f.name ns))
    (fits : (∀ m ∈ ms, m.1.isSome ∧ Fits room m.2) → ∀ n ∈ ns, n.1.isSome ∧ Fits room n.2)
    (ok : readPayload room (Wire.read room true) (.record ms stop) = .ok p) :
    readPayload room (Wire.read room true) (.record ns stop) = .ok p := by
  obtain ⟨closed, found, once, readable, contents⟩ := (read_payload_iff _ room ms stop p).1 ok
  have same : Draft.text (some kind) = .text (some found) := by
    rw [← List.mem_singleton, ← once]
    exact (mem_under _ _ _).2 told
  cases same
  have stays := fits readable
  refine (read_payload_iff _ room ns stop p).2 ⟨closed, kind, ?_, stays, ?_⟩
  · have kept := keeps kindField List.mem_cons_self
    rw [once] at kept
    obtain ⟨e, only, text⟩ := keeps_all_single _ _ _ kept
    have read (d : Draft) : Wire.read room true .text d = d.readText := by cases room <;> rfl
    have same := text kind (read (.text (some kind)))
    rw [only, (Draft.read_text_iff e kind).1 ((read e).symm.trans same)]
  · rw [read_contents_iff] at contents ⊢
    cases named : (Word.ofName? kind : Option Kind) with
    | none =>
      rw [named] at contents
      exact contents
    | some known =>
      rw [named] at contents
      obtain ⟨v, record, rfl⟩ := contents
      have distinct := field_names_distinct known.message
      obtain ⟨-, -, holds⟩ := (read_record_iff _ _ _ _ _ distinct).1 record
      refine ⟨v, (read_record_iff _ _ _ _ _ distinct).2 ⟨rfl, fun n member => ?_, ?_⟩, rfl⟩
      · obtain ⟨isNamed, fitting⟩ := stays n (List.mem_of_mem_filter member)
        exact ⟨isNamed, fun _ => fitting.1.sound⟩
      · refine holds_row_kept _ _ _ _ _ (fun f field => ?_) holds
        have other : f.name ≠ kindName := fun same =>
          kind_no_field known (same ▸ List.mem_map_of_mem field)
        rw [under_contents _ ms other, under_contents _ ns other]
        refine keeps f (List.mem_cons_of_mem _ ?_)
        rwa [contentFields, named]

theorem RearrangedRow.same_length (fs : List Field) (ds es : List Draft)
    (items : RearrangedRow grows fs ds es) : es.isEmpty = ds.isEmpty := by
  cases items <;> rfl

theorem payload_row_kept (room : Nat) (kind : String) (ds es : List Draft) (stop : Stop)
    (p : Payload) (empty : es.isEmpty = ds.isEmpty)
    (keeps : ∀ row stop,
      readItems (Wire.read room true) (contentFields kind) ds stop = .ok row →
      readItems (Wire.read room true) (contentFields kind) es stop = .ok row)
    (fits : (∀ d ∈ ds, Fits room d) → ∀ e ∈ es, Fits room e)
    (ok : readPayload room (Wire.read room true) (.list (.text (some kind) :: ds) stop) = .ok p) :
    readPayload room (Wire.read room true) (.list (.text (some kind) :: es) stop) = .ok p := by
  obtain ⟨closed, found, rest, same, readable, contents⟩ :=
    (read_payload_row_iff _ room _ stop p).1 ok
  cases same
  refine (read_payload_row_iff _ room _ stop p).2
    ⟨closed, kind, es, rfl, fits readable, ?_⟩
  rw [read_contents_iff] at contents ⊢
  unfold contentFields at keeps
  cases named : (Word.ofName? kind : Option Kind) with
  | none =>
    rw [named] at contents
    rwa [empty]
  | some known =>
    rw [named] at contents keeps
    obtain ⟨v, row, rfl⟩ := contents
    exact ⟨v, keeps _ _ row, rfl⟩

mutual
theorem Rearranged.read : ∀ {base : Base} {d e : Draft}, Rearranged grows base d e →
    ∀ (room : Nat) (held : Bool), (grows → e.depth ≤ room) → Keeps (Wire.read room held base) d e
  | _, _, _, .same base d => fun _ _ _ _ ok => ok
  | _, _, _, .list item ds es stop items => by
    intro room held shallow vs ok
    obtain ⟨less, rfl, parts, closed⟩ := (read_list room held item ds stop vs).1 ok
    exact (read_list _ held item es stop vs).2 ⟨less, rfl, items.read less held
      (fun new => (Draft.list_depth_le es stop less).1 (shallow new)) vs parts, closed⟩
  | _, _, _, .record m ms ns stop members => by
    intro room held shallow v ok
    have distinct := field_names_distinct m
    obtain ⟨less, rfl, record⟩ := (read_message_record room held m ms stop v).1 ok
    obtain ⟨closed, whole, holds⟩ := (read_record_iff _ _ ms stop _ distinct).1 record
    have keeps := members.read less held distinct
      (fun new => (Draft.record_depth_le ns stop less).1 (shallow new))
    exact (read_message_record _ held m ns stop v).2 ⟨less, rfl,
      (read_record_iff _ _ ns stop _ distinct).2
        ⟨closed, members.whole _ ms ns whole, holds_row_kept _ _ _ ms ns keeps holds⟩⟩
  | _, _, _, .row m ds es stop items => by
    intro room held shallow v ok
    obtain ⟨less, rfl, parts⟩ := (read_message_list room held m ds stop v).1 ok
    exact (read_message_list _ held m es stop v).2 ⟨less, rfl, items.read less held
      (fun new => (Draft.list_depth_le es stop less).1 (shallow new)) _ stop parts⟩
  | _, _, _, .payload kind ms ns stop told members => by
    intro room held shallow p ok
    obtain ⟨less, rfl, read⟩ := (read_payload_record room held ms stop p).1 ok
    have inner := fun new => (Draft.record_depth_le ns stop less).1 (shallow new)
    have keeps := members.read less true (content_fields_distinct kind) inner
    refine (read_payload_record _ held ns stop p).2 ⟨less, rfl, ?_⟩
    exact payload_kept less kind ms ns stop p told keeps (members.fits less inner) read
  | _, _, _, .payloadRow kind ds es stop items => by
    intro room held shallow p ok
    obtain ⟨less, rfl, read⟩ := (read_payload_list room held _ stop p).1 ok
    have inner := fun new => (List.forall_mem_cons.1
      ((Draft.list_depth_le (_ :: es) stop less).1 (shallow new))).2
    exact (read_payload_list _ held _ stop p).2 ⟨less, rfl, payload_row_kept less kind ds es stop p
      items.same_length (items.read less true inner) (items.fits less inner) read⟩
theorem RearrangedItems.read : ∀ {item : Base} {ds es : List Draft},
    RearrangedItems grows item ds es → ∀ (room : Nat) (held : Bool),
    (grows → ∀ e ∈ es, e.depth ≤ room) → ∀ vs : List item.Value,
    List.Forall₂ (fun d v => Wire.read room held item d = .ok v) ds vs →
    List.Forall₂ (fun e v => Wire.read room held item e = .ok v) es vs
  | _, _, _, .nil _ => fun _ _ _ _ read => read
  | _, _, _, .cons item d e ds es first others => by
    intro room held shallow vs read
    cases read with
    | cons head tail =>
      exact .cons (first.read room held (fun new => (List.forall_mem_cons.1 (shallow new)).1) _ head)
        (others.read room held (fun new => (List.forall_mem_cons.1 (shallow new)).2) _ tail)
theorem RearrangedRow.read : ∀ {fs : List Field} {ds es : List Draft},
    RearrangedRow grows fs ds es → ∀ (room : Nat) (held : Bool),
    (grows → ∀ e ∈ es, e.depth ≤ room) → ∀ (row : Row fs) (stop : Stop),
    readItems (Wire.read room held) fs ds stop = .ok row →
    readItems (Wire.read room held) fs es stop = .ok row
  | _, _, _, .nil _ => fun _ _ _ _ _ read => read
  | _, _, _, .cons f fs d e ds es first others => by
    intro room held shallow row stop read
    obtain ⟨v, head, rest⟩ := (bind_ok_iff _ _ _).1 read
    obtain ⟨values, tail, same⟩ := (bind_ok_iff _ _ _).1 rest
    have headKept := slot_kept (Wire.read room held) f.slot d e first.null_iff
      (first.read room held (fun new => (List.forall_mem_cons.1 (shallow new)).1)) v head
    have tailKept := others.read room held
      (fun new => (List.forall_mem_cons.1 (shallow new)).2) values stop tail
    exact (bind_ok_iff _ _ _).2 ⟨v, headKept, (bind_ok_iff _ _ _).2 ⟨values, tailKept, same⟩⟩
theorem RearrangedMembers.read : ∀ {fs : List Field} {ms ns : List (Option String × Draft)},
    RearrangedMembers grows fs ms ns → ∀ (room : Nat) (held : Bool),
    (fs.map Field.name).Nodup → (grows → ∀ n ∈ ns, n.2.depth ≤ room) → ∀ f ∈ fs,
    KeepsAll (readSlot (Wire.read room held) f.slot) (under f.name ms) (under f.name ns)
  | _, _, _, .nil _ => fun _ _ _ _ _ _ => keeps_all_refl _ _
  | _, _, _, .keep fs m ms ns others => by
    intro room held distinct shallow f field
    rw [under_cons f.name m ms, under_cons f.name m ns]
    exact keeps_all_append _ _ _ _ _ (keeps_all_refl _ _) (others.read room held distinct
      (fun new => (List.forall_mem_cons.1 (shallow new)).2) f field)
  | _, _, _, .change fs g d e ms ns known value others => by
    intro room held distinct shallow f field
    rw [under_cons f.name _ ms, under_cons f.name _ ns]
    refine keeps_all_append _ _ _ _ _ ?_ (others.read room held distinct
      (fun new => (List.forall_mem_cons.1 (shallow new)).2) f field)
    have valueKept := slot_kept (Wire.read room held) g.slot d e value.null_iff
      (value.read room held (fun new => (List.forall_mem_cons.1 (shallow new)).1))
    by_cases same : g.name = f.name
    · obtain rfl := List.inj_on_of_nodup_map distinct known field same
      rw [under_same, under_same]
      exact ⟨rfl, fun x member => ⟨d, List.mem_cons_self, List.mem_singleton.1 member ▸ valueKept⟩⟩
    · have other : (some g.name : Option String) ≠ some f.name := fun h => same (Option.some.inj h)
      rw [under_other _ _ other, under_other _ _ other]
      exact keeps_all_refl _ _
theorem RearrangedRecord.read : ∀ {fs : List Field} {ms ns : List (Option String × Draft)},
    RearrangedRecord grows fs ms ns → ∀ (room : Nat) (held : Bool),
    (fs.map Field.name).Nodup → (grows → ∀ n ∈ ns, n.2.depth ≤ room) → ∀ f ∈ fs,
    KeepsAll (readSlot (Wire.read room held) f.slot) (under f.name ms) (under f.name ns)
  | _, _, _, .mk fs ms ns before after gone added kept was now lost new grown => by
    intro room held distinct shallow f field
    have keeps := kept.read room held distinct
      (fun grown n inAfter => shallow grown n (now.symm.subset (List.mem_append_left _ inAfter)))
      f field
    have known (ms stayed foreign : List (Option String × Draft))
        (all : ∀ m ∈ foreign, Foreign fs m) (order : ms.Perm (stayed ++ foreign)) :
        (under f.name ms).Perm (under f.name stayed) := by
      have found := under_perm f.name _ _ order
      rwa [under_append, under_foreign fs f field foreign all, List.append_nil] at found
    exact keeps_all_perm _ _ _ _ _ keeps (known ms before gone lost was)
      (known ns after added (fun m isNew => (new m isNew).1) now)
end

-- A text that is read as an event is a JSON text, and so is every rearrangement of it: one that
-- grows within the limit of depth, and one that does not grow without any limit.
theorem event_of_rearranged (text : String) (e : Event) (ok : Event.ofText? text = .ok e) :
    (∃ d, Grammar.Document d text) ∧
      ∀ d d' text', Grammar.Document d text → Grammar.Document d' text' →
        (Rearranged True (.message .event) d d' → d'.depth ≤ depthLimit →
          Event.ofText? text' = .ok e) ∧
        (Rearranged False (.message .event) d d' → Event.ofText? text' = .ok e) := by
  constructor
  · obtain ⟨d, document, -⟩ := document_of_event text e ok
    exact ⟨d, document⟩
  · intro d d' text' document document'
    rw [event_of_document d text document] at ok
    rw [event_of_document d' text' document']
    exact ⟨fun rearranged shallow => rearranged.read depthLimit false (fun _ => shallow) e ok,
      fun rearranged => rearranged.read depthLimit false False.elim e ok⟩

set_option maxRecDepth 4000 in
theorem fetch_of_rearranged :
    let text := "\x7b\"payload\":\x7b\"kind\":\"fetch\",\"url\":\"a\"\x7d,\"id\":\"7\"\x7d"
    let text' := "\x7b\"x\":1.5,\"x\":[],\"id\":\"7\",\"payload\":" ++
      "\x7b\"id\":null,\"url\":\"a\",\"kind\":\"fetch\"\x7d\x7d"
    let e : Event := ⟨"7", false, .fetch ⟨"a", false⟩⟩
    let kind : Option String × Draft := (some "kind", .text (some "fetch"))
    let url : Option String × Draft := (some "url", .text (some "a"))
    let id : Option String × Draft := (some "id", .text (some "7"))
    let noId : Option String × Draft := (some "id", .null)
    let list : Option String × Draft := (some "x", .list [] .closed)
    let real : Option String × Draft := (some "x", .number .real)
    let fetch : Draft := .record [kind, url] .closed
    let fetch' : Draft := .record [noId, url, kind] .closed
    let d : Draft := .record [(some "payload", fetch), id] .closed
    let d' : Draft := .record [real, list, id, (some "payload", fetch')] .closed
    (Event.ofText? text = .ok e ∧ Grammar.Document d text ∧ Grammar.Document d' text' ∧
      Rearranged True (.message .event) d d' ∧ d'.depth ≤ depthLimit) ∧
      Event.ofText? text' = .ok e := by
  intro text text' e kind url id noId list real fetch fetch' d d'
  have document : Grammar.Document d text :=
    (Grammar.document_iff d text).2 ⟨[], by cbv, rfl, Grammar.no_blanks⟩
  have document' : Grammar.Document d' text' :=
    (Grammar.document_iff d' text').2 ⟨[], by cbv, rfl, Grammar.no_blanks⟩
  have ok : Event.ofText? text = .ok e := by
    rw [event_of_document d text document]
    rfl
  have foreign (fs : List Field) (m : Option String × Draft)
      (absent : m.1 ∉ fs.map fun f => some f.name) : Foreign fs m := fun f field same =>
    absent (List.mem_map.2 ⟨f, field, same.symm⟩)
  have fetched : Rearranged True .payload fetch fetch' :=
    .payload "fetch" _ _ .closed List.mem_cons_self (.mk _ _ _ [kind, url] [kind, url] [] [noId]
      (.same_members _ _) (.refl _) (List.reverse_perm [kind, url, noId]) (List.forall_mem_nil _)
      (List.forall_mem_singleton.2 ⟨foreign _ _ (by decide), rfl, trivial⟩) fun _ => trivial)
  have inRange : Draft.Readable (.number .real) := by simp [Draft.Readable]
  have payload : Field.required .payload "payload" ∈ eventLayout.fields := .tail _ (.tail _ (.head _))
  have rearranged : Rearranged True (.message .event) d d' :=
    .record .event _ _ .closed (.mk _ _ _ [(some "payload", fetch), id]
      [(some "payload", fetch'), id] [] [list, real]
      (.change _ _ fetch fetch' _ _ payload fetched (.same_members _ _)) (.refl _)
      (List.reverse_perm [(some "payload", fetch'), id, list, real]) (List.forall_mem_nil _)
      (List.forall_mem_cons.2 ⟨⟨foreign _ _ (by decide), rfl, trivial, rfl⟩,
        List.forall_mem_singleton.2 ⟨foreign _ _ (by decide), rfl, inRange⟩⟩) fun _ => trivial)
  have shallow : d'.depth ≤ depthLimit := by decide
  exact ⟨⟨ok, document, document', rearranged, shallow⟩,
    ((event_of_rearranged text e ok).2 d d' text' document document').1 rearranged shallow⟩

end BuildDigest.Wire
