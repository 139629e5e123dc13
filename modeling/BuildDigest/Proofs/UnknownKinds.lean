import BuildDigest.Proofs.Base64
import BuildDigest.Proofs.Lines
import BuildDigest.Proofs.Records
import BuildDigest.Proofs.Violations
import Mathlib

set_option autoImplicit false

namespace BuildDigest

namespace Grammar

theorem record_not_blank (members : List (Option String × Draft)) (stop : Stop) (text : String)
    (document : Document (.record members stop) text) : Text.isAllBlank text = false := by
  obtain ⟨before, inner, after, parts, written⟩ := document_written _ text document
  have opened : '{' ∈ inner := by cases written <;> exact List.mem_cons_self
  refine List.all_eq_false.2 ⟨'{', ?_, by decide⟩
  rw [parts]
  exact List.mem_append_right _ (List.mem_append_left _ opened)

end Grammar

namespace Wire

-- The record of an event whose payload tells its kind once, by a word for none of the known kinds.
-- Whatever else the payload holds is readable, and within the limit of depth.
inductive OfUnknownKind (id : String) (last : Bool) : Draft → Prop
  | mk (members contents : List (Option String × Draft)) (kind : String)
      (named : ∀ m ∈ members, m.1.isSome)
      (identified : under "id" members = [] ∧ id = "" ∨ under "id" members = [.text (some id)])
      (marked : under "last_message" members = [] ∧ last = false ∨
        under "last_message" members = [.bool last])
      (payload : under "payload" members = [.record contents .closed])
      (told : under kindName contents = [.text (some kind)])
      (unknown : ∀ known : Kind, Word.name known ≠ kind)
      (readable : ∀ m ∈ contents, m.1.isSome ∧ m.2.Readable)
      (shallow : ∀ m ∈ contents, m.2.depth + 2 ≤ depthLimit) :
      OfUnknownKind id last (.record members .closed)

theorem no_kind_of_name (kind : String) (unknown : ∀ known : Kind, Word.name known ≠ kind) :
    (Word.ofName? kind : Option Kind) = none :=
  List.find?_eq_none.2 fun known _ same => unknown known (of_decide_eq_true same)

theorem holds_given (read : Reader) (f : Field) (v : f.slot.Value) (d : Draft) (ds : List Draft)
    (reads : readSlot read f.slot d = .ok v) (given : ds = [] ∧ f.absent = some v ∨ ds = [d]) :
    Holds read f v ds := by
  rcases given with ⟨rfl, absent⟩ | rfl
  · exact absent
  · exact reads

theorem event_of_unknown_kind (id : String) (last : Bool) (d : Draft) (text : String)
    (unknown : OfUnknownKind id last d) (document : Grammar.Document d text) :
    Event.ofText? text = .ok ⟨id, last, .unknown⟩ := by
  rw [event_of_document d text document]
  cases unknown with
  | mk members contents kind named identified marked payload told unknown readable shallow =>
    have sound := Grammar.record_sound members .closed text document
    have payloadRead : Wire.read 126 false .payload (.record contents .closed) = .ok .unknown :=
      read_unknown_payload 125 false contents kind told (no_kind_of_name kind unknown)
        fun m member => ⟨(readable m member).1, (readable m member).2,
          Nat.le_of_add_le_add_right (shallow m member)⟩
    refine (read_message_record _ _ _ _ _ _).2 ⟨126, rfl,
      (read_record_iff _ _ _ _ _ (field_names_distinct .event)).2
        ⟨rfl, fun m member => ⟨named m member, fun _ => sound m member⟩, ?_, ?_, ?_, trivial⟩⟩
    · exact holds_given _ (.text "id") id (.text (some id)) _ rfl
        (identified.imp_left fun none => ⟨none.1, congrArg some none.2.symm⟩)
    · exact holds_given _ (.bool "last_message") last (.bool last) _ rfl
        (marked.imp_left fun none => ⟨none.1, congrArg some none.2.symm⟩)
    · exact holds_given _ (.required .payload "payload") .unknown _ _ payloadRead (.inr payload)

end Wire

namespace Feed

def OfUnknownKind (line : List UInt8) : Prop :=
  ∃ text d id last, textOf? line = some text ∧ Grammar.Document d text ∧
    Wire.OfUnknownKind id last d

theorem item_of_unknown_kind (line : List UInt8) (unknown : OfUnknownKind line) :
    ∃ id last, ∀ number, item? number line = some (.ok ⟨id, last, .unknown⟩) := by
  obtain ⟨text, d, id, last, read, document, ofKind⟩ := unknown
  have event := Wire.event_of_unknown_kind id last d text ofKind document
  have some : Text.isAllBlank text = false := by
    cases ofKind
    exact Grammar.record_not_blank _ _ text document
  refine ⟨id, last, fun number => ?_⟩
  unfold item?
  rw [read]
  simp only [some, event]
  rfl

def Ahead (ls : List (List UInt8)) : Prop :=
  ∃ line ∈ ls, isBlankLine line = false

-- The same lines with lines of unknown kinds put in between, each in front of lines that it may
-- stand in front of.
inductive Woven (place : List (List UInt8) → Prop) : List (List UInt8) → List (List UInt8) → Prop
  | nil : Woven place [] []
  | keep (line : List UInt8) (ls ms : List (List UInt8)) (others : Woven place ls ms) :
      Woven place (line :: ls) (line :: ms)
  | put (line : List UInt8) (ls ms : List (List UInt8)) (unknown : OfUnknownKind line)
      (here : place ls) (others : Woven place ls ms) : Woven place ls (line :: ms)

def Fault.unnumbered : Fault → Fault
  | unreadable _ reason => unreadable 0 reason
  | undecodable _ text flaw => undecodable 0 text flaw
  | other message => other message

theorem Fault.down_unnumbered (lines : Nat) (fault : Fault) :
    (fault.down lines).unnumbered = fault.unnumbered := by
  cases fault <;> rfl

theorem items_of_blank (number : Nat) (line : List UInt8) (rest : List (List UInt8))
    (blank : isBlankLine line = true) :
    itemsFrom number (line :: rest) = itemsFrom (number + 1) rest := by
  rw [itemsFrom, item_of_line, if_pos blank]
  rfl

theorem items_of_line (number : Nat) (line : List UInt8) (rest : List (List UInt8))
    (some : isBlankLine line = false) :
    itemsFrom number (line :: rest) =
      (itemOf 0 line).mapError (Fault.down number) :: itemsFrom (number + 1) rest := by
  rw [itemsFrom, item_of_line, if_neg (Bool.eq_false_iff.1 some), ← item_down]
  rfl

theorem items_of_unknown_kind (line : List UInt8) (unknown : OfUnknownKind line) :
    ∃ id last, ∀ number rest,
      itemsFrom number (line :: rest) = .ok ⟨id, last, .unknown⟩ :: itemsFrom (number + 1) rest := by
  obtain ⟨id, last, yields⟩ := item_of_unknown_kind line unknown
  refine ⟨id, last, fun number rest => ?_⟩
  rw [itemsFrom, yields]
  rfl

end Feed

def Failure.unnumbered : Failure → Failure
  | unfed fault => unfed fault.unnumbered
  | failure => failure

namespace Run

-- A mark is read by nothing, and is set anew with the next event that is taken.
theorem take_marked (policy : ViolationPolicy) (clock : Clock) (e : Event) (r : Run) (mark : Bool) :
    ((r.markCompleted mark).take policy clock e).2 = (r.take policy clock e).2 ∧
      ((r.take policy clock e).2 = none →
        ((r.markCompleted mark).take policy clock e).1 = (r.take policy clock e).1) := by
  have same : (r.markCompleted mark).payload clock e.payload =
      ((r.payload clock e.payload).1.markCompleted mark, (r.payload clock e.payload).2) :=
    payload_unread (.marking mark) clock e.payload r
  unfold take
  rw [same]
  cases r.payload clock e.payload with
  | mk next refusal =>
    cases refusal with
    | none => exact ⟨rfl, fun _ => rfl⟩
    | some refusal =>
      simp only
      split
      · exact ⟨rfl, fun _ => rfl⟩
      · exact ⟨rfl, nofun⟩

end Run

namespace Session

variable {σ : Type} (w : Watcher σ) (policy : ViolationPolicy) (clock : Clock)

def marked (mark : Bool) (s : Session σ) : Session σ :=
  { s with run := s.run.markCompleted mark }

@[simp] theorem take_item_marked (mark : Bool) (e : Event) (s : Session σ) :
    (s.marked mark).takeItem w policy clock (.ok e) = s.takeItem w policy clock (.ok e) := by
  obtain ⟨refusals, runs⟩ := Run.take_marked policy clock e s.run mark
  rw [take_item_event, take_item_event, marked, refusals]
  cases taken : (s.run.take policy clock e).2 with
  | none => simp only [after, Run.after, List.foldl_cons, List.foldl_nil, runs taken]
  | some refusal => rfl

@[simp] theorem finish_marked (mark : Bool) (s : Session σ) :
    (s.marked mark).finish w =
      (s.finish w).map fun outcome => ⟨{ outcome.summary with bepCompleted := mark }, mark⟩ :=
  finish_unread w (.marking mark) s

-- To take one feed led to what the other led to, but for the mark and the number of a faulty line;
-- once this is settled, the mark is the same as well.
inductive Follows (settled : Prop) :
    Except Failure (Session σ) → Except Failure (Session σ) → Prop
  | ok (s : Session σ) (mark : Bool) (same : settled → s.marked mark = s) :
      Follows settled (.ok s) (.ok (s.marked mark))
  | error (failure other : Failure) (same : other.unnumbered = failure.unnumbered) :
      Follows settled (.error failure) (.error other)

theorem take_item_unknown (signatures : List Pattern) (id : String) (last mark : Bool)
    (s : Session Findings) :
    (s.marked mark).takeItem (Findings.watcher signatures) policy clock
      (.ok ⟨id, last, .unknown⟩) = .ok (s.marked last) := rfl

-- The marks of the two sessions may differ only as long as another event or fault is to come.
theorem take_all_woven (signatures : List Pattern) (settled : Prop)
    (place : List (List UInt8) → Prop) (placed : settled → ∀ ls, place ls → Feed.Ahead ls)
    (ls ms : List (List UInt8)) (woven : Feed.Woven place ls ms) (number other : Nat) (mark : Bool)
    (s : Session Findings) (far : settled → Feed.Ahead ls ∨ s.marked mark = s) :
    Follows settled
      (s.takeAll (Findings.watcher signatures) policy clock (Feed.itemsFrom number ls))
      ((s.marked mark).takeAll (Findings.watcher signatures) policy clock
        (Feed.itemsFrom other ms)) := by
  induction woven generalizing number other mark s with
  | nil =>
    refine .ok s mark fun isSettled => (far isSettled).resolve_left ?_
    rintro ⟨line, member, -⟩
    cases member
  | keep line ls ms others ih =>
    cases blank : Feed.isBlankLine line with
    | true =>
      rw [Feed.items_of_blank number line ls blank, Feed.items_of_blank other line ms blank]
      refine ih _ _ mark s fun isSettled => (far isSettled).imp_left ?_
      rintro ⟨next, member, some⟩
      rcases List.mem_cons.1 member with rfl | later
      · cases blank.symm.trans some
      · exact ⟨next, later, some⟩
    | false =>
      rw [Feed.items_of_line number line ls blank, Feed.items_of_line other line ms blank]
      cases Feed.itemOf 0 line with
      | error fault =>
        refine .error _ _ (congrArg Failure.unfed ?_)
        rw [Feed.Fault.down_unnumbered, Feed.Fault.down_unnumbered]
      | ok e =>
        have same := take_item_marked (Findings.watcher signatures) policy clock mark e s
        simp only [Except.mapError, takeAll, same]
        cases s.takeItem (Findings.watcher signatures) policy clock (.ok e) with
        | error failure => exact .error failure failure rfl
        | ok next => exact ih _ _ next.run.summary.bepCompleted next fun _ => .inr rfl
  | put line ls ms unknown here others ih =>
    obtain ⟨id, last, items⟩ := Feed.items_of_unknown_kind line unknown
    rw [items, takeAll, take_item_unknown]
    exact ih number _ last s fun isSettled => .inl (placed isSettled ls here)

theorem finish_follows (result other : Except Failure (Session σ))
    (follows : Follows True result other) :
    (other >>= finish w).mapError Failure.unnumbered =
      (result >>= finish w).mapError Failure.unnumbered := by
  cases follows with
  | ok s mark same => rw [same trivial]
  | error failure other same => exact congrArg Except.error same

theorem finish_follows_marked (result other : Except Failure (Session σ)) (outcome : Outcome)
    (follows : Follows False result other) (finished : (result >>= finish w) = .ok outcome) :
    ∃ mark, (other >>= finish w) =
      .ok ⟨{ outcome.summary with bepCompleted := mark }, mark⟩ := by
  cases follows with
  | error failure other same => cases finished
  | ok s mark same =>
    have whole : s.finish w = .ok outcome := finished
    refine ⟨mark, ?_⟩
    rw [ok_bind, finish_marked, whole]
    rfl

end Session

def Source.of (origin : Option String) (bytes : List UInt8) : Source :=
  match origin with
  | none => .input bytes
  | some location => .file location (.ok bytes)

theorem Settings.summarize_source (settings : Settings) (clock : Clock) (origin : Option String)
    (bytes : List UInt8) :
    settings.summarize clock (.of origin bytes) =
      (Session.opened settings.watcher origin).summarize settings.watcher settings.onViolation clock
        (Feed.items bytes) := by
  cases origin <;> rfl

-- Lines of unknown kinds in front of a line that is not blank leave the summary, the flag or the
-- failure as it was, but for the number of a faulty line. Wherever they stand, they change at most
-- the mark of the last message, and the flag with it.
theorem Settings.unknown_kinds_leave_no_trace :
    (∀ id last d text, Wire.OfUnknownKind id last d → Grammar.Document d text →
      Event.ofText? text = .ok ⟨id, last, .unknown⟩) ∧
    ∀ (settings : Settings) (clock : Clock) (origin : Option String) (bytes bytes' : List UInt8),
      let run (bytes : List UInt8) := settings.summarize clock (.of origin bytes)
      (Feed.Woven Feed.Ahead (Feed.lines bytes) (Feed.lines bytes') →
        (run bytes').mapError Failure.unnumbered = (run bytes).mapError Failure.unnumbered) ∧
      ∀ outcome, run bytes = .ok outcome →
        Feed.Woven (fun _ => True) (Feed.lines bytes) (Feed.lines bytes') →
        ∃ mark, run bytes' = .ok ⟨{ outcome.summary with bepCompleted := mark }, mark⟩ := by
  refine ⟨Wire.event_of_unknown_kind, fun settings clock origin bytes bytes' => ?_⟩
  intro run
  let s := Session.opened settings.watcher origin
  have runs (bytes : List UInt8) := summarize_source settings clock origin bytes
  have follows (settled : Prop) (place : List (List UInt8) → Prop)
      (placed : settled → ∀ ls, place ls → Feed.Ahead ls)
      (woven : Feed.Woven place (Feed.lines bytes) (Feed.lines bytes')) :=
    Session.take_all_woven settings.onViolation clock settings.signatures settled place placed _ _
      woven 1 1 s.run.summary.bepCompleted s fun _ => .inr rfl
  constructor
  · intro woven
    simp only [run, runs]
    exact Session.finish_follows _ _ _ (follows True Feed.Ahead (fun _ _ ahead => ahead) woven)
  · intro outcome summarized woven
    simp only [run, runs] at summarized ⊢
    exact Session.finish_follows_marked _ _ _ outcome
      (follows False (fun _ => True) False.elim woven) summarized

set_option maxRecDepth 4000 in
-- The members of the payload have names that other kinds use, with values that fit none of them.
theorem Settings.flag_of_unknown_kind :
    let text := "\x7b\"last_message\":true,\"payload\":" ++
      "\x7b\"kind\":\"aborted\",\"label\":5,\"label\":[]\x7d\x7d"
    let payload : Draft := .record [(some "kind", .text (some "aborted")),
      (some "label", .number (.integer 5)), (some "label", .list [] .closed)] .closed
    let d : Draft := .record [(some "last_message", .bool true), (some "payload", payload)] .closed
    let line := Hash.utf8 text
    let truncated := [0x5b]
    let run (bytes : List UInt8) := Settings.default.summarize (fun _ => 0) (.of none bytes)
    (Wire.OfUnknownKind "" true d ∧ Grammar.Document d text ∧
      Event.ofText? text = .ok ⟨"", true, .unknown⟩) ∧
    (Feed.Woven Feed.Ahead (Feed.lines truncated)
        (Feed.lines (line ++ Feed.lineFeed :: truncated)) ∧
      (run (line ++ Feed.lineFeed :: truncated)).mapError Failure.unnumbered =
        (run truncated).mapError Failure.unnumbered) ∧
    ∃ outcome mark, run [] = .ok outcome ∧
      Feed.Woven (fun _ => True) (Feed.lines []) (Feed.lines line) ∧
      run line = .ok ⟨{ outcome.summary with bepCompleted := mark }, mark⟩ := by
  intro text payload d line truncated run
  have ofKind : Wire.OfUnknownKind "" true d :=
    .mk _ _ "aborted" (by decide) (.inl ⟨rfl, rfl⟩) (.inr rfl) rfl rfl
      (fun known => by cases known <;> decide)
      (by simp [Draft.Readable, Draft.ReadableItems]) (by decide)
  have document : Grammar.Document d text :=
    (Grammar.document_iff d text).2 ⟨[], by cbv, rfl, Grammar.no_blanks⟩
  have unknown : Feed.OfUnknownKind line :=
    ⟨text, d, "", true, (Text.Base64.from_utf8_iff _ text).2 rfl, document, ofKind⟩
  have ahead : Feed.Ahead [truncated] := ⟨truncated, List.mem_singleton_self _, by decide +kernel⟩
  have before : Feed.Woven Feed.Ahead (Feed.lines truncated)
      (Feed.lines (line ++ Feed.lineFeed :: truncated)) :=
    .put line [truncated] [truncated] unknown ahead (.keep truncated [] [] .nil)
  have behind : Feed.Woven (fun _ => True) (Feed.lines []) (Feed.lines line) :=
    .put line [] [] unknown trivial .nil
  obtain ⟨reads, leaves⟩ := unknown_kinds_leave_no_trace
  obtain ⟨mark, marked⟩ := (leaves .default (fun _ => 0) none [] line).2 _ rfl behind
  exact ⟨⟨ofKind, document, reads "" true d text ofKind document⟩,
    ⟨before, (leaves .default (fun _ => 0) none _ _).1 before⟩, _, mark, rfl, behind, marked⟩

end BuildDigest
