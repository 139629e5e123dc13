import BuildDigest.Session
import Mathlib.Data.List.Induction

set_option autoImplicit false

namespace BuildDigest

namespace Payload

-- The label of what the payload reports on, for the kinds that the summary keeps by label.
def subject? : Payload → Option String
  | .targetConfigured m => some m.label
  | .targetCompleted m => some m.label
  | .testResult m => some m.label
  | .testSummary m => some m.label
  | _ => none

end Payload

namespace Event

def concerns (kind : Kind) (label : String) (e : Event) : Bool :=
  e.payload.kind? = some kind && e.payload.subject? = some label

end Event

-- Messages of a kind with a label: how one makes a payload, and how it is had from the payload.
structure Payload.View {M : Type} (kind : Kind) (named : M → String) (make : M → Payload)
    (of? : String → Payload → Option M) : Prop where
  made : ∀ label m, of? label (make m) = if named m = label then some m else none
  other : ∀ label p, (∀ m, p ≠ make m) → of? label p = none
  kinds : ∀ p, p.kind? = some kind ↔ ∃ m, p = make m
  subject : ∀ m, (make m).subject? = some (named m)

namespace Payload.View

variable {M : Type} {kind : Kind} {named : M → String} {make : M → Payload}
  {of? : String → Payload → Option M}

theorem eq_some_iff (v : View kind named make of?) (label : String) (p : Payload) (m : M) :
    of? label p = some m ↔ p = make m ∧ named m = label := by
  constructor
  · intro found
    by_cases ofKind : ∃ n, p = make n
    · obtain ⟨n, rfl⟩ := ofKind
      simp only [v.made, Option.ite_none_right_eq_some, Option.some.injEq] at found
      obtain ⟨same, rfl⟩ := found
      exact ⟨rfl, same⟩
    · rw [v.other label p (not_exists.1 ofKind)] at found
      cases found
  · rintro ⟨rfl, rfl⟩
    rw [v.made, if_pos rfl]

theorem concerns_iff (v : View kind named make of?) (label : String) (e : Event) :
    e.concerns kind label ↔ ∃ m, e.payload = make m ∧ named m = label := by
  simp only [Event.concerns, Bool.and_eq_true, decide_eq_true_eq, v.kinds]
  constructor
  · rintro ⟨⟨m, made⟩, subject⟩
    rw [made, v.subject] at subject
    exact ⟨m, made, Option.some.inj subject⟩
  · rintro ⟨m, made, rfl⟩
    exact ⟨⟨m, made⟩, made ▸ v.subject m⟩

theorem concerns_isSome (v : View kind named make of?) (label : String) (e : Event) :
    e.concerns kind label = (of? label e.payload).isSome := by
  rw [Bool.eq_iff_iff, v.concerns_iff, Option.isSome_iff_exists]
  exact exists_congr fun m => (v.eq_some_iff label e.payload m).symm

end Payload.View

theorem not_isEmpty (text : String) (some : text ≠ "") : ¬text.isEmpty :=
  fun empty => some (String.isEmpty_iff.1 empty)

structure LastAt (p : Event → Bool) (events before : List Event) (e : Event) (after : List Event) :
    Prop where
  split : events = before ++ e :: after
  holds : p e
  last : ∀ x ∈ after, p x = false

theorem LastAt.here (p : Event → Bool) (events : List Event) (e : Event) (holds : p e) :
    LastAt p (events ++ [e]) events e [] :=
  ⟨rfl, holds, fun _ member => absurd member List.not_mem_nil⟩

theorem none_concat (p : Event → Bool) (events : List Event) (e : Event)
    (none : ∀ x ∈ events, p x = false) (other : p e = false) : ∀ x ∈ events ++ [e], p x = false := by
  intro x member
  rcases List.mem_append.1 member with earlier | last
  · exact none x earlier
  · rw [List.mem_singleton.1 last]
    exact other

theorem LastAt.concat (p : Event → Bool) (events before : List Event) (e : Event)
    (after : List Event) (x : Event) (found : LastAt p events before e after) (other : p x = false) :
    LastAt p (events ++ [x]) before e (after ++ [x]) :=
  ⟨by simp [found.split], found.holds, none_concat p after x found.last other⟩

-- A condition on each event of a history, and on the events before it.
def AtEach (condition : List Event → Event → Prop) (events : List Event) : Prop :=
  ∀ before e rest, events = before ++ e :: rest → condition before e

theorem at_each_nothing (condition : List Event → Event → Prop) : AtEach condition [] := by
  intro before e rest split
  simp at split

theorem at_each_concat (condition : List Event → Event → Prop) (events : List Event) (e : Event) :
    AtEach condition (events ++ [e]) ↔ AtEach condition events ∧ condition events e := by
  constructor
  · intro holds
    refine ⟨fun before x rest split => ?_, holds events e [] rfl⟩
    exact holds before x (rest ++ [e]) (by simp [split])
  · rintro ⟨holds, last⟩ before x rest split
    cases rest using List.reverseRecOn with
    | nil =>
      obtain ⟨rfl, same⟩ := List.append_inj' split rfl
      cases same
      exact last
    | append_singleton rest y =>
      rw [← List.cons_append, ← List.append_assoc] at split
      exact holds before x rest (List.append_inj' split rfl).1

theorem at_each_always (condition : Event → Prop) (events : List Event) :
    AtEach (fun _ e => condition e) events ↔ ∀ e ∈ events, condition e := by
  constructor
  · intro holds e member
    obtain ⟨before, rest, split⟩ := List.append_of_mem member
    exact holds before e rest split
  · rintro holds before e rest rfl
    exact holds e (by simp)

def Run.after (policy : ViolationPolicy) (clock : Clock) (events : List Event) (r : Run) : Run :=
  events.foldl (fun r e => (r.take policy clock e).1) r

@[simp] theorem Run.after_concat (policy : ViolationPolicy) (clock : Clock) (events : List Event)
    (e : Event) (r : Run) :
    r.after policy clock (events ++ [e]) = ((r.after policy clock events).take policy clock e).1 := by
  simp [Run.after]

-- Only the mark of the last message is set beside what the payload brings.
theorem Run.take_run (policy : ViolationPolicy) (clock : Clock) (e : Event) (r : Run) :
    (r.take policy clock e).1 = (r.payload clock e.payload).1 ∨
      (r.take policy clock e).1 = (r.payload clock e.payload).1.markCompleted e.lastMessage := by
  unfold take
  cases r.payload clock e.payload with
  | mk next refusal =>
    cases refusal with
    | none => exact .inr rfl
    | some refusal =>
      simp only
      split
      · exact .inr rfl
      · exact .inl rfl

theorem Run.take_unmarked {α : Type} (view : Run → α) (policy : ViolationPolicy) (clock : Clock)
    (e : Event) (r : Run) (unmarked : ∀ last r, view (markCompleted last r) = view r) :
    view (r.take policy clock e).1 = view (r.payload clock e.payload).1 := by
  rcases take_run policy clock e r with same | marked
  · rw [same]
  · rw [marked, unmarked]

def Watcher.after {σ : Type} (w : Watcher σ) (events : List Event) (mind : σ) : σ :=
  events.foldl (fun mind e => w.see e mind) mind

@[simp] theorem Watcher.after_append {σ : Type} (w : Watcher σ) (events more : List Event) (mind : σ) :
    w.after (events ++ more) mind = w.after more (w.after events mind) := by
  simp [Watcher.after]

@[simp] theorem Watcher.after_concat {σ : Type} (w : Watcher σ) (events : List Event) (e : Event)
    (mind : σ) : w.after (events ++ [e]) mind = w.see e (w.after events mind) := by
  simp [Watcher.after]

namespace Session

variable {σ : Type} (w : Watcher σ) (policy : ViolationPolicy) (clock : Clock)

-- A session that nothing has happened in, with the file that the events come from, if there is one.
def opened (origin : Option String) : Session σ :=
  match origin with
  | none => start w
  | some location => (start w).fromFile location

@[simp] theorem opened_watch (origin : Option String) : (opened w origin).watch = w.start := by
  cases origin <;> rfl

theorem opened_run (origin : Option String) :
    ∃ url files, (opened w origin).run = { summary := { eventFileUrl := url, relatedFiles := files } } := by
  cases origin with
  | none => exact ⟨"", ∅, rfl⟩
  | some location =>
    simp only [opened, fromFile, Run.fromFile, Run.change]
    split <;> exact ⟨_, _, rfl⟩

def after (events : List Event) (s : Session σ) : Session σ :=
  ⟨s.run.after policy clock events, w.after events s.watch⟩

def Takes (s : Session σ) (events : List Event) : Prop :=
  AtEach (fun before e => ((s.run.after policy clock before).take policy clock e).2 = none) events

theorem take_item_event (e : Event) (s : Session σ) :
    s.takeItem w policy clock (.ok e) =
      match (s.run.take policy clock e).2 with
      | none => .ok (s.after w policy clock [e])
      | some refusal => .error (.refused e.displayId refusal) := by
  unfold takeItem take
  cases taken : s.run.take policy clock e with
  | mk run refusal => cases refusal <;> simp [after, Run.after, Watcher.after, taken]

@[simp] theorem after_append (events more : List Event) (s : Session σ) :
    s.after w policy clock (events ++ more) =
      (s.after w policy clock events).after w policy clock more := by
  simp [after, Run.after, Watcher.after]

theorem takes_concat (events : List Event) (e : Event) (s : Session σ) :
    s.Takes policy clock (events ++ [e]) ↔
      s.Takes policy clock events ∧ ((s.run.after policy clock events).take policy clock e).2 = none :=
  at_each_concat _ events e

theorem take_all_taken (events : List Event) (rest : List Feed.Item) (s : Session σ)
    (takes : s.Takes policy clock events) :
    s.takeAll w policy clock (events.map .ok ++ rest) =
      (s.after w policy clock events).takeAll w policy clock rest := by
  induction events using List.reverseRecOn generalizing rest with
  | nil => rfl
  | append_singleton events e ih =>
    obtain ⟨earlier, last⟩ := (takes_concat policy clock events e s).1 takes
    rw [List.map_append, List.append_assoc, ih _ earlier]
    have item : (s.after w policy clock events).takeItem w policy clock (.ok e) =
        .ok (s.after w policy clock (events ++ [e])) := by
      rw [take_item_event, after_append]
      exact (by simp only [after, last])
    simp only [List.map_cons, List.map_nil, List.cons_append, List.nil_append, takeAll, item]
    rfl

theorem feed_cases (items : List Feed.Item) (s : Session σ) :
    (∃ events, items = events.map .ok ∧ s.Takes policy clock events) ∨
      ∃ before item rest failure, items = before.map .ok ++ item :: rest ∧
        s.Takes policy clock before ∧
        (s.after w policy clock before).takeItem w policy clock item = .error failure := by
  induction items using List.reverseRecOn with
  | nil => exact .inl ⟨[], rfl, at_each_nothing _⟩
  | append_singleton items item ih =>
    rcases ih with ⟨events, rfl, takes⟩ | ⟨before, first, rest, failure, rfl, takes, stops⟩
    · cases item with
      | error fault => exact .inr ⟨events, .error fault, [], .unfed fault, rfl, takes, rfl⟩
      | ok e =>
        cases last : ((s.run.after policy clock events).take policy clock e).2 with
        | none =>
          exact .inl ⟨events ++ [e], by simp, (takes_concat policy clock events e s).2 ⟨takes, last⟩⟩
        | some refusal =>
          refine .inr ⟨events, .ok e, [], .refused e.displayId refusal, rfl, takes, ?_⟩
          rw [take_item_event]
          simp only [after, last]
    · exact .inr ⟨before, first, rest ++ [item], failure, by simp, takes, stops⟩

theorem take_all_stopped (before : List Event) (item : Feed.Item) (rest : List Feed.Item)
    (failure : Failure) (s : Session σ) (takes : s.Takes policy clock before)
    (stops : (s.after w policy clock before).takeItem w policy clock item = .error failure) :
    s.takeAll w policy clock (before.map .ok ++ item :: rest) = .error failure := by
  rw [take_all_taken w policy clock before _ s takes, takeAll, stops]
  rfl

theorem take_all_events (events : List Event) (s next : Session σ) :
    s.takeAll w policy clock (events.map .ok) = .ok next ↔
      s.Takes policy clock events ∧ next = s.after w policy clock events := by
  constructor
  · intro taken
    rcases feed_cases w policy clock (events.map .ok) s with
      ⟨history, same, takes⟩ | ⟨before, item, rest, failure, same, takes, stops⟩
    · have identical : events = history := (List.map_inj_right fun _ _ => Except.ok.inj).1 same
      subst identical
      have whole := take_all_taken w policy clock events [] s takes
      rw [List.append_nil, taken] at whole
      exact ⟨takes, Except.ok.inj whole⟩
    · rw [same, take_all_stopped w policy clock before item rest failure s takes stops] at taken
      cases taken
  · rintro ⟨takes, rfl⟩
    simpa [takeAll, pure, Except.pure] using take_all_taken w policy clock events [] s takes

theorem item_fails (item : Feed.Item) (s : Session σ) (failure : Failure) :
    s.takeItem w policy clock item = .error failure ↔
      (∃ fault, item = .error fault ∧ failure = .unfed fault) ∨
        ∃ e refusal, item = .ok e ∧ (s.run.take policy clock e).2 = some refusal ∧
          failure = .refused e.displayId refusal := by
  cases item with
  | error fault => simp [takeItem, eq_comm]
  | ok e =>
    rw [take_item_event]
    cases taken : (s.run.take policy clock e).2 <;> simp [taken, eq_comm]

end Session

-- Which events a run takes, and why it refuses the others, told by the events before them alone.
structure Run.Decided (policy : ViolationPolicy) (clock : Clock) (r : Run)
    (admits : List Event → Event → Prop) (refuses : List Event → Event → Refusal → Prop) : Prop where
  either : ∀ before e, admits before e ∨ ∃ refusal, refuses before e refusal
  taken : ∀ before e, AtEach admits before → admits before e →
    ((r.after policy clock before).take policy clock e).2 = none
  refused : ∀ before e refusal, AtEach admits before → refuses before e refusal →
    ((r.after policy clock before).take policy clock e).2 = some refusal

namespace Run.Decided

variable {policy : ViolationPolicy} {clock : Clock} {r : Run} {admits : List Event → Event → Prop}
  {refuses : List Event → Event → Refusal → Prop}

theorem taken_iff (decided : r.Decided policy clock admits refuses) (before : List Event) (e : Event)
    (admitted : AtEach admits before) :
    ((r.after policy clock before).take policy clock e).2 = none ↔ admits before e := by
  refine ⟨fun taken => ?_, decided.taken before e admitted⟩
  rcases decided.either before e with admissible | ⟨refusal, refused⟩
  · exact admissible
  · rw [decided.refused before e refusal admitted refused] at taken
    cases taken

theorem refused_iff (decided : r.Decided policy clock admits refuses) (before : List Event)
    (e : Event) (refusal : Refusal) (admitted : AtEach admits before) :
    ((r.after policy clock before).take policy clock e).2 = some refusal ↔
      refuses before e refusal := by
  refine ⟨fun refused => ?_, decided.refused before e refusal admitted⟩
  rcases decided.either before e with admissible | ⟨other, otherRefused⟩
  · rw [decided.taken before e admitted admissible] at refused
    cases refused
  · rw [decided.refused before e other admitted otherRefused] at refused
    cases refused
    exact otherRefused

theorem item_fails_iff {σ : Type} {s : Session σ} (decided : s.run.Decided policy clock admits refuses)
    (w : Watcher σ) (before : List Event) (item : Feed.Item) (failure : Failure)
    (admitted : AtEach admits before) :
    (s.after w policy clock before).takeItem w policy clock item = .error failure ↔
      (∃ fault, item = .error fault ∧ failure = .unfed fault) ∨
        ∃ e refusal, item = .ok e ∧ refuses before e refusal ∧
          failure = .refused e.displayId refusal := by
  have refused (e : Event) (refusal : Refusal) := decided.refused_iff before e refusal admitted
  rw [Session.item_fails]
  simp only [Session.after, refused]

theorem takes_iff {σ : Type} {s : Session σ} (decided : s.run.Decided policy clock admits refuses)
    (events : List Event) : s.Takes policy clock events ↔ AtEach admits events := by
  induction events using List.reverseRecOn with
  | nil => exact ⟨fun _ => at_each_nothing _, fun _ => at_each_nothing _⟩
  | append_singleton events e ih =>
    rw [Session.takes_concat, at_each_concat, ih]
    exact and_congr_right fun admitted => decided.taken_iff events e admitted

end Run.Decided

end BuildDigest
