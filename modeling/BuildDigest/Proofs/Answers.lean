import BuildDigest.Program
import BuildDigest.Proofs.Faithfulness
import BuildDigest.Proofs.History

set_option autoImplicit false

namespace BuildDigest

namespace Settings

variable (settings : Settings) (clock : Clock) (source : Source)

-- Behind some events of the source that are taken, the session with what is still to come.
def Reaches (events : List Event) (rest : List Feed.Item) (s : Session Findings) : Prop :=
  ∃ fresh, settings.openSession source = .ok (fresh, events.map .ok ++ rest) ∧
    fresh.Takes settings.onViolation clock events ∧
    s = fresh.after settings.watcher settings.onViolation clock events

inductive Refuses (e : Event) (refusal : Refusal) : Prop where
  | mk (before : List Event) (rest : List Feed.Item) (s : Session Findings)
      (reached : settings.Reaches clock source before (.ok e :: rest) s)
      (refused : (s.run.take settings.onViolation clock e).2 = some refusal)

inductive Fails : Failure → Prop where
  | unopened (location reason : String) (missing : source = .file location (.error reason)) :
      Fails (.unopened location reason)
  | unfed (before : List Event) (rest : List Feed.Item) (s : Session Findings) (fault : Feed.Fault)
      (reached : settings.Reaches clock source before (.error fault :: rest) s) :
      Fails (.unfed fault)
  | refused (e : Event) (refusal : Refusal) (refuses : settings.Refuses clock source e refusal) :
      Fails (.refused e.displayId refusal)
  | unlabelled (events : List Event) (s : Session Findings) (failure : UnlabelledFailure)
      (reached : settings.Reaches clock source events [] s)
      (finished : s.finish settings.watcher = .error (.unlabelled failure)) :
      Fails (.unlabelled failure)

theorem open_session_fails (failure : Failure)
    (failed : settings.openSession source = .error failure) :
    settings.Fails clock source failure := by
  cases source with
  | input bytes => cases failed
  | file location content =>
    cases content with
    | ok bytes => cases failed
    | error reason =>
      cases failed
      exact .unopened location reason rfl

theorem finish_fails (s : Session Findings) (failure : Failure)
    (failed : s.finish settings.watcher = .error failure) :
    ∃ unlabelled, failure = .unlabelled unlabelled := by
  unfold Session.finish at failed
  simp only at failed
  split at failed
  · cases failed
  · split at failed
    · cases failed
    · cases failed
      exact ⟨_, rfl⟩

variable {settings clock source}

theorem Reaches.summarize (events : List Event) (s : Session Findings)
    (reached : settings.Reaches clock source events [] s) :
    settings.summarize clock source = s.finish settings.watcher := by
  obtain ⟨fresh, opened, takes, rfl⟩ := reached
  rw [List.append_nil] at opened
  have taken := (Session.take_all_events settings.watcher settings.onViolation clock events fresh _).2
    ⟨takes, rfl⟩
  rw [Settings.summarize, opened]
  simp only [bind, Except.bind, Session.summarize, taken]

theorem Reaches.stop {before : List Event} {item : Feed.Item} {rest : List Feed.Item}
    {s : Session Findings} {failure : Failure}
    (reached : settings.Reaches clock source before (item :: rest) s)
    (stops : s.takeItem settings.watcher settings.onViolation clock item = .error failure) :
    settings.summarize clock source = .error failure := by
  obtain ⟨fresh, opened, takes, rfl⟩ := reached
  have stopped := Session.take_all_stopped settings.watcher settings.onViolation clock before item rest
    failure fresh takes stops
  rw [Settings.summarize, opened]
  simp only [bind, Except.bind, Session.summarize, stopped]

variable (settings clock source)

theorem summarize_fails_iff (failure : Failure) :
    settings.summarize clock source = .error failure ↔ settings.Fails clock source failure := by
  constructor
  · intro failed
    cases opened : settings.openSession source with
    | error first =>
      rw [Settings.summarize, opened] at failed
      cases failed
      exact open_session_fails settings clock source failure opened
    | ok both =>
      obtain ⟨fresh, items⟩ := both
      rcases Session.feed_cases settings.watcher settings.onViolation clock items fresh with
        ⟨events, rfl, takes⟩ | ⟨before, item, rest, first, rfl, takes, stops⟩
      · have reached : settings.Reaches clock source events [] _ :=
          ⟨fresh, by rw [List.append_nil, opened], takes, rfl⟩
        rw [reached.summarize] at failed
        obtain ⟨unlabelled, rfl⟩ := finish_fails settings _ failure failed
        exact .unlabelled events _ unlabelled reached failed
      · have reached : settings.Reaches clock source before (item :: rest) _ :=
          ⟨fresh, opened, takes, rfl⟩
        rw [reached.stop stops] at failed
        cases failed
        rcases (Session.item_fails settings.watcher settings.onViolation clock item _ failure).1 stops
          with ⟨fault, rfl, rfl⟩ | ⟨e, refusal, rfl, refused, rfl⟩
        · exact .unfed before rest _ fault reached
        · exact .refused e refusal (.mk before rest _ reached refused)
  · intro fails
    cases fails with
    | unopened location reason missing =>
      rw [missing]
      rfl
    | unfed before rest s fault reached => exact reached.stop rfl
    | refused e refusal refuses =>
      obtain ⟨before, rest, s, reached, refused⟩ := refuses
      exact reached.stop ((Session.item_fails settings.watcher settings.onViolation
        clock (.ok e) s _).2 (.inr ⟨e, refusal, rfl, refused, rfl⟩))
    | unlabelled events s failure reached finished =>
      rw [reached.summarize]
      exact finished

theorem event_named_iff (failure : Failure)
    (failed : settings.summarize clock source = .error failure) (id : String) :
    failure.eventId? = some id ↔
      ∃ e refusal, settings.Refuses clock source e refusal ∧ id = e.displayId := by
  constructor
  · intro named
    cases (summarize_fails_iff settings clock source failure).1 failed with
    | refused e refusal refuses =>
      cases named
      exact ⟨e, refusal, refuses, rfl⟩
    | _ => cases named
  · rintro ⟨e, refusal, refuses, rfl⟩
    have whole := (summarize_fails_iff settings clock source _).2 (.refused e refusal refuses)
    cases failed.symm.trans whole
    rfl

end Settings

namespace Failure

variable (words : String → String)

def table : List (Shape.Member Failure) :=
  [.always "error" (fun _ => true) .bool, .always "message" (message words) .text,
    .ifAny "event_id" eventId? .text]

theorem json_printed (f : Failure) :
    Grammar.Prints (.record (Shape.Member.trees (table words) f) .closed) (f.json words) := by
  have printed := Grammar.record_written _ _ (Shape.Member.trees_printed (table words) f)
  cases f <;> exact printed

end Failure

namespace Program

-- Any input is answered by one line: the summary with the status zero, or what went wrong.
theorem answer_of_source (words : String → String) (policy patterns : Option String)
    (clock : Clock) (source : Source) :
    let settings := Settings.ofEnvironment policy patterns
    let answer := run words settings clock source
    ∃ line members, answer.text = line ++ "\n" ∧ Grammar.Printable line.toList ∧
      Grammar.Document (.record members .closed) line ∧
      match settings.summarize clock source with
      | .ok outcome =>
          answer.status = 0 ∧ line = outcome.summary.json.text ∧
            .record members .closed = Summary.shape.tree outcome.summary
      | .error failure =>
          answer.status = 1 ∧ ∃ id? : Option String,
            members =
              [(some "error", .bool true), (some "message", .text (some (failure.message words)))] ++
              (id?.map fun id => (some "event_id", Draft.text (some id))).toList ∧
            ∀ id, id? = some id ↔
              ∃ e refusal, settings.Refuses clock source e refusal ∧ id = e.displayId := by
  intro settings answer
  have same : answer = Program.answer words (settings.summarize clock source) := rfl
  cases result : settings.summarize clock source with
  | ok outcome =>
    rw [result] at same
    rw [same]
    exact ⟨outcome.summary.json.text, _, rfl, Grammar.text_printable _,
      Summary.shape.document outcome.summary, rfl, rfl, rfl⟩
  | error failure =>
    rw [result] at same
    rw [same]
    refine ⟨(failure.json words).text, Shape.Member.trees (Failure.table words) failure, rfl,
      Grammar.text_printable _, Grammar.printed_document _ _ (failure.json_printed words), rfl,
      failure.eventId?, ?_, Settings.event_named_iff settings clock source failure result⟩
    cases failure <;> rfl

example :
    (run (fun _ => "EOF while parsing an object at line 1 column 1") .default (fun _ => 0)
      (.input (Hash.utf8 "\x7b"))).text =
      "\x7b\"error\":true,\"message\":\"failed to get build event: line 1: " ++
        "EOF while parsing an object at line 1 column 1\"\x7d\n" := by
  decide +kernel

-- A directory opens, and then nothing can be read of it.
example :
    (run id .default (fun _ => 0) (.file "runs" (.ok
      { bytes := [], failure? := some "Is a directory (os error 21)" }))).text =
      "\x7b\"error\":true,\"message\":" ++
        "\"failed to read build event: line 1: Is a directory (os error 21)\"\x7d\n" := by
  decide +kernel

end Program

end BuildDigest
