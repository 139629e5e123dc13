import BuildDigest.Proofs.Reports
import BuildDigest.Proofs.Writing

set_option autoImplicit false

namespace BuildDigest

namespace Payload

def finished? : Payload → Option Wire.Finished
  | .buildFinished m => some m
  | _ => none

end Payload

-- A message without an exit code leaves that of success.
def Wire.Finished.leaves (m : Wire.Finished) : Summary.ExitCode :=
  ⟨(m.exitCode.getD {}).code, (m.exitCode.getD {}).name⟩

def Wire.Finished.Quiet (m : Wire.Finished) : Prop :=
  (m.exitCode.getD {}).code = 0 ∨ (m.exitCode.getD {}).code = 8

theorem Wire.Finished.leaves_suppresses (m : Wire.Finished) :
    m.leaves.suppressesProblems ↔ m.Quiet := by
  rw [Summary.ExitCode.suppressesProblems, Bool.or_eq_true]
  exact or_congr decide_eq_true_iff decide_eq_true_iff

def lastFinished? (events : List Event) : Option Wire.Finished :=
  (events.filterMap fun e => e.payload.finished?).getLast?

@[simp] theorem last_finished_concat (events : List Event) (e : Event) :
    lastFinished? (events ++ [e]) = e.payload.finished?.or (lastFinished? events) := by
  cases finished : e.payload.finished? <;> simp [lastFinished?, finished]

namespace Run

-- No event reports a problem to the summary, and only the end of the build has an exit code.
theorem write_ending (p : Payload) (s : Summary) :
    (p.write s).problems = s.problems ∧
      (p.write s).exitCode = (p.finished?.map Wire.Finished.leaves).or s.exitCode := by
  cases p <;> exact ⟨rfl, rfl⟩

theorem payload_ending (clock : Clock) (p : Payload) (r : Run) :
    (r.payload clock p).1.summary.problems = r.summary.problems ∧
      (r.payload clock p).1.summary.exitCode =
        (p.finished?.map Wire.Finished.leaves).or r.summary.exitCode := by
  cases command : p.commandLine? with
  | none =>
    obtain ⟨targets, tests, written, -⟩ := payload_write clock p r command
    rw [written]
    exact write_ending p r.summary
  | some m =>
    obtain rfl := Payload.command_line_of_eq_some p m command
    obtain ⟨env, line, change, patchset, url, uuid, whole⟩ :=
      Summary.add_command_line_frame r.summary m
    change (r.summary.addCommandLine m).1.problems = _ ∧ (r.summary.addCommandLine m).1.exitCode = _
    rw [whole]
    exact ⟨rfl, rfl⟩

@[simp] theorem take_problems (policy : ViolationPolicy) (clock : Clock) (e : Event) (r : Run) :
    (r.take policy clock e).1.summary.problems = r.summary.problems := by
  rw [take_unmarked (·.summary.problems) policy clock e r fun _ _ => rfl]
  exact (payload_ending clock e.payload r).1

@[simp] theorem take_exit_code (policy : ViolationPolicy) (clock : Clock) (e : Event) (r : Run) :
    (r.take policy clock e).1.summary.exitCode =
      (e.payload.finished?.map Wire.Finished.leaves).or r.summary.exitCode := by
  rw [take_unmarked (·.summary.exitCode) policy clock e r fun _ _ => rfl]
  exact (payload_ending clock e.payload r).2

theorem take_marks (policy : ViolationPolicy) (clock : Clock) (e : Event) (r : Run)
    (taken : (r.take policy clock e).2 = none) :
    (r.take policy clock e).1.summary.bepCompleted = e.lastMessage := by
  unfold take at taken ⊢
  cases outcome : r.payload clock e.payload with
  | mk next refusal =>
    rw [outcome] at taken
    cases refusal with
    | none => rfl
    | some refusal =>
      simp only at taken ⊢
      split
      · rfl
      · next stops =>
        rw [if_neg stops] at taken
        cases taken

@[simp] theorem after_problems (policy : ViolationPolicy) (clock : Clock) (events : List Event) (r : Run) :
    (r.after policy clock events).summary.problems = r.summary.problems := by
  induction events using List.reverseRecOn with
  | nil => rfl
  | append_singleton events e ih => rw [after_concat, take_problems, ih]

@[simp] theorem after_exit_code (policy : ViolationPolicy) (clock : Clock) (events : List Event) (r : Run) :
    (r.after policy clock events).summary.exitCode =
      ((lastFinished? events).map Wire.Finished.leaves).or r.summary.exitCode := by
  induction events using List.reverseRecOn with
  | nil => rfl
  | append_singleton events e ih =>
    rw [after_concat, take_exit_code, ih, last_finished_concat]
    cases e.payload.finished? <;> rfl

end Run

def endsMarked (events : List Event) : Bool :=
  (events.getLast?.map (·.lastMessage)).getD false

namespace Session

variable {σ : Type} (w : Watcher σ) (policy : ViolationPolicy) (clock : Clock)
  (origin : Option String) (events : List Event)

theorem after_marks (takes : (opened w origin).Takes policy clock events) :
    ((opened w origin).run.after policy clock events).summary.bepCompleted = endsMarked events := by
  cases events using List.reverseRecOn with
  | nil =>
    obtain ⟨url, files, fresh⟩ := opened_run w origin
    rw [Run.after, List.foldl_nil, fresh]
    rfl
  | append_singleton events e =>
    have taken := ((takes_concat policy clock events e _).1 takes).2
    rw [Run.after_concat, Run.take_marks policy clock e _ taken]
    simp [endsMarked]

theorem after_suppresses :
    ((opened w origin).run.after policy clock events).summary.exitCode.any
        (·.suppressesProblems) ↔
      ∃ m, lastFinished? events = some m ∧ m.Quiet := by
  obtain ⟨url, files, fresh⟩ := opened_run w origin
  rw [Run.after_exit_code, fresh]
  cases lastFinished? events with
  | none => simp
  | some m => simp [← Wire.Finished.leaves_suppresses]

theorem finish_after :
    let summary := ((opened w origin).run.after policy clock events).summary
    ((opened w origin).after w policy clock events).finish w =
      if summary.exitCode.any (·.suppressesProblems) then
        .ok ⟨{ summary with problems := [] }, summary.bepCompleted⟩
      else
        match w.firstReport events with
        | .error failure => .error (.unlabelled failure)
        | .ok problems => .ok ⟨{ summary with problems := problems }, summary.bepCompleted⟩ := by
  intro summary
  have empty : summary.problems = [] := by
    obtain ⟨url, files, fresh⟩ := opened_run w origin
    exact (Run.after_problems policy clock events _).trans (by rw [fresh])
  have unchanged : { summary with problems := [] } = summary := by rw [← empty]
  have report : (w.report ((opened w origin).after w policy clock events).watch).1 =
      w.firstReport events := by
    rw [after, opened_watch]
    rfl
  rw [finish, report, unchanged]
  simp only [after]
  change (if summary.exitCode.any _ then _ else _) = _
  split
  · rfl
  · cases w.firstReport events with
    | error failure => rfl
    | ok problems => simp only [summary, empty, List.nil_append]

theorem summarize_taken (takes : (opened w origin).Takes policy clock events) :
    (opened w origin).summarize w policy clock (events.map .ok) =
      ((opened w origin).after w policy clock events).finish w := by
  have taken := (take_all_events w policy clock events (opened w origin) _).2 ⟨takes, rfl⟩
  rw [summarize, taken]
  rfl

theorem summarize_reporting (problems : List Problem)
    (takes : (opened w origin).Takes policy clock events)
    (reporting : ((opened w origin).run.after policy clock events).summary.exitCode.any
      (·.suppressesProblems) = false)
    (reported : w.firstReport events = .ok problems) :
    let summary := ((opened w origin).run.after policy clock events).summary
    (opened w origin).summarize w policy clock (events.map .ok) =
      .ok ⟨{ summary with problems := problems }, summary.bepCompleted⟩ := by
  have finished := finish_after w policy clock origin events
  simp only [reporting, Bool.false_eq_true, if_false, reported] at finished
  rw [summarize_taken w policy clock origin events takes, finished]

theorem summarized_report (outcome : Outcome)
    (summarized : (opened w origin).summarize w policy clock (events.map .ok) = .ok outcome)
    (reporting : outcome.summary.exitCode.any (·.suppressesProblems) = false) :
    (opened w origin).Takes policy clock events ∧
      ∃ problems, w.firstReport events = .ok problems ∧
        outcome.summary =
          { ((opened w origin).run.after policy clock events).summary with problems := problems } := by
  cases taken : (opened w origin).takeAll w policy clock (events.map .ok) with
  | error failure =>
    rw [summarize, taken] at summarized
    cases summarized
  | ok s =>
    have takes := ((take_all_events w policy clock events _ s).1 taken).1
    refine ⟨takes, ?_⟩
    rw [summarize_taken w policy clock origin events takes, finish_after] at summarized
    split at summarized
    · next suppresses =>
      cases summarized
      rw [suppresses] at reporting
      cases reporting
    · cases reported : w.firstReport events with
      | error failure =>
        rw [reported] at summarized
        cases summarized
      | ok problems =>
        rw [reported] at summarized
        cases summarized
        exact ⟨problems, rfl, rfl⟩

end Session

-- The last exit code decides: the report is put into the summary, or ends the session, or does not
-- count at all. Nothing else of the summary changes.
theorem Session.finish_of_history {σ : Type} (w : Watcher σ) (policy : ViolationPolicy)
    (clock : Clock) (origin : Option String) (events : List Event) (s : Session σ)
    (taken : (opened w origin).takeAll w policy clock (events.map .ok) = .ok s) :
    let closed (problems : List Problem) : Outcome :=
      ⟨{ s.run.summary with problems := problems }, s.run.summary.bepCompleted⟩
    (opened w origin).summarize w policy clock (events.map .ok) = s.finish w ∧
    s.run.summary.bepCompleted = endsMarked events ∧
    s.run.summary.exitCode = (lastFinished? events).map Wire.Finished.leaves ∧
    ((∃ m, lastFinished? events = some m ∧ m.Quiet) → s.finish w = .ok (closed [])) ∧
    ((¬∃ m, lastFinished? events = some m ∧ m.Quiet) →
      s.finish w =
        match w.firstReport events with
        | .error failure => .error (.unlabelled failure)
        | .ok problems => .ok (closed problems)) := by
  obtain ⟨takes, rfl⟩ := (take_all_events w policy clock events _ s).1 taken
  have finished := finish_after w policy clock origin events
  have suppressed := after_suppresses policy clock origin events (w := w)
  refine ⟨summarize_taken w policy clock origin events takes,
    after_marks w policy clock origin events takes, ?_, fun quiet => ?_, fun loud => ?_⟩
  · obtain ⟨url, files, fresh⟩ := opened_run w origin
    exact (Run.after_exit_code policy clock events _).trans (by rw [fresh, Option.or_none])
  · exact finished.trans (if_pos (suppressed.2 quiet))
  · exact finished.trans (if_neg fun suppresses => loud (suppressed.1 suppresses))

theorem Session.finish_of_interruption :
    let w : Watcher Unit := ⟨(), fun _ mind => mind, fun mind => (.error ⟨.testSummary⟩, mind)⟩
    let events : List Event :=
      [{ payload := .buildFinished { exitCode := some { code := 1 } } },
        { lastMessage := true, payload := .buildFinished { exitCode := some { code := 8 } } }]
    ∃ s, (opened w none).takeAll w .abort (fun _ => 0) (events.map .ok) = .ok s ∧
      (∃ m, lastFinished? events = some m ∧ m.Quiet) ∧
      s.finish w = .ok ⟨{ s.run.summary with problems := [] }, true⟩ := by
  intro w events
  have taken : (opened w none).takeAll w .abort (fun _ => 0) (events.map .ok) =
      .ok ((opened w none).after w .abort (fun _ => 0) events) := rfl
  have quiet : ∃ m, lastFinished? events = some m ∧ m.Quiet := ⟨_, rfl, .inr rfl⟩
  obtain ⟨-, -, -, interrupted, -⟩ := finish_of_history w .abort (fun _ => 0) none events _ taken
  exact ⟨_, taken, quiet, interrupted quiet⟩

end BuildDigest
