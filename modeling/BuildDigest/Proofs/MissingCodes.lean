import BuildDigest.Proofs.Messages

set_option autoImplicit false

namespace BuildDigest

theorem Wire.Finished.missing_leaves (m : Wire.Finished) (missing : m.exitCode = none) :
    m.leaves = ⟨0, ""⟩ := by
  rw [leaves, missing]
  rfl

theorem Wire.Finished.missing_quiet (m : Wire.Finished) (missing : m.exitCode = none) :
    m.Quiet := by
  rw [Quiet, missing]
  exact .inl rfl

theorem last_finished_none (events : List Event)
    (never : messages Payload.finished? events = []) : lastFinished? events = none :=
  List.getLast?_eq_none_iff.2 never

theorem last_finished_missing (events : List Event)
    (finished : messages Payload.finished? events ≠ [])
    (missing : ∀ m ∈ messages Payload.finished? events, m.exitCode = none) :
    ∃ m, lastFinished? events = some m ∧ m.exitCode = none :=
  ⟨_, List.getLast?_eq_some_getLast finished, missing _ (List.getLast_mem finished)⟩

-- If no message tells an exit code, the problems are hidden as soon as there is a message about the
-- end of the build at all; otherwise all of them are reported in their order.
theorem Session.problems_without_code {σ : Type} (w : Watcher σ) (policy : ViolationPolicy)
    (clock : Clock) (origin : Option String) (events : List Event) (s : Session σ)
    (taken : (opened w origin).takeAll w policy clock (events.map .ok) = .ok s)
    (missing : ∀ m ∈ messages Payload.finished? events, m.exitCode = none) :
    let summarized := (opened w origin).summarize w policy clock (events.map .ok)
    let closed (problems : List Problem) : Outcome :=
      ⟨{ s.run.summary with problems := problems }, s.run.summary.bepCompleted⟩
    (messages Payload.finished? events = [] →
      s.run.summary.exitCode = none ∧
      summarized =
        match w.firstReport events with
        | .error failure => .error (.unlabelled failure)
        | .ok problems => .ok (closed problems)) ∧
    (messages Payload.finished? events ≠ [] →
      s.run.summary.exitCode = some ⟨0, ""⟩ ∧ summarized = .ok (closed [])) := by
  obtain ⟨takes, rfl⟩ := (take_all_events w policy clock events _ s).1 taken
  obtain ⟨url, files, fresh⟩ := opened_run w origin
  have code := Run.after_exit_code policy clock events (opened w origin).run
  rw [fresh, Option.or_none, ← fresh] at code
  have suppressed := after_suppresses policy clock origin events (w := w)
  rw [summarize_taken w policy clock origin events takes, finish_after]
  refine ⟨fun never => ?_, fun finished => ?_⟩
  · have last := last_finished_none events never
    rw [last] at code
    refine ⟨code, if_neg fun suppresses => ?_⟩
    obtain ⟨m, found, -⟩ := suppressed.1 suppresses
    cases last.symm.trans found
  · obtain ⟨m, last, untold⟩ := last_finished_missing events finished missing
    rw [last, Option.map_some, m.missing_leaves untold] at code
    exact ⟨code, if_pos (suppressed.2 ⟨m, last, m.missing_quiet untold⟩)⟩

theorem Session.problem_of_truncated :
    let w := Findings.watcher []
    let events : List Event :=
      [{ payload := .targetConfigured { label := "//a" } },
        { payload := .targetCompleted { label := "//a" } }]
    ∃ s outcome, (opened w none).takeAll w .abort (fun _ => 0) (events.map .ok) = .ok s ∧
      (∀ m ∈ messages Payload.finished? events, m.exitCode = none) ∧
      (opened w none).summarize w .abort (fun _ => 0) (events.map .ok) = .ok outcome ∧
      outcome.summary.problems = [.ofTarget "//a"] := by
  intro w events
  have taken : (opened w none).takeAll w .abort (fun _ => 0) (events.map .ok) =
      .ok ((opened w none).after w .abort (fun _ => 0) events) := rfl
  have missing : ∀ m ∈ messages Payload.finished? events, m.exitCode = none :=
    fun _ member => absurd member List.not_mem_nil
  obtain ⟨kept, -⟩ := problems_without_code w .abort _ none events _ taken missing
  exact ⟨_, _, taken, missing, (kept rfl).2, rfl⟩

-- Nobody tells an exit code, and yet the problem is not in the summary.
theorem Session.missing_code_hides_problem :
    let w := Findings.watcher []
    let events : List Event :=
      [{ payload := .actionExecuted { label := "//a", stderr := some { uri := "x" } } },
        { payload := .buildFinished {} }]
    (∀ m ∈ messages Payload.finished? events, m.exitCode = none) ∧
      ∃ p outcome, w.firstReport events = .ok [p] ∧
        (opened w none).summarize w .abort (fun _ => 0) (events.map .ok) = .ok outcome ∧
        p ∉ outcome.summary.problems := by
  intro w events
  refine ⟨fun m member => ?_, _, _, rfl, rfl, List.not_mem_nil⟩
  rw [List.mem_singleton.1 member]

end BuildDigest
