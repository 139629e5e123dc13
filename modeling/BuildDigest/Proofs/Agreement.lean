import BuildDigest.Proofs.Acceptance
import BuildDigest.Proofs.Finish
import Mathlib.Data.List.Forall2

set_option autoImplicit false

namespace BuildDigest

/-! ### Last events -/

theorem occurs_earlier (p : Event → Bool) (events before : List Event) (e : Event)
    (after : List Event) (split : events = before ++ e :: after) (earlier : ∃ x ∈ before, p x) :
    ∃ x ∈ events, p x := by
  obtain ⟨x, member, holds⟩ := earlier
  rw [split]
  exact ⟨x, List.mem_append_left _ member, holds⟩

theorem last_exists (p : Event → Bool) (events : List Event) (once : ∃ x ∈ events, p x) :
    ∃ before e after, LastAt p events before e after := by
  induction events using List.reverseRecOn with
  | nil =>
    obtain ⟨x, member, -⟩ := once
    cases member
  | append_singleton events e ih =>
    cases holds : p e with
    | true => exact ⟨events, e, [], LastAt.here p events e holds⟩
    | false =>
      obtain ⟨x, member, found⟩ := once
      rcases List.mem_append.1 member with earlier | last
      · obtain ⟨before, y, after, found⟩ := ih ⟨x, earlier, found⟩
        exact ⟨before, y, after ++ [e], found.concat p events before y after e holds⟩
      · rw [List.mem_singleton.1 last, holds] at found
        cases found

-- The end of a history behind the last event that a condition holds for, and what comes up to it.
structure SinceLast (p : Event → Bool) (events closed recent : List Event) : Prop where
  split : events = closed ++ recent
  closing : ∀ y, closed.getLast? = some y → p y
  quiet : ∀ x ∈ recent, p x = false

theorem since_last (p : Event → Bool) (events : List Event) :
    ∃ closed recent, SinceLast p events closed recent := by
  by_cases once : ∃ x ∈ events, p x
  · obtain ⟨before, e, after, found⟩ := last_exists p events once
    refine ⟨before ++ [e], after, by simp [found.split], fun y last => ?_, found.last⟩
    rw [List.getLast?_concat] at last
    cases last
    exact found.holds
  · refine ⟨[], events, rfl, fun y last => by simp at last, fun x member => ?_⟩
    cases holds : p x with
    | true => exact absurd ⟨x, member, holds⟩ once
    | false => rfl

/-! ### What is reported -/

theorem target_candidate (signatures : List Pattern) (before : List Event) (e : Event)
    (id label : String) :
    .target id label ∈ e.candidates signatures before ↔
      id = Ident.ofProblem "target" [label] ∧ label ≠ "" ∧
        ∃ t, e.payload = .targetCompleted t ∧ t.label = label ∧ t.Failing := by
  cases payload : e.payload with
  | targetCompleted t =>
    simp only [Event.candidates, payload]
    by_cases failed : t.label ≠ "" ∧ t.Failing
    · rw [if_pos failed, List.mem_singleton]
      constructor
      · intro same
        cases same
        exact ⟨rfl, failed.1, t, rfl, rfl, failed.2⟩
      · rintro ⟨rfl, -, _, same, rfl, -⟩
        cases same
        rfl
    · rw [if_neg failed]
      constructor
      · intro member
        cases member
      · rintro ⟨-, labelled, other, same, named, failing⟩
        cases same
        exact absurd ⟨named ▸ labelled, failing⟩ failed
  | _ => simp [Event.candidates, payload]

theorem test_candidate (signatures : List Pattern) (before : List Event) (e : Event)
    (id label : String) (status : TestStatus) (attempts : List Attempt) :
    .test id label status attempts ∈ e.candidates signatures before ↔
      id = Ident.ofProblem "test" [label] ∧ label ≠ "" ∧ attempts = attemptsOf label before ∧
        ∃ m, e.payload = .testSummary m ∧ m.label = label ∧ m.overallStatus = status ∧
          status ≠ .passed := by
  cases payload : e.payload with
  | testSummary s =>
    simp only [Event.candidates, payload]
    by_cases failed : s.label ≠ "" ∧ s.overallStatus ≠ .passed
    · rw [if_pos failed, List.mem_singleton]
      constructor
      · intro same
        cases same
        exact ⟨rfl, failed.1, rfl, s, rfl, rfl, rfl, failed.2⟩
      · rintro ⟨rfl, -, rfl, _, same, rfl, rfl, -⟩
        cases same
        rfl
    · rw [if_neg failed]
      constructor
      · intro member
        cases member
      · rintro ⟨-, labelled, -, other, same, named, told, status⟩
        cases same
        exact absurd ⟨named ▸ labelled, told ▸ status⟩ failed
  | _ => simp [Event.candidates, payload]

/-! ### What has failed is reported -/

def Summarized (label : String) (events : List Event) : Prop :=
  ∃ before e after, events = before ++ e :: after ∧ e.concerns .testSummary label ∧
    ∃ x ∈ before, x.concerns .testResult label

theorem tested_results (label : String) (events : List Event)
    (tested : ∃ x ∈ events, x.concerns .testResult label) : resultsOf label events ≠ [] := by
  obtain ⟨x, member, result⟩ := tested
  intro empty
  rw [(results_empty_iff label events).1 empty x member] at result
  cases result

theorem last_summary_at (label : String) (events before : List Event) (e : Event)
    (after : List Event) (m : Wire.TestSummary)
    (found : LastAt (·.concerns .testSummary label) events before e after)
    (message : e.payload.summaryOf? label = some m)
    (tested : ∃ x ∈ before, x.concerns .testResult label) :
    lastSummaryOf? label events = some m := by
  have results (more : List Event) : resultsOf label (before ++ more) ≠ [] := by
    obtain ⟨x, member, result⟩ := tested
    exact tested_results label _ ⟨x, List.mem_append_left more member, result⟩
  obtain ⟨split, -, last⟩ := found
  subst split
  induction after using List.reverseRecOn with
  | nil =>
    have untested := results []
    rw [List.append_nil] at untested
    rw [last_summary_concat, if_neg untested, message, Option.some_or]
  | append_singleton after x ih =>
    have other : x.payload.summaryOf? label = none := by
      cases summary : x.payload.summaryOf? label with
      | none => rfl
      | some n =>
        obtain ⟨payload, named⟩ := (Payload.summary_view.eq_some_iff label x.payload n).1 summary
        have concerns : x.concerns .testSummary label :=
          (Payload.summary_view.concerns_iff label x).2 ⟨n, payload, named⟩
        rw [last x (by simp)] at concerns
        cases concerns
    rw [← List.cons_append, ← List.append_assoc, last_summary_concat, if_neg (results _), other,
      Option.none_or]
    exact ih fun y member => last y (List.mem_append_left _ member)

theorem summarized_last (label : String) (events : List Event)
    (summarized : Summarized label events) :
    ∃ before e after m, events = before ++ e :: after ∧ e.payload = .testSummary m ∧
      m.label = label ∧ lastSummaryOf? label events = some m := by
  obtain ⟨before, first, after, split, summary, x, member, result⟩ := summarized
  obtain ⟨between, e, rest, found⟩ :=
    last_exists (·.concerns .testSummary label) (first :: after) ⟨first, .head _, summary⟩
  have last : LastAt (·.concerns .testSummary label) events (before ++ between) e rest :=
    ⟨by rw [split, found.split, List.append_assoc], found.holds, found.last⟩
  obtain ⟨m, payload, named⟩ := (Payload.summary_view.concerns_iff label e).1 found.holds
  have message := (Payload.summary_view.eq_some_iff label e.payload m).2 ⟨payload, named⟩
  exact ⟨before ++ between, e, rest, m, last.split, payload, named,
    last_summary_at label events _ e rest m last message
      ⟨x, List.mem_append_left between member, result⟩⟩

namespace Summary

theorem completed_failing (now : Int64) (t : Wire.TargetCompleted)
    (unsuccessful : (Completed.of now t).success = false)
    (unskipped : (Completed.of now t).abortReason ≠ some .skipped) : t.Failing := by
  unfold Completed.of at unsuccessful unskipped
  cases aborted : t.aborted with
  | none =>
    rw [aborted] at unsuccessful
    exact ⟨.inl unsuccessful, by simp [aborted]⟩
  | some a =>
    rw [aborted] at unskipped
    exact ⟨.inr (by simp [aborted]), by simpa [aborted] using unskipped⟩

theorem failed_target_reported (signatures : List Pattern) (clock : Clock) (label : String)
    (events : List Event) (target : Target) (completion : Completed)
    (recorded : Target.Recorded clock label events (some target))
    (completed : target.completion = some completion) (unsuccessful : completion.success = false)
    (unskipped : completion.abortReason ≠ some .skipped) :
    ∃ p ∈ distinct (candidates signatures events), p.id = Ident.ofProblem "target" [label] := by
  cases recorded with
  | configured before e after m labelled found message pending => cases completed
  | completed before e after m labelled found message between x rest c since closing =>
    cases completed
    obtain ⟨payload, named⟩ := (Payload.completion_view.eq_some_iff label x.payload c).1 closing
    have failing := completed_failing _ c unsuccessful unskipped
    have candidate := (target_candidate signatures (before ++ e :: between) x _ label).2
      ⟨rfl, labelled, c, payload, named, failing⟩
    have split : events = (before ++ e :: between) ++ x :: rest := by
      rw [found.split, since.split]
      simp
    exact candidate_reported signatures events _ x rest _ split candidate

theorem failed_test_reported (signatures : List Pattern) (label : String) (events : List Event)
    (test : Test) (recorded : Test.recorded? label events = some test)
    (summarized : Summarized label events) (failed : test.overallStatus ≠ .passed) :
    ∃ p ∈ distinct (candidates signatures events), p.id = Ident.ofProblem "test" [label] := by
  unfold Test.recorded? at recorded
  split at recorded
  · cases recorded
  · next known =>
    cases recorded
    obtain ⟨before, e, after, m, split, payload, named, last⟩ :=
      summarized_last label events summarized
    have status : m.overallStatus ≠ .passed := by
      rw [Test.ofMessages, last] at failed
      exact failed
    have candidate := (test_candidate signatures before e _ label m.overallStatus _).2
      ⟨rfl, fun empty => known (.inl empty), rfl, m, payload, named, rfl, status⟩
    exact candidate_reported signatures events before e after _ split candidate

end Summary

/-! ### What is reported is in the tables -/

theorem reported_target_configured (signatures : List Pattern) (events : List Event)
    (id label : String) (orderly : Orderly events)
    (reported : .target id label ∈ distinct (candidates signatures events)) :
    label ≠ "" ∧ ∃ x ∈ events, x.concerns .targetConfigured label := by
  obtain ⟨before, e, after, split, member, -⟩ := reported_candidate signatures events _ reported
  obtain ⟨-, labelled, t, payload, rfl, -⟩ :=
    (target_candidate signatures before e id label).1 member
  have admissible : e.payload.Admissible before := orderly before e after split
  rw [payload] at admissible
  exact ⟨labelled, occurs_earlier _ events before e after split admissible.2⟩

theorem orderly_summary_tested (events before : List Event) (e : Event) (after : List Event)
    (m : Wire.TestSummary) (orderly : Orderly events) (split : events = before ++ e :: after)
    (payload : e.payload = .testSummary m) : ∃ x ∈ before, x.concerns .testResult m.label := by
  have admissible : e.payload.Admissible before := orderly before e after split
  rw [payload] at admissible
  exact admissible.2

theorem reported_test_tested (signatures : List Pattern) (events : List Event) (id label : String)
    (status : TestStatus) (attempts : List Attempt) (orderly : Orderly events)
    (reported : .test id label status attempts ∈ distinct (candidates signatures events)) :
    label ≠ "" ∧ ∃ x ∈ events, x.concerns .testResult label := by
  obtain ⟨before, e, after, split, member, -⟩ := reported_candidate signatures events _ reported
  obtain ⟨-, labelled, -, m, payload, rfl, -⟩ :=
    (test_candidate signatures before e id label status attempts).1 member
  have tested := orderly_summary_tested events before e after m orderly split payload
  exact ⟨labelled, occurs_earlier _ events before e after split tested⟩

namespace Session

theorem summarized_tables (settings : Settings) (policy : ViolationPolicy) (clock : Clock)
    (origin : Option String) (events : List Event) (outcome : Outcome)
    (summarized : (opened settings.watcher origin).summarize settings.watcher policy clock
      (events.map .ok) = .ok outcome)
    (reporting : outcome.summary.exitCode.any (·.suppressesProblems) = false) :
    outcome.summary.problems = distinct (candidates settings.signatures events) ∧
      (∀ label, Summary.Target.Recorded clock label events (outcome.summary.targets.get? label)) ∧
      (∀ label, outcome.summary.tests.get? label = Summary.Test.recorded? label events) ∧
      (policy = .abort → Orderly events) := by
  obtain ⟨takes, problems, reported, whole⟩ :=
    summarized_report settings.watcher policy clock origin events outcome summarized reporting
  obtain ⟨url, files, fresh⟩ := opened_run settings.watcher origin
  rw [whole]
  refine ⟨Findings.first_report_ok settings.signatures events problems reported, fun label => ?_,
    fun label => ?_, fun aborts => ?_⟩
  · exact Run.after_targets policy clock events _ label (by rw [fresh]) (by rw [fresh])
  · exact Run.after_tests policy clock events _ label (by rw [fresh])
  · rw [aborts] at takes
    exact (takes_iff_orderly settings.watcher clock origin events).1 takes

end Session

-- What the tables say has failed is reported, and what is reported has its entry in the tables.
theorem Session.failures_of_history (settings : Settings) (policy : ViolationPolicy) (clock : Clock)
    (origin : Option String) (events : List Event) (outcome : Outcome)
    (summarized : (opened settings.watcher origin).summarize settings.watcher policy clock
      (events.map .ok) = .ok outcome)
    (reporting : outcome.summary.exitCode.any (·.suppressesProblems) = false) :
    (∀ label target completion, outcome.summary.targets.get? label = some target →
      target.completion = some completion → completion.success = false →
      completion.abortReason ≠ some .skipped →
      ∃ p ∈ outcome.summary.problems, p.id = Ident.ofProblem "target" [label]) ∧
    (∀ label test, outcome.summary.tests.get? label = some test → Summarized label events →
      test.overallStatus ≠ .passed →
      ∃ p ∈ outcome.summary.problems, p.id = Ident.ofProblem "test" [label]) ∧
    (policy = .abort →
      (∀ id label, .target id label ∈ outcome.summary.problems →
        outcome.summary.targets.contains label) ∧
      ∀ id label status attempts, .test id label status attempts ∈ outcome.summary.problems →
        outcome.summary.tests.contains label) := by
  obtain ⟨problems, targets, tests, orderly⟩ :=
    summarized_tables settings policy clock origin events outcome summarized reporting
  rw [problems]
  refine ⟨fun label target completion found completed unsuccessful unskipped => ?_,
    fun label test found closed failed => ?_,
    fun aborts => ⟨fun id label member => ?_, fun id label status attempts member => ?_⟩⟩
  · exact Summary.failed_target_reported settings.signatures clock label events target completion
      (found ▸ targets label) completed unsuccessful unskipped
  · exact Summary.failed_test_reported settings.signatures label events test
      ((tests label).symm.trans found) closed failed
  · have configured :=
      reported_target_configured settings.signatures events id label (orderly aborts) member
    simp only [Payload.configuration_view.concerns_iff] at configured
    rw [KeyMap.contains]
    exact (Summary.Target.recorded_isSome clock label events _ (targets label)).2 configured
  · have tested := reported_test_tested settings.signatures events id label status attempts
      (orderly aborts) member
    simp only [Payload.result_view.concerns_iff] at tested
    rw [KeyMap.contains, tests label]
    exact (Summary.Test.recorded_isSome label events).2 tested

theorem Session.failure_of_reconfigured_target :
    let settings := Settings.default
    let events : List Event :=
      [{ payload := .targetConfigured { label := "//a" } },
        { payload := .targetCompleted { label := "//a", success := true } },
        { payload := .targetConfigured { label := "//a" } },
        { payload := .targetCompleted { label := "//a", aborted := some { reason := .timeOut } } }]
    ∃ outcome target completion, (opened settings.watcher none).summarize settings.watcher .abort
        (fun _ => 0) (events.map .ok) = .ok outcome ∧
      outcome.summary.exitCode.any (·.suppressesProblems) = false ∧
      outcome.summary.targets.get? "//a" = some target ∧ target.completion = some completion ∧
      completion.success = false ∧ completion.abortReason ≠ some .skipped ∧
      (∃ p ∈ outcome.summary.problems, p.id = Ident.ofProblem "target" ["//a"]) ∧
      outcome.summary.targets.contains "//a" := by
  intro settings events
  obtain ⟨targets, -, tables⟩ :=
    failures_of_history settings .abort (fun _ => 0) none events _ rfl rfl
  have unskipped : some AbortReason.timeOut ≠ some .skipped := by decide
  refine ⟨_, _, _, rfl, rfl, rfl, rfl, rfl, unskipped, targets "//a" _ _ rfl rfl rfl unskipped, ?_⟩
  exact (tables rfl).1 _ _ (.head _)

/-! ### A test in a problem and in the table -/

structure Attempt.Shows (a : Attempt) (r : Summary.TestResult) : Prop where
  run : a.run = r.run
  shard : a.shard = r.shard
  attempt : a.attempt = r.attempt
  status : a.status = r.status

theorem attempts_show (messages : List Wire.TestResult) :
    List.Forall₂ Attempt.Shows (messages.map .ofResult) (messages.map .of) := by
  induction messages with
  | nil => exact .nil
  | cons m rest ih => exact .cons ⟨rfl, rfl, rfl, rfl⟩ ih

@[simp] theorem results_append (label : String) (events more : List Event) :
    resultsOf label (events ++ more) = resultsOf label events ++ resultsOf label more :=
  List.filterMap_append

theorem results_summary (label : String) (e : Event) (summary : e.concerns .testSummary label) :
    resultsOf label [e] = [] := by
  obtain ⟨m, payload, -⟩ := (Payload.summary_view.concerns_iff label e).1 summary
  simp [resultsOf, payload, Payload.resultOf?]

theorem attempts_since (label : String) (events closed recent : List Event)
    (since : SinceLast (·.concerns .testSummary label) events closed recent) :
    attemptsOf label events = (resultsOf label recent).map .ofResult := by
  obtain ⟨rfl, closing, quiet⟩ := since
  induction recent using List.reverseRecOn with
  | nil =>
    rw [List.append_nil]
    cases closed using List.reverseRecOn with
    | nil => rfl
    | append_singleton closed y =>
      rw [attempts_concat, if_pos (closing y (by simp))]
      rfl
  | append_singleton recent e ih =>
    have unsummarized : ¬e.concerns .testSummary label := by simp [quiet e (by simp)]
    rw [← List.append_assoc, attempts_concat, if_neg unsummarized,
      ih fun x member => quiet x (List.mem_append_left _ member), results_concat]
    cases e.payload.resultOf? label <;> simp

structure FirstFailed (label : String) (events before : List Event) (m : Wire.TestSummary)
    (after : List Event) : Prop where
  split : ∃ e, events = before ++ e :: after ∧ e.payload = .testSummary m
  named : m.label = label
  failed : m.overallStatus ≠ .passed
  first : ∀ x ∈ before, ∀ n, x.payload = .testSummary n → n.label = label →
    n.overallStatus = .passed

theorem reported_first_failed (signatures : List Pattern) (events : List Event) (id label : String)
    (status : TestStatus) (attempts : List Attempt)
    (reported : .test id label status attempts ∈ distinct (candidates signatures events)) :
    label ≠ "" ∧ ∃ before m after, FirstFailed label events before m after ∧
      status = m.overallStatus ∧ attempts = attemptsOf label before := by
  obtain ⟨before, e, after, split, member, new⟩ := reported_candidate signatures events _ reported
  obtain ⟨rfl, labelled, collected, m, payload, named, told, failed⟩ :=
    (test_candidate signatures before e id label status attempts).1 member
  refine ⟨labelled, before, m, after, ⟨⟨e, split, payload⟩, named, told ▸ failed, ?_⟩, told.symm,
    collected⟩
  intro x earlier n summary same
  by_contra failure
  obtain ⟨front, back, place⟩ := List.append_of_mem earlier
  have candidate := (test_candidate signatures front x _ label n.overallStatus _).2
    ⟨rfl, labelled, rfl, n, summary, same, rfl, failure⟩
  have known := candidate_known signatures front x back _ candidate
  rw [← place] at known
  exact new known

-- The attempts that have come up before a summary are a part of the results: those since the
-- summary before. They are all of them only if no others came before or come later.
theorem attempts_within (label : String) (events before closed recent : List Event) (e : Event)
    (after : List Event) (split : events = before ++ e :: after)
    (summary : e.concerns .testSummary label)
    (since : SinceLast (·.concerns .testSummary label) before closed recent) :
    let shown (results : List Wire.TestResult) :=
      List.Forall₂ Attempt.Shows (attemptsOf label before) (results.map .of)
    resultsOf label events =
      resultsOf label closed ++ resultsOf label recent ++ resultsOf label after ∧
    shown (resultsOf label recent) ∧
    (shown (resultsOf label events) ↔ resultsOf label closed = [] ∧ resultsOf label after = []) := by
  intro shown
  have parts : resultsOf label events =
      resultsOf label closed ++ resultsOf label recent ++ resultsOf label after := by
    rw [split, since.split, ← List.singleton_append, results_append, results_append, results_append,
      results_summary label e summary, List.nil_append]
  have own : shown (resultsOf label recent) := by
    change List.Forall₂ _ (attemptsOf label before) _
    rw [attempts_since label before closed recent since]
    exact attempts_show _
  refine ⟨parts, own, fun all => ?_, fun ⟨earlier, later⟩ => ?_⟩
  · have lengths := own.length_eq.symm.trans all.length_eq
    rw [parts] at lengths
    simp only [List.length_map, List.length_append] at lengths
    exact ⟨List.eq_nil_of_length_eq_zero (by omega), List.eq_nil_of_length_eq_zero (by omega)⟩
  · rw [parts, earlier, later, List.nil_append, List.append_nil]
    exact own

-- A problem about a test tells of the first summary that failed, and of the attempts since the
-- summary before. Its status is that of the table unless a later summary comes.
theorem Session.failing_tests_of_history (settings : Settings) (clock : Clock)
    (origin : Option String) (events : List Event) (outcome : Outcome)
    (summarized : (opened settings.watcher origin).summarize settings.watcher .abort clock
      (events.map .ok) = .ok outcome)
    (reporting : outcome.summary.exitCode.any (·.suppressesProblems) = false)
    (id label : String) (status : TestStatus) (attempts : List Attempt)
    (reported : .test id label status attempts ∈ outcome.summary.problems) :
    ∃ test, outcome.summary.tests.get? label = some test ∧
      ∃ before m after closed recent, FirstFailed label events before m after ∧
        SinceLast (·.concerns .testSummary label) before closed recent ∧
        status = m.overallStatus ∧
        ((∀ x ∈ after, x.concerns .testSummary label = false) → status = test.overallStatus) ∧
        test.results =
          (resultsOf label closed ++ resultsOf label recent ++ resultsOf label after).map .of ∧
        List.Forall₂ Attempt.Shows attempts ((resultsOf label recent).map .of) ∧
        (List.Forall₂ Attempt.Shows attempts test.results ↔
          resultsOf label closed = [] ∧ resultsOf label after = []) := by
  obtain ⟨problems, -, tests, orderly⟩ :=
    summarized_tables settings .abort clock origin events outcome summarized reporting
  rw [problems] at reported
  obtain ⟨labelled, before, m, after, failure, told, rfl⟩ :=
    reported_first_failed settings.signatures events id label status attempts reported
  obtain ⟨e, split, payload⟩ := failure.split
  have summary : e.concerns .testSummary label :=
    (Payload.summary_view.concerns_iff label e).2 ⟨m, payload, failure.named⟩
  have tested : ∃ x ∈ before, x.concerns .testResult label :=
    failure.named ▸ orderly_summary_tested events before e after m (orderly rfl) split payload
  have results : resultsOf label events ≠ [] :=
    tested_results label events (occurs_earlier _ events before e after split tested)
  have known : ¬(label = "" ∨ resultsOf label events = []) :=
    not_or.2 ⟨labelled, results⟩
  obtain ⟨closed, recent, since⟩ := since_last (·.concerns .testSummary label) before
  obtain ⟨parts, own, whole⟩ :=
    attempts_within label events before closed recent e after split summary since
  refine ⟨_, (tests label).trans (if_neg known), before, m, after, closed, recent, failure, since,
    told, fun quiet => ?_, congrArg (List.map Summary.TestResult.of) parts, own, whole⟩
  have message := (Payload.summary_view.eq_some_iff label e.payload m).2 ⟨payload, failure.named⟩
  have last := last_summary_at label events before e after m ⟨split, summary, quiet⟩ message tested
  rw [told, Summary.Test.ofMessages, last]
  rfl

theorem Session.failing_test_rerun :
    let settings := Settings.default
    let events : List Event :=
      [{ payload := .testResult { label := "//t", attempt := 1, status := .passed } },
        { payload := .testSummary { label := "//t", overallStatus := .passed } },
        { payload := .testResult { label := "//t", attempt := 2, status := .failed } },
        { payload := .testSummary { label := "//t", overallStatus := .failed } },
        { payload := .testResult { label := "//t", attempt := 3, status := .passed } }]
    ∃ outcome id attempts, (opened settings.watcher none).summarize settings.watcher .abort
        (fun _ => 0) (events.map .ok) = .ok outcome ∧
      outcome.summary.exitCode.any (·.suppressesProblems) = false ∧
      .test id "//t" .failed attempts ∈ outcome.summary.problems ∧
      ∃ test, outcome.summary.tests.get? "//t" = some test ∧
        ∃ before m after, FirstFailed "//t" events before m after ∧ m.overallStatus = .failed := by
  intro settings events
  refine ⟨_, _, _, rfl, rfl, .head _, ?_⟩
  obtain ⟨test, found, before, m, after, -, -, failure, -, status, -⟩ :=
    failing_tests_of_history settings (fun _ => 0) none events _ rfl rfl _ _ _ _ (.head _)
  exact ⟨test, found, before, m, after, failure, status.symm⟩

-- A test that fails and is run again: the problem keeps to the first summary, where the table has
-- the last one.
theorem Session.failing_test_retried :
    let settings := Settings.default
    let events : List Event :=
      [{ payload := .testResult { label := "//t", run := 1, attempt := 1, status := .failed } },
        { payload := .testSummary { label := "//t", overallStatus := .failed } },
        { payload := .testResult { label := "//t", run := 1, attempt := 2, status := .passed } },
        { payload := .testSummary { label := "//t", overallStatus := .flaky } }]
    ∃ outcome, (opened settings.watcher none).summarize settings.watcher .abort (fun _ => 0)
        (events.map .ok) = .ok outcome ∧
      outcome.summary.exitCode.any (·.suppressesProblems) = false ∧
      ¬∀ id label status attempts, .test id label status attempts ∈ outcome.summary.problems →
        ∃ test, outcome.summary.tests.get? label = some test ∧ status = test.overallStatus ∧
          List.Forall₂ Attempt.Shows attempts test.results := by
  intro settings events
  -- Whether events are taken does not depend on who watches.
  let idle : Watcher Unit := ⟨(), fun _ mind => mind, fun mind => (.ok [], mind)⟩
  have taken : (opened idle none).takeAll idle .abort (fun _ => 0) (events.map .ok) =
      .ok ((opened idle none).after idle .abort (fun _ => 0) events) := rfl
  have takes : (opened settings.watcher none).Takes .abort (fun _ => 0) events :=
    ((take_all_events idle .abort (fun _ => 0) events _ _).1 taken).1
  -- The second summary gives a problem with the same id, which is not reported.
  obtain ⟨problems, report, attempts, member⟩ : ∃ problems,
      settings.watcher.firstReport events = .ok problems ∧
        ∃ attempts, .test (Ident.ofProblem "test" ["//t"]) "//t" .failed attempts ∈ problems := by
    refine ⟨_, Findings.first_report settings.signatures events, attemptsOf "//t" [events[0]], ?_⟩
    obtain ⟨second, both⟩ : ∃ second, candidates settings.signatures events =
        [.ofTest "//t" .failed (attemptsOf "//t" [events[0]]), second] := by
      simp [events, candidates, candidatesBehind, Event.candidates, Problem.ofTest]
    rw [both, distinct_cons]
    exact .head _
  have summarized := summarize_reporting settings.watcher .abort (fun _ => 0) none events problems
    takes rfl report
  refine ⟨_, summarized, rfl, fun agree => ?_⟩
  obtain ⟨test, found, status, -⟩ := agree _ _ _ _ member
  cases found
  cases status

end BuildDigest
