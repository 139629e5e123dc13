import BuildDigest.Proofs.Agreement
import BuildDigest.Proofs.Outputs

set_option autoImplicit false

namespace BuildDigest

structure Attempt.RecordOf (r : Wire.TestResult) (a : Attempt) : Prop where
  id : a.id = Ident.ofProblem "test_result"
    [r.label, number r.run, number r.shard, number r.attempt]
  run : a.run = r.run
  shard : a.shard = r.shard
  attempt : a.attempt = r.attempt
  status : a.status = r.status
  log : ∀ b, a.actionLogOutput = some b ↔ Blob.FoundIn r.testActionOutput logNames b
  outputs : ∀ b, a.undeclaredTestOutputs = some b ↔
    Blob.FoundIn r.testActionOutput undeclaredNames b

theorem Attempt.of_result_record (r : Wire.TestResult) : RecordOf r (ofResult r) where
  id := rfl
  run := rfl
  shard := rfl
  attempt := rfl
  status := rfl
  log := Blob.of_outputs_found r.testActionOutput logNames
  outputs := Blob.of_outputs_found r.testActionOutput undeclaredNames

theorem attempts_record (results : List Wire.TestResult) :
    List.Forall₂ Attempt.RecordOf results (results.map .ofResult) := by
  induction results with
  | nil => exact .nil
  | cons r rest ih => exact .cons (Attempt.of_result_record r) ih

namespace Problem

def testLabel? : Problem → Option String
  | test _ label .. => some label
  | _ => none

theorem test_label_id (signatures : List Pattern) (events : List Event) (p : Problem) (label : String)
    (reported : p ∈ distinct (candidates signatures events)) (named : p.testLabel? = some label) :
    p.id = Ident.ofProblem "test" [label] := by
  obtain ⟨before, e, after, -, candidate, -⟩ := reported_candidate signatures events p reported
  cases p with
  | test id label' status attempts =>
    cases named
    exact ((test_candidate signatures before e id label status attempts).1 candidate).1
  | _ => cases named

end Problem

-- No two of the problems tell of the same test, since they would have the same id.
theorem reported_tests_distinct (signatures : List Pattern) (events : List Event) :
    ((distinct (candidates signatures events)).filterMap Problem.testLabel?).Nodup := by
  have ids := distinct_ids_nodup (candidates signatures events)
  rw [List.Nodup, List.pairwise_map] at ids
  apply List.pairwise_filterMap.2
  apply ids.imp_of_mem
  intro p q first second other label named label' named' same
  subst same
  apply other
  rw [Problem.test_label_id signatures events p label first named,
    Problem.test_label_id signatures events q label second named']

theorem first_failed_reported (signatures : List Pattern) (label : String)
    (events before : List Event) (m : Wire.TestSummary) (after : List Event) (labelled : label ≠ "")
    (failure : FirstFailed label events before m after) :
    ∃ p ∈ distinct (candidates signatures events), p.id = Ident.ofProblem "test" [label] := by
  obtain ⟨e, split, payload⟩ := failure.split
  have candidate := (test_candidate signatures before e _ label m.overallStatus _).2
    ⟨rfl, labelled, rfl, m, payload, failure.named, rfl, failure.failed⟩
  exact candidate_reported signatures events before e after _ split candidate

-- A problem about a test has the status of the first summary that says that the test has failed,
-- and a record of each result between the summary before that one and it.
theorem Settings.failing_tests_reported (settings : Settings) (events : List Event)
    (labelled : ∀ e ∈ events, e.unlabelledFailure? = none) :
    ∃ problems, settings.watcher.firstReport events = .ok problems ∧
      (∀ id label status attempts, .test id label status attempts ∈ problems →
        ∃ before m after closed recent, FirstFailed label events before m after ∧
          SinceLast (·.concerns .testSummary label) before closed recent ∧
          status = m.overallStatus ∧
          List.Forall₂ Attempt.RecordOf (resultsOf label recent) attempts) ∧
      (problems.filterMap Problem.testLabel?).Nodup ∧
      ∀ label before m after, label ≠ "" → FirstFailed label events before m after →
        ∃ p ∈ problems, p.id = Ident.ofProblem "test" [label] := by
  have none : events.findSome? Event.unlabelledFailure? = none :=
    List.findSome?_eq_none_iff.2 labelled
  have report := Findings.first_report settings.signatures events
  rw [none] at report
  refine ⟨_, report, fun id label status attempts reported => ?_,
    reported_tests_distinct settings.signatures events,
    fun label before m after some failure =>
      first_failed_reported settings.signatures label events before m after some failure⟩
  obtain ⟨-, before, m, after, failure, told, rfl⟩ :=
    reported_first_failed settings.signatures events id label status attempts reported
  obtain ⟨closed, recent, since⟩ := since_last (·.concerns .testSummary label) before
  rw [attempts_since label before closed recent since]
  exact ⟨before, m, after, closed, recent, failure, since, told,
    attempts_record (resultsOf label recent)⟩

theorem Settings.failing_test_interleaved :
    let settings := Settings.default
    let result (label : String) (attempt : Int32) : Event :=
      { payload := .testResult { label, attempt, status := .failed } }
    let summary (label : String) (overallStatus : TestStatus) : Event :=
      { payload := .testSummary { label, overallStatus } }
    let events : List Event :=
      [result "//t" 1, result "//u" 1, summary "//t" .passed, result "//t" 2, summary "//u" .passed,
        result "//t" 3, summary "//t" .failed, result "//t" 4]
    (∀ e ∈ events, e.unlabelledFailure? = none) ∧
      ∃ problems id attempts, settings.watcher.firstReport events = .ok problems ∧
        .test id "//t" .failed attempts ∈ problems ∧ attempts.map (·.attempt) = [2, 3] ∧
        ∃ before m after closed recent, FirstFailed "//t" events before m after ∧
          SinceLast (·.concerns .testSummary "//t") before closed recent ∧
          List.Forall₂ Attempt.RecordOf (resultsOf "//t" recent) attempts := by
  intro settings result summary events
  have labelled : ∀ e ∈ events, e.unlabelledFailure? = none := by decide
  obtain ⟨problems, report, told, -⟩ := failing_tests_reported settings events labelled
  obtain ⟨id, attempts, computed, numbers⟩ : ∃ id attempts,
      settings.watcher.firstReport events = .ok [.test id "//t" .failed attempts] ∧
        attempts.map (·.attempt) = [2, 3] := ⟨_, _, rfl, rfl⟩
  obtain rfl := Except.ok.inj (report.symm.trans computed)
  obtain ⟨before, m, after, closed, recent, failure, since, -, records⟩ :=
    told id "//t" .failed attempts (.head _)
  exact ⟨labelled, _, id, attempts, report, .head _, numbers, before, m, after, closed, recent,
    failure, since, records⟩

end BuildDigest
