import BuildDigest.Proofs.CommandLine
import BuildDigest.Proofs.History
import Mathlib.Data.List.TakeWhile

set_option autoImplicit false

namespace BuildDigest

namespace Payload

def resultOf? (label : String) : Payload → Option Wire.TestResult
  | .testResult m => if m.label = label then some m else none
  | _ => none

def summaryOf? (label : String) : Payload → Option Wire.TestSummary
  | .testSummary m => if m.label = label then some m else none
  | _ => none

theorem result_view : View .testResult (·.label) testResult resultOf? where
  made _ _ := rfl
  other _ p other := by cases p <;> first | rfl | exact absurd rfl (other _)
  kinds p := by cases p <;> simp [kind?]
  subject _ := rfl

theorem summary_view : View .testSummary (·.label) testSummary summaryOf? where
  made _ _ := rfl
  other _ p other := by cases p <;> first | rfl | exact absurd rfl (other _)
  kinds p := by cases p <;> simp [kind?]
  subject _ := rfl

theorem summary_of_result (label : String) (p : Payload) (m : Wire.TestResult)
    (result : p.resultOf? label = some m) : p.summaryOf? label = none := by
  obtain ⟨rfl, -⟩ := (result_view.eq_some_iff label p m).1 result
  rfl

end Payload

def resultsOf (label : String) (events : List Event) : List Wire.TestResult :=
  events.filterMap fun e => e.payload.resultOf? label

-- The last summary of a test that comes behind its first result.
def lastSummaryOf? (label : String) (events : List Event) : Option Wire.TestSummary :=
  ((events.dropWhile fun e => !e.concerns .testResult label).filterMap fun e =>
    e.payload.summaryOf? label).getLast?

@[simp] theorem results_concat (label : String) (events : List Event) (e : Event) :
    resultsOf label (events ++ [e]) =
      resultsOf label events ++ (e.payload.resultOf? label).toList := by
  cases result : e.payload.resultOf? label <;> simp [resultsOf, result]

theorem results_empty_iff (label : String) (events : List Event) :
    resultsOf label events = [] ↔ ∀ e ∈ events, e.concerns .testResult label = false := by
  simp only [resultsOf, List.filterMap_eq_nil_iff, Payload.result_view.concerns_isSome,
    Option.isSome_eq_false_iff, Option.isNone_iff_eq_none]

@[simp] theorem last_summary_concat (label : String) (events : List Event) (e : Event) :
    lastSummaryOf? label (events ++ [e]) =
      if resultsOf label events = [] then none
      else (e.payload.summaryOf? label).or (lastSummaryOf? label events) := by
  have untested : resultsOf label events = [] ↔
      events.dropWhile (fun e => !e.concerns .testResult label) = [] := by
    rw [results_empty_iff, List.dropWhile_eq_nil_iff]
    simp only [Bool.not_eq_true']
  rw [lastSummaryOf?, List.dropWhile_append]
  by_cases none : resultsOf label events = []
  · rw [if_pos none, if_pos (List.isEmpty_iff.2 (untested.1 none))]
    cases result : e.payload.resultOf? label with
    | none => simp [Payload.result_view.concerns_isSome, result]
    | some m =>
      simp [Payload.result_view.concerns_isSome, result, Payload.summary_of_result label e.payload m result]
  · rw [if_neg none, if_neg (fun empty => none (untested.2 (List.isEmpty_iff.1 empty))),
      List.filterMap_append]
    cases summary : e.payload.summaryOf? label <;> simp [lastSummaryOf?, summary]

namespace Summary

def Test.next (label : String) (p : Payload) (test : Option Test) : Option Test :=
  if label = "" then test
  else
    match p.resultOf? label, p.summaryOf? label with
    | some m, _ => some ((test.getD {}).addResult (.of m))
    | none, some m => test.map fun t => t.summarize (.of m)
    | none, none => test

theorem Test.next_other (label : String) (p : Payload) (test : Option Test)
    (noResult : p.resultOf? label = none) (noSummary : p.summaryOf? label = none) :
    next label p test = test := by
  simp only [next, noResult, noSummary, ite_self]

@[simp] theorem add_command_line_tests (s : Summary) (c : Wire.CommandLine) :
    (s.addCommandLine c).1.tests = s.tests := by
  obtain ⟨env, line, change, patchset, url, uuid, whole⟩ := add_command_line_frame s c
  rw [whole]

end Summary

namespace Run

@[simp] theorem test_result_tests (m : Wire.TestResult) (r : Run) (label : String) :
    (r.testResult m).1.summary.tests.get? label =
      Summary.Test.next label (.testResult m) (r.summary.tests.get? label) := by
  unfold testResult
  by_cases same : m.label = label
  · subst same
    have result : Payload.resultOf? m.label (.testResult m) = some m := if_pos rfl
    by_cases empty : m.label = ""
    · rw [if_pos (String.isEmpty_iff.2 empty), Summary.Test.next, if_pos empty]
      rfl
    · rw [if_neg (not_isEmpty m.label empty), Summary.Test.next, if_neg empty, result]
      simp only [accept, change, KeyMap.get?_insert, if_pos]
  · rw [Summary.Test.next_other label (.testResult m) _ (if_neg same) rfl]
    split
    · rfl
    · simp only [accept, change, KeyMap.get?_insert, if_neg (Ne.symm same)]

@[simp] theorem test_summary_tests (m : Wire.TestSummary) (r : Run) (label : String) :
    (r.testSummary m).1.summary.tests.get? label =
      Summary.Test.next label (.testSummary m) (r.summary.tests.get? label) := by
  unfold testSummary
  by_cases same : m.label = label
  · subst same
    have summary : Payload.summaryOf? m.label (.testSummary m) = some m := if_pos rfl
    by_cases empty : m.label = ""
    · rw [if_pos (String.isEmpty_iff.2 empty), Summary.Test.next, if_pos empty]
      rfl
    · rw [if_neg (not_isEmpty m.label empty), Summary.Test.next, if_neg empty, summary]
      cases found : r.summary.tests.get? m.label with
      | none => exact found
      | some test => simp only [accept, change, KeyMap.get?_insert, if_pos, Payload.resultOf?,
          Option.map_some]
  · rw [Summary.Test.next_other label (.testSummary m) _ rfl (if_neg same)]
    split
    · rfl
    · split
      · rfl
      · simp only [accept, change, KeyMap.get?_insert, if_neg (Ne.symm same)]

@[simp] theorem payload_tests (clock : Clock) (p : Payload) (r : Run) (label : String) :
    (r.payload clock p).1.summary.tests.get? label =
      Summary.Test.next label p (r.summary.tests.get? label) := by
  cases p with
  | testResult m => exact test_result_tests m r label
  | testSummary m => exact test_summary_tests m r label
  | structuredCommandLine m =>
    rw [Summary.Test.next_other label _ _ rfl rfl]
    simp only [payload, commandLine, Summary.add_command_line_tests]
  | targetConfigured m =>
    rw [Summary.Test.next_other label _ _ rfl rfl]
    simp only [payload, targetConfigured]
    split <;> rfl
  | targetCompleted m =>
    rw [Summary.Test.next_other label _ _ rfl rfl]
    simp only [payload, targetCompleted]
    split
    · rfl
    · split <;> rfl
  | fetch m =>
    rw [Summary.Test.next_other label _ _ rfl rfl]
    simp only [payload, accept, change, fetch]
    split <;> rfl
  | _ => exact (Summary.Test.next_other label _ _ rfl rfl).symm

@[simp] theorem take_tests (policy : ViolationPolicy) (clock : Clock) (e : Event) (r : Run)
    (label : String) :
    (r.take policy clock e).1.summary.tests.get? label =
      Summary.Test.next label e.payload (r.summary.tests.get? label) := by
  rw [← payload_tests clock]
  exact take_unmarked (fun r => r.summary.tests.get? label) policy clock e r fun _ _ => rfl

end Run

namespace Summary

def Test.ofMessages (results : List Wire.TestResult) (last : Option Wire.TestSummary) : Test :=
  let summary := (last.map TestSummary.of).getD {}
  { summary
    results := results.map TestResult.of
    tally := Tally.ofResults (results.map TestResult.of)
    overallStatus := summary.status
    durationMs := summary.totalRunDurationMs }

theorem Test.of_messages_result (results : List Wire.TestResult) (last : Option Wire.TestSummary)
    (m : Wire.TestResult) :
    (ofMessages results last).addResult (.of m) = ofMessages (results ++ [m]) last := by
  simp [ofMessages, addResult, Tally.ofResults]

def Test.recorded? (label : String) (events : List Event) : Option Test :=
  if label = "" ∨ resultsOf label events = [] then none
  else some (ofMessages (resultsOf label events) (lastSummaryOf? label events))

theorem Test.recorded_concat (label : String) (events : List Event) (e : Event) :
    recorded? label (events ++ [e]) = next label e.payload (recorded? label events) := by
  by_cases unlabelled : label = ""
  · simp only [recorded?, next, unlabelled, true_or, if_true]
  · simp only [recorded?, next, unlabelled, false_or, if_false, results_concat, last_summary_concat]
    cases result : e.payload.resultOf? label with
    | some m =>
      have longer : resultsOf label events ++ [m] ≠ [] := by simp
      rw [Payload.summary_of_result label e.payload m result, Option.toList_some, if_neg longer,
        ← of_messages_result]
      by_cases untested : resultsOf label events = []
      · rw [if_pos untested, if_pos untested, untested]
        rfl
      · rw [if_neg untested, if_neg untested, Option.none_or]
        rfl
    | none =>
      rw [Option.toList_none, List.append_nil]
      by_cases untested : resultsOf label events = []
      · simp only [if_pos untested, Option.map_none]
        cases e.payload.summaryOf? label <;> rfl
      · simp only [if_neg untested, Option.map_some]
        cases e.payload.summaryOf? label <;> rfl

end Summary

theorem Run.after_tests (policy : ViolationPolicy) (clock : Clock) (events : List Event) (r : Run)
    (label : String) (start : r.summary.tests = ∅) :
    (r.after policy clock events).summary.tests.get? label =
      Summary.Test.recorded? label events := by
  induction events using List.reverseRecOn with
  | nil =>
    rw [Run.after, List.foldl_nil, start]
    exact (if_pos (.inr rfl)).symm
  | append_singleton events e ih =>
    rw [after_concat, take_tests, ih, Summary.Test.recorded_concat]

theorem Summary.Test.recorded_isSome (label : String) (events : List Event) :
    (recorded? label events).isSome ↔
      label ≠ "" ∧ ∃ e ∈ events, ∃ m, e.payload = .testResult m ∧ m.label = label := by
  have tested : resultsOf label events ≠ [] ↔ ∃ e ∈ events, e.concerns .testResult label := by
    rw [ne_eq, results_empty_iff]
    simp only [not_forall, Bool.not_eq_false, exists_prop]
  simp only [← Payload.result_view.concerns_iff, ← tested]
  by_cases none : label = "" ∨ resultsOf label events = []
  · rw [recorded?, if_pos none]
    exact ⟨nofun, fun both => (none.elim both.1 both.2).elim⟩
  · rw [recorded?, if_neg none]
    exact ⟨fun _ => not_or.1 none, fun _ => rfl⟩

namespace Summary

structure TestFile.Records (m : Wire.File) (f : TestFile) : Prop where
  name : f.name = m.name
  file : f.file = m.uri
  digest : f.digest = m.digest
  length : f.length = m.length
  pathPrefix : f.pathPrefix = m.pathPrefix

structure Timing.Records (m : Wire.Timing) (t : Timing) : Prop where
  name : t.name = m.name
  time : t.timeMs = m.time.millis
  child : List.Forall₂ (fun part c => c.name = part.name ∧ c.timeMs = part.time.millis) m.child t.child

structure Execution.Records (m : Wire.Execution) (e : Execution) : Prop where
  strategy : e.strategy = m.strategy
  cachedRemotely : e.cachedRemotely = m.cachedRemotely
  exitCode : e.exitCode = m.exitCode
  hostname : e.hostname = m.hostname
  timing : Option.Rel Timing.Records m.timingBreakdown e.timingBreakdown

structure TestResult.Records (m : Wire.TestResult) (r : TestResult) : Prop where
  label : r.label = m.label
  run : r.run = m.run
  shard : r.shard = m.shard
  attempt : r.attempt = m.attempt
  status : r.status = m.status
  statusDetails : r.statusDetails = m.statusDetails
  warning : r.warning = m.warning
  cachedLocally : r.cachedLocally = m.cachedLocally
  start : r.testAttemptStart = m.testAttemptStart
  duration : r.testAttemptDurationMs = m.testAttemptDuration.millis
  executed : ∀ e, m.executionInfo = some e → Execution.Records e r.executionInfo
  unexecuted : m.executionInfo = none → r.executionInfo = {}
  files : List.Forall₂ TestFile.Records m.testActionOutput r.testActionOutput

theorem Timing.of_records (m : Wire.Timing) : Records m (of m) :=
  ⟨rfl, rfl, List.forall₂_map_right_iff.2 (List.forall₂_same.2 fun _ _ => ⟨rfl, rfl⟩)⟩

theorem Execution.of_records (m : Wire.Execution) : Records m (of m) := by
  refine ⟨rfl, rfl, rfl, rfl, ?_⟩
  rw [of]
  cases m.timingBreakdown with
  | none => exact .none
  | some t => exact .some (Timing.of_records t)

theorem TestResult.of_records (m : Wire.TestResult) : Records m (of m) where
  label := rfl
  run := rfl
  shard := rfl
  attempt := rfl
  status := rfl
  statusDetails := rfl
  warning := rfl
  cachedLocally := rfl
  start := rfl
  duration := rfl
  executed e given := by
    rw [of, given]
    exact Execution.of_records e
  unexecuted none := by
    rw [of, none]
    rfl
  files := List.forall₂_map_right_iff.2 (List.forall₂_same.2 fun _ _ => ⟨rfl, rfl, rfl, rfl, rfl⟩)

end Summary

end BuildDigest
