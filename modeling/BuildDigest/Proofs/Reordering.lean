import BuildDigest.Proofs.Messages
import BuildDigest.Proofs.Strategies
import BuildDigest.Proofs.TestTable

set_option autoImplicit false

namespace BuildDigest

namespace Summary

namespace Strategy

theorem Common.perm (told other : List String) (s : String) (perm : told.Perm other)
    (common : Common told s) : Common other s := by
  cases common with
  | none nobody =>
    subst nobody
    obtain rfl := perm.symm.eq_nil
    exact .none rfl
  | one _ somebody same =>
    have spoken : other ≠ [] := by
      rintro rfl
      exact somebody perm.eq_nil
    exact .one s spoken fun t member => same t (perm.mem_iff.2 member)
  | several x y first second differ =>
    exact .several x y (perm.mem_iff.1 first) (perm.mem_iff.1 second) differ

theorem join_known_common (told : List String) (known : unset ∉ told) :
    Common told (told.foldl join unset) := by
  have found := join_unset told
  have whole : told.dropWhile (· = unset) = told := by
    cases told with
    | nil => rfl
    | cons t rest =>
      have speaks : t ≠ unset := fun silent => known (silent ▸ List.mem_cons_self)
      exact List.dropWhile_cons_of_neg (by simpa using speaks)
  rwa [whole] at found

theorem join_perm (told other : List String) (perm : told.Perm other) (known : unset ∉ told) :
    told.foldl join unset = other.foldl join unset := by
  have alsoKnown : unset ∉ other := fun member => known (perm.mem_iff.2 member)
  have found := (join_known_common told known).perm told other _ perm
  exact found.unique other _ _ (join_known_common other alsoKnown)

end Strategy

theorem Tally.of_results_perm (rs others : List TestResult) (perm : rs.Perm others)
    (known : Strategy.unset ∉ strategies rs) : ofResults rs = ofResults others := by
  have attempts : (counted rs).Perm (counted others) := perm.filter _
  have told : (strategies rs).Perm (strategies others) := attempts.map _
  rw [ofResults, ofResults, add_each, add_each, attempts.all_eq, attempts.all_eq,
    Strategy.join_perm _ _ told known]

end Summary

namespace Payload

def result? : Payload → Option Wire.TestResult
  | .testResult m => some m
  | _ => none

end Payload

theorem results_filtered (label : String) (events : List Event) :
    resultsOf label events =
      (messages Payload.result? events).filter fun m => m.label = label := by
  rw [resultsOf, messages, List.filter_filterMap]
  refine List.filterMap_congr fun e _ => ?_
  cases e.payload with
  | testResult m => simp [Payload.resultOf?, Payload.result?, Option.filter]
  | _ => rfl

theorem results_perm (label : String) (events others : List Event)
    (perm : (messages Payload.result? events).Perm (messages Payload.result? others)) :
    (resultsOf label events).Perm (resultsOf label others) := by
  rw [results_filtered, results_filtered]
  exact perm.filter _

theorem results_told (label : String) (events : List Event)
    (known : Summary.Strategy.unset ∉
      Summary.Tally.strategies ((messages Payload.result? events).map .of)) :
    Summary.Strategy.unset ∉ Summary.Tally.strategies ((resultsOf label events).map .of) := by
  have fewer : (resultsOf label events).Sublist (messages Payload.result? events) := by
    rw [results_filtered]
    exact List.filter_sublist
  have attempts := (fewer.map Summary.TestResult.of).filter (·.status ≠ .noStatus)
  exact fun member => known ((attempts.map (·.executionInfo.strategy)).subset member)

namespace Session

theorem after_tally {σ : Type} (w : Watcher σ) (policy : ViolationPolicy) (clock : Clock)
    (origin : Option String) (events : List Event) (label : String) :
    (((opened w origin).after w policy clock events).run.summary.tests.get? label).map (·.tally) =
      if label = "" ∨ resultsOf label events = [] then none
      else some (Summary.Tally.ofResults ((resultsOf label events).map .of)) := by
  have start : (opened w origin).run.summary.tests = ∅ := by
    obtain ⟨url, files, fresh⟩ := opened_run w origin
    rw [fresh]
  rw [after, Run.after_tests policy clock events _ label start, Summary.Test.recorded?]
  split <;> rfl

-- Attempts have the same in common in every order. So the tests of two histories with the same
-- results have the same labels, and the same in common under each.
theorem tallies_of_reordered :
    (∀ rs others : List Summary.TestResult, rs.Perm others →
      Summary.Strategy.unset ∉ Summary.Tally.strategies rs →
      Summary.Tally.ofResults rs = Summary.Tally.ofResults others) ∧
    ∀ {σ τ : Type} (w : Watcher σ) (v : Watcher τ) (policy otherPolicy : ViolationPolicy)
      (clock otherClock : Clock) (origin otherOrigin : Option String) (events others : List Event)
      (s : Session σ) (t : Session τ),
      (opened w origin).takeAll w policy clock (events.map .ok) = .ok s →
      (opened v otherOrigin).takeAll v otherPolicy otherClock (others.map .ok) = .ok t →
      (messages Payload.result? events).Perm (messages Payload.result? others) →
      Summary.Strategy.unset ∉
        Summary.Tally.strategies ((messages Payload.result? events).map .of) →
      ∀ label,
        s.run.summary.tests.contains label = t.run.summary.tests.contains label ∧
        (s.run.summary.tests.get? label).map (·.tally) =
          (t.run.summary.tests.get? label).map (·.tally) := by
  refine ⟨Summary.Tally.of_results_perm, ?_⟩
  intro σ τ w v policy otherPolicy clock otherClock origin otherOrigin events others s t taken
    otherTaken perm known label
  obtain ⟨-, rfl⟩ := (take_all_events w policy clock events _ s).1 taken
  obtain ⟨-, rfl⟩ := (take_all_events v otherPolicy otherClock others _ t).1 otherTaken
  have results := results_perm label events others perm
  have untested : resultsOf label events = [] ↔ resultsOf label others = [] :=
    ⟨fun none => (none ▸ results).symm.eq_nil, fun none => (none ▸ results).eq_nil⟩
  have common := Summary.Tally.of_results_perm _ _ (results.map .of)
    (results_told label events known)
  have same : (((opened w origin).after w policy clock events).run.summary.tests.get? label).map
        (·.tally) =
      (((opened v otherOrigin).after v otherPolicy otherClock others).run.summary.tests.get?
        label).map (·.tally) := by
    rw [after_tally, after_tally, common]
    simp only [untested]
  have present := congrArg Option.isSome same
  rw [Option.isSome_map, Option.isSome_map] at present
  exact ⟨present, same⟩

theorem tallies_of_reversed :
    let w := Findings.watcher []
    let result (label strategy : String) (status : TestStatus) : Event :=
      { payload := .testResult
          { label, status, cachedLocally := true, executionInfo := some { strategy } } }
    let results := [result "//a" "remote" .failed, result "//b" "" .passed,
      result "//a" "INITIALIZED" .noStatus, result "//a" "indeterminate" .passed]
    let attempts := (messages Payload.result? results).map Summary.TestResult.of
    let summary : Event := { payload := .testSummary { label := "//a", overallStatus := .failed } }
    ∃ s t, (opened w none).takeAll w .abort (fun _ => 0) ((results ++ [summary]).map .ok) = .ok s ∧
      (opened w none).takeAll w .goOn (fun _ => 0) ((summary :: results.reverse).map .ok) = .ok t ∧
      s.run.summary.tests.get? "//a" ≠ t.run.summary.tests.get? "//a" ∧
      (s.run.summary.tests.get? "//a").map (·.tally) =
        some { cachedRemotely := false, strategy := "indeterminate" } ∧
      (s.run.summary.tests.get? "//a").map (·.tally) =
        (t.run.summary.tests.get? "//a").map (·.tally) ∧
      Summary.Tally.ofResults attempts = Summary.Tally.ofResults attempts.reverse := by
  intro w result results attempts summary
  have taken : (opened w none).takeAll w .abort (fun _ => 0) ((results ++ [summary]).map .ok) =
      .ok ((opened w none).after w .abort (fun _ => 0) (results ++ [summary])) := rfl
  have otherTaken : (opened w none).takeAll w .goOn (fun _ => 0)
        ((summary :: results.reverse).map .ok) =
      .ok ((opened w none).after w .goOn (fun _ => 0) (summary :: results.reverse)) := rfl
  have perm : (messages Payload.result? (results ++ [summary])).Perm
      (messages Payload.result? (summary :: results.reverse)) := (List.reverse_perm _).symm
  have same := (tallies_of_reordered.2 w w .abort .goOn _ _ none none _ _ _ _ taken otherTaken perm
    (by decide) "//a").2
  exact ⟨_, _, taken, otherTaken, by decide, by decide, same,
    tallies_of_reordered.1 attempts _ (List.reverse_perm _).symm (by decide)⟩

end Session

end BuildDigest
