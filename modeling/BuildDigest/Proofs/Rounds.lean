import BuildDigest.Proofs.Reports
import Mathlib.Data.List.Forall2

set_option autoImplicit false

namespace BuildDigest

def Watcher.rounds {σ : Type} (w : Watcher σ) :
    List (List Event) → σ → List (Except UnlabelledFailure (List Problem)) × σ
  | [], mind => ([], mind)
  | round :: rest, mind =>
      let (reported, next) := w.report (w.after round mind)
      let (later, last) := w.rounds rest next
      (reported :: later, last)

def reportedProblems (reports : List (Except UnlabelledFailure (List Problem))) : List Problem :=
  (reports.filterMap Except.toOption).flatten

@[simp] theorem reported_nothing : reportedProblems [] = [] := rfl

@[simp] theorem reported_error (failure : UnlabelledFailure)
    (reports : List (Except UnlabelledFailure (List Problem))) :
    reportedProblems (.error failure :: reports) = reportedProblems reports := rfl

@[simp] theorem reported_ok (ps : List Problem)
    (reports : List (Except UnlabelledFailure (List Problem))) :
    reportedProblems (.ok ps :: reports) = ps ++ reportedProblems reports := rfl

theorem reported_cons (reported : Except UnlabelledFailure (List Problem))
    (reports : List (Except UnlabelledFailure (List Problem))) :
    reportedProblems (reported :: reports) =
      reportedProblems [reported] ++ reportedProblems reports := by
  cases reported <;> simp

namespace Findings

-- The findings of which some problems have been told, beside those that have never been reported on.
structure Behind (told : List Problem) (f whole : Findings) : Prop where
  pending : whole.pending = f.pending
  known : whole.known = f.known
  problems : whole.problems = told ++ f.problems

section

variable (told : List Problem) (f whole : Findings)

theorem Behind.add (behind : Behind told f whole) (p : Problem) :
    Behind told (f.add p) (whole.add p) := by
  obtain ⟨pending, known, problems⟩ := behind
  unfold Findings.add
  rw [known]
  split
  · exact ⟨pending, known, problems⟩
  · exact ⟨pending, rfl, by simp only [problems, List.append_assoc]⟩

theorem Behind.add_all (behind : Behind told f whole) (ps : List Problem) :
    Behind told (f.addAll ps) (whole.addAll ps) := by
  induction ps generalizing f whole with
  | nil => exact behind
  | cons p rest ih => exact ih (f.add p) (whole.add p) (behind.add told f whole p)

theorem Behind.unlabelled (behind : Behind told f whole) (failure other : Option UnlabelledFailure) :
    Behind told { f with unlabelled := failure } { whole with unlabelled := other } :=
  ⟨behind.pending, behind.known, behind.problems⟩

theorem Behind.see (behind : Behind told f whole) (signatures : List Pattern) (e : Event) :
    Behind told (f.see signatures e) (whole.see signatures e) := by
  cases payload : e.payload with
  | actionExecuted a =>
    simp only [Findings.see, payload]
    exact behind.add_all told f whole _
  | progress p =>
    simp only [Findings.see, payload]
    exact behind.add_all told f whole _
  | targetCompleted t =>
    simp only [Findings.see, payload, see_target_eq]
    split
    · split
      · exact behind.unlabelled told f whole _ _
      · exact behind.add told f whole _
    · exact behind
  | testResult r =>
    simp only [Findings.see, payload, seeResult, behind.pending]
    split
    · exact behind
    · exact ⟨rfl, behind.known, behind.problems⟩
  | testSummary s =>
    simp only [Findings.see, payload, seeSummary, behind.pending]
    have closed : Behind told { f with pending := f.pending.erase s.label }
        { whole with pending := f.pending.erase s.label } := ⟨rfl, behind.known, behind.problems⟩
    split
    · exact closed
    · split
      · exact behind.unlabelled told f whole _ _
      · exact closed.add told _ _ _
  | _ =>
    simp only [Findings.see, payload]
    exact behind

theorem Behind.after (behind : Behind told f whole) (signatures : List Pattern)
    (round : List Event) :
    Behind told ((watcher signatures).after round f) ((watcher signatures).after round whole) := by
  induction round generalizing f whole with
  | nil => exact behind
  | cons e rest ih => exact ih _ _ (behind.see told f whole signatures e)

end

@[simp] theorem after_unlabelled (signatures : List Pattern) (round : List Event) (f : Findings) :
    ((watcher signatures).after round f).unlabelled =
      f.unlabelled.or (round.findSome? Event.unlabelledFailure?) := by
  induction round using List.reverseRecOn with
  | nil => exact (Option.or_none).symm
  | append_singleton round e ih =>
    rw [Watcher.after_concat, List.findSome?_append, List.findSome?_singleton, ← Option.or_assoc, ← ih]
    exact see_unlabelled signatures e _

theorem Behind.report (told : List Problem) (f whole : Findings) (behind : Behind told f whole) :
    Behind (told ++ reportedProblems [f.report.1]) f.report.2 whole ∧ f.report.2.unlabelled = none ∧
      ∀ failure, f.report.1 = .error failure ↔ f.unlabelled = some failure := by
  unfold Findings.report
  cases unlabelled : f.unlabelled with
  | some cause =>
    refine ⟨⟨behind.pending, behind.known, ?_⟩, rfl, fun failure => by simp⟩
    simpa using behind.problems
  | none =>
    refine ⟨⟨behind.pending, behind.known, ?_⟩, rfl, fun failure => by simp⟩
    simpa using behind.problems

theorem Behind.rounds (signatures : List Pattern) (rounds : List (List Event))
    (told : List Problem) (f whole : Findings) (behind : Behind told f whole)
    (labelled : f.unlabelled = none) :
    let w := watcher signatures
    Behind (told ++ reportedProblems (w.rounds rounds f).1) (w.rounds rounds f).2
        (w.after rounds.flatten whole) ∧
      (w.rounds rounds f).2.unlabelled = none ∧
      List.Forall₂ (fun round reported => ∀ failure,
        reported = .error failure ↔ round.findSome? Event.unlabelledFailure? = some failure)
        rounds (w.rounds rounds f).1 := by
  intro w
  induction rounds generalizing told f whole with
  | nil =>
    refine ⟨?_, labelled, .nil⟩
    rw [Watcher.rounds, reported_nothing, List.append_nil]
    exact behind
  | cons round rest ih =>
    obtain ⟨reported, calm, fails⟩ :=
      (behind.after told f whole signatures round).report
    obtain ⟨later, last, others⟩ := ih _ _ _ reported calm
    have unlabelled : (w.after round f).unlabelled = round.findSome? Event.unlabelledFailure? := by
      rw [after_unlabelled, labelled, Option.none_or]
    rw [unlabelled] at fails
    refine ⟨?_, last, .cons fails others⟩
    rw [List.flatten_cons, Watcher.after_append, Watcher.rounds, reported_cons, ← List.append_assoc]
    exact later

end Findings

-- A report fails for its own round. What the others tell, and the next report behind all rounds, is
-- the first candidate of each id: a report that fails delays what it would have told.
theorem Settings.rounds_of_history (settings : Settings) (rounds : List (List Event)) :
    let w := settings.watcher
    let reports := (w.rounds rounds w.start).1
    let mind := (w.rounds rounds w.start).2
    List.Forall₂ (fun round reported => ∀ failure,
      reported = .error failure ↔ round.findSome? Event.unlabelledFailure? = some failure)
      rounds reports ∧
    ∃ last, (w.report mind).1 = .ok last ∧
      reportedProblems reports ++ last =
        distinct (candidates settings.signatures rounds.flatten) := by
  intro w reports mind
  have fresh : Findings.Behind [] w.start w.start := ⟨rfl, rfl, rfl⟩
  obtain ⟨told, labelled, fails⟩ :=
    Findings.Behind.rounds settings.signatures rounds [] w.start w.start fresh rfl
  have follows := Findings.after_follows settings.signatures rounds.flatten
  refine ⟨fails, mind.problems, ?_, told.problems.symm.trans follows.holds.problems⟩
  exact (Findings.report_first mind).trans (by rw [show mind.unlabelled = none from labelled])

-- The target that failed in front of a failing report is told with the next one.
example :
    let w := Settings.default.watcher
    let failed (label : String) : Event := { payload := .targetCompleted { label } }
    (w.rounds [[failed "//a", failed ""], []] w.start).1 =
      [.error ⟨.targetCompleted⟩, .ok [.ofTarget "//a"]] := by
  rfl

end BuildDigest
