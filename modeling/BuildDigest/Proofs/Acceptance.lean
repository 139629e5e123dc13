import BuildDigest.Proofs.Reports
import BuildDigest.Proofs.TargetTable

set_option autoImplicit false

namespace BuildDigest

namespace Payload

def Admissible (before : List Event) : Payload → Prop
  | .targetConfigured m => m.label ≠ ""
  | .targetCompleted m => m.label ≠ "" ∧ ∃ x ∈ before, x.concerns .targetConfigured m.label
  | .testResult m => m.label ≠ ""
  | .testSummary m => m.label ≠ "" ∧ ∃ x ∈ before, x.concerns .testResult m.label
  | .structuredCommandLine c => c.Sound
  | _ => True

inductive Breaks (before : List Event) : Payload → Refusal → Prop where
  | configured (m : Wire.TargetConfigured) (unlabelled : m.label = "") :
      Breaks before (.targetConfigured m) (.violation (.unlabelled .targetConfigured))
  | completed (m : Wire.TargetCompleted) (unlabelled : m.label = "") :
      Breaks before (.targetCompleted m) (.violation (.unlabelled .targetCompleted))
  | unconfigured (m : Wire.TargetCompleted) (labelled : m.label ≠ "")
      (never : ¬∃ x ∈ before, x.concerns .targetConfigured m.label) :
      Breaks before (.targetCompleted m) (.violation (.completedUnconfigured m.label))
  | result (m : Wire.TestResult) (unlabelled : m.label = "") :
      Breaks before (.testResult m) (.violation (.unlabelled .testResult))
  | summary (m : Wire.TestSummary) (unlabelled : m.label = "") :
      Breaks before (.testSummary m) (.violation (.unlabelled .testSummary))
  | untested (m : Wire.TestSummary) (labelled : m.label ≠ "")
      (never : ¬∃ x ∈ before, x.concerns .testResult m.label) :
      Breaks before (.testSummary m) (.violation (.summarizedUntested m.label))
  | misread (c : Wire.CommandLine) (part : Wire.CommandSection) (refusal : Refusal)
      (typed : c.commandLineLabel = Summary.asTypedLabel) (last : c.lastOptions? = some part)
      (misread : Variable.Misread (Variable.addSection part ∅) refusal) :
      Breaks before (.structuredCommandLine c) refusal

theorem admissible_or_breaks (before : List Event) (p : Payload) :
    p.Admissible before ∨ ∃ refusal, p.Breaks before refusal := by
  cases p with
  | targetConfigured m =>
    by_cases unlabelled : m.label = ""
    · exact .inr ⟨_, .configured m unlabelled⟩
    · exact .inl unlabelled
  | targetCompleted m =>
    by_cases unlabelled : m.label = ""
    · exact .inr ⟨_, .completed m unlabelled⟩
    · by_cases known : ∃ x ∈ before, x.concerns .targetConfigured m.label
      · exact .inl ⟨unlabelled, known⟩
      · exact .inr ⟨_, .unconfigured m unlabelled known⟩
  | testResult m =>
    by_cases unlabelled : m.label = ""
    · exact .inr ⟨_, .result m unlabelled⟩
    · exact .inl unlabelled
  | testSummary m =>
    by_cases unlabelled : m.label = ""
    · exact .inr ⟨_, .summary m unlabelled⟩
    · by_cases known : ∃ x ∈ before, x.concerns .testResult m.label
      · exact .inl ⟨unlabelled, known⟩
      · exact .inr ⟨_, .untested m unlabelled known⟩
  | structuredCommandLine c =>
    by_cases typed : c.commandLineLabel = Summary.asTypedLabel
    · cases last : c.lastOptions? with
      | none => exact .inl fun _ part found => nomatch last.symm.trans found
      | some part =>
        rcases Variable.numbered_or_misread (Variable.addSection part ∅) with
          numbered | ⟨refusal, misread⟩
        · refine .inl fun _ other found => ?_
          cases last.symm.trans found
          exact numbered
        · exact .inr ⟨refusal, .misread c part refusal typed last misread⟩
    · exact .inl fun same => absurd same typed
  | _ => exact .inl trivial

end Payload

namespace Run

-- What a run has kept of the events that it has taken, as far as the next one may depend on it.
structure Knows (events : List Event) (r : Run) : Prop where
  targets : ∀ label, (r.summary.targets.get? label).isSome ↔
    label ≠ "" ∧ ∃ x ∈ events, x.concerns .targetConfigured label
  tests : ∀ label, (r.summary.tests.get? label).isSome ↔
    label ≠ "" ∧ ∃ x ∈ events, x.concerns .testResult label
  numbered : Variable.Numbered r.summary.envVars

theorem payload_admissible (clock : Clock) (before : List Event) (p : Payload) (r : Run)
    (knows : r.Knows before) (admissible : p.Admissible before) :
    (r.payload clock p).2 = none ∧ Variable.Numbered (r.payload clock p).1.summary.envVars := by
  cases p with
  | targetConfigured m =>
    simp only [payload, targetConfigured, if_neg (not_isEmpty m.label admissible)]
    exact ⟨rfl, knows.numbered⟩
  | targetCompleted m =>
    obtain ⟨target, found⟩ := Option.isSome_iff_exists.1 ((knows.targets m.label).2 admissible)
    simp only [payload, targetCompleted, if_neg (not_isEmpty m.label admissible.1), found]
    exact ⟨rfl, knows.numbered⟩
  | testResult m =>
    simp only [payload, testResult, if_neg (not_isEmpty m.label admissible)]
    exact ⟨rfl, knows.numbered⟩
  | testSummary m =>
    obtain ⟨test, found⟩ := Option.isSome_iff_exists.1 ((knows.tests m.label).2 admissible)
    simp only [payload, testSummary, if_neg (not_isEmpty m.label admissible.1), found]
    exact ⟨rfl, knows.numbered⟩
  | structuredCommandLine c =>
    exact Summary.add_command_line_sound r.summary c knows.numbered admissible
  | fetch m =>
    refine ⟨rfl, ?_⟩
    simp only [payload, accept, change, fetch]
    split <;> exact knows.numbered
  | _ => exact ⟨rfl, knows.numbered⟩

theorem payload_breaks (clock : Clock) (before : List Event) (p : Payload) (r : Run)
    (refusal : Refusal) (knows : r.Knows before) (breaks : p.Breaks before refusal) :
    (r.payload clock p).2 = some refusal := by
  cases breaks with
  | configured m unlabelled =>
    rw [payload, targetConfigured, if_pos (String.isEmpty_iff.2 unlabelled)]
    rfl
  | completed m unlabelled =>
    rw [payload, targetCompleted, if_pos (String.isEmpty_iff.2 unlabelled)]
    rfl
  | unconfigured m labelled never =>
    have unknown : r.summary.targets.get? m.label = none := by
      rw [← Option.not_isSome_iff_eq_none, knows.targets]
      exact fun known => never known.2
    simp only [payload, targetCompleted, if_neg (not_isEmpty m.label labelled), unknown]
    rfl
  | result m unlabelled =>
    rw [payload, testResult, if_pos (String.isEmpty_iff.2 unlabelled)]
    rfl
  | summary m unlabelled =>
    rw [payload, testSummary, if_pos (String.isEmpty_iff.2 unlabelled)]
    rfl
  | untested m labelled never =>
    have unknown : r.summary.tests.get? m.label = none := by
      rw [← Option.not_isSome_iff_eq_none, knows.tests]
      exact fun known => never known.2
    simp only [payload, testSummary, if_neg (not_isEmpty m.label labelled), unknown]
    rfl
  | misread c part refusal typed last misread =>
    exact Summary.add_command_line_misread r.summary c part refusal typed last misread

theorem take_abort (clock : Clock) (e : Event) (r : Run) :
    (r.take .abort clock e).2 = (r.payload clock e.payload).2 := by
  unfold take
  split
  · rename_i next whole
    rw [whole]
  · rename_i next refusal whole
    simp [whole]

end Run

def Orderly (events : List Event) : Prop :=
  AtEach (fun before e => e.payload.Admissible before) events

inductive Blames (before : List Event) : Feed.Item → Failure → Prop where
  | fault (fault : Feed.Fault) : Blames before (.error fault) (.unfed fault)
  | event (e : Event) (refusal : Refusal) (breaks : e.payload.Breaks before refusal) :
      Blames before (.ok e) (.refused e.displayId refusal)

theorem Run.fresh_knows (r : Run) (noTargets : r.summary.targets = ∅) (noTests : r.summary.tests = ∅)
    (noVariables : r.summary.envVars = ∅) : r.Knows [] where
  targets label := by
    rw [noTargets]
    exact ⟨nofun, fun ⟨_, x, member, _⟩ => absurd member List.not_mem_nil⟩
  tests label := by
    rw [noTests]
    exact ⟨nofun, fun ⟨_, x, member, _⟩ => absurd member List.not_mem_nil⟩
  numbered := by
    rw [noVariables]
    exact ⟨nofun, nofun⟩

namespace Session

variable {σ : Type} (w : Watcher σ) (clock : Clock) (origin : Option String)

theorem orderly_knows (events : List Event) (orderly : Orderly events) :
    ((opened w origin).run.after .abort clock events).Knows events := by
  obtain ⟨url, files, fresh⟩ := opened_run w origin
  induction events using List.reverseRecOn with
  | nil =>
    rw [Run.after, List.foldl_nil, fresh]
    exact Run.fresh_knows _ rfl rfl rfl
  | append_singleton events e ih =>
    obtain ⟨earlier, admissible⟩ := (at_each_concat _ events e).1 orderly
    have kept := (Run.payload_admissible clock events e.payload _ (ih earlier) admissible).2
    -- What the tables hold follows from the history as a whole; only the environment needs the
    -- state before the event.
    refine ⟨fun label => ?_, fun label => ?_, ?_⟩
    · have recorded := Run.after_targets .abort clock (events ++ [e]) (opened w origin).run label
        (by rw [fresh]) (by rw [fresh])
      simp only [Payload.configuration_view.concerns_iff]
      exact Summary.Target.recorded_isSome clock label _ _ recorded
    · simp only [Payload.result_view.concerns_iff]
      rw [Run.after_tests .abort clock (events ++ [e]) (opened w origin).run label (by rw [fresh])]
      exact Summary.Test.recorded_isSome label _
    · rw [Run.after_concat, Run.take_unmarked (·.summary.envVars) _ _ _ _ fun _ _ => rfl]
      exact kept

theorem orderly_decided :
    (opened w origin).run.Decided .abort clock (fun before e => e.payload.Admissible before)
      (fun before e refusal => e.payload.Breaks before refusal) where
  either before e := Payload.admissible_or_breaks before e.payload
  taken before e orderly admissible := by
    rw [Run.take_abort]
    have knows := orderly_knows w clock origin before orderly
    exact (Run.payload_admissible clock before e.payload _ knows admissible).1
  refused before e refusal orderly breaks := by
    rw [Run.take_abort]
    have knows := orderly_knows w clock origin before orderly
    exact Run.payload_breaks clock before e.payload _ refusal knows breaks

theorem takes_iff_orderly (events : List Event) :
    (opened w origin).Takes .abort clock events ↔ Orderly events :=
  (orderly_decided w clock origin).takes_iff events

theorem item_fails_iff_blames (before : List Event) (item : Feed.Item) (failure : Failure)
    (orderly : Orderly before) :
    ((opened w origin).after w .abort clock before).takeItem w .abort clock item = .error failure ↔
      Blames before item failure := by
  rw [(orderly_decided w clock origin).item_fails_iff w before item failure orderly]
  constructor
  · rintro (⟨fault, rfl, rfl⟩ | ⟨e, refusal, rfl, breaks, rfl⟩)
    · exact .fault fault
    · exact .event e refusal breaks
  · intro blames
    cases blames with
    | fault fault => exact .inl ⟨fault, rfl, rfl⟩
    | event e refusal breaks => exact .inr ⟨e, refusal, rfl, breaks, rfl⟩

theorem orderly_or_blamed (items : List Feed.Item) :
    (∃ events, items = events.map .ok ∧ Orderly events) ∨
      ∃ before item rest failure, items = before.map .ok ++ item :: rest ∧ Orderly before ∧
        Blames before item failure := by
  -- The order does not depend on who watches, so that any session will do.
  let idle : Watcher Unit := ⟨(), fun _ mind => mind, fun mind => (.ok [], mind)⟩
  rcases feed_cases idle .abort (fun _ => 0) items (opened idle none) with
    ⟨events, same, takes⟩ | ⟨before, item, rest, failure, same, takes, fails⟩
  · exact .inl ⟨events, same, (takes_iff_orderly idle _ none events).1 takes⟩
  · have orderly := (takes_iff_orderly idle _ none before).1 takes
    have blames := (item_fails_iff_blames idle _ none before item failure orderly).1 fails
    exact .inr ⟨before, item, rest, failure, same, orderly, blames⟩

theorem summarize_blamed (before : List Event) (item : Feed.Item) (rest : List Feed.Item)
    (failure : Failure) (orderly : Orderly before) (blames : Blames before item failure) :
    (opened w origin).summarize w .abort clock (before.map .ok ++ item :: rest) =
      .error failure := by
  have takes := (takes_iff_orderly w clock origin before).2 orderly
  have fails := (item_fails_iff_blames w clock origin before item failure orderly).2 blames
  rw [summarize, take_all_stopped w .abort clock before item rest failure _ takes fails]
  rfl

end Session

theorem Orderly.labelled (events : List Event) (orderly : Orderly events) :
    events.findSome? Event.unlabelledFailure? = none := by
  rw [List.findSome?_eq_none_iff]
  intro e member
  obtain ⟨before, rest, split⟩ := List.append_of_mem member
  have admissible : e.payload.Admissible before := orderly before e rest split
  unfold Event.unlabelledFailure?
  cases payload : e.payload with
  | targetCompleted t =>
    rw [payload] at admissible
    exact if_neg fun both => admissible.1 both.1
  | testSummary s =>
    rw [payload] at admissible
    exact if_neg fun both => admissible.1 both.1
  | _ => rfl

theorem Session.summarize_orderly (signatures : List Pattern) (clock : Clock)
    (origin : Option String) (events : List Event) (orderly : Orderly events) :
    let w := Findings.watcher signatures
    ∃ outcome, (opened w origin).summarize w .abort clock (events.map .ok) = .ok outcome := by
  intro w
  have takes := (takes_iff_orderly w clock origin events).2 orderly
  have taken := (take_all_events w .abort clock events (opened w origin) _).2 ⟨takes, rfl⟩
  have reported : (w.report (w.after events (opened w origin).watch)).1 =
      .ok (distinct (candidates signatures events)) := by
    rw [opened_watch]
    have first := Findings.first_report signatures events
    rw [orderly.labelled] at first
    exact first
  rw [summarize, taken]
  change ∃ outcome, finish w _ = .ok outcome
  unfold finish
  simp only [after, reported]
  split
  · exact ⟨_, rfl⟩
  · exact ⟨_, rfl⟩

-- Orderly histories are summarized. Of any other feed the first item out of order says why it is
-- not, whatever comes behind it.
theorem Settings.summarized_iff_orderly (settings : Settings) (clock : Clock)
    (origin : Option String) :
    let run (items : List Feed.Item) :=
      (Session.opened settings.watcher origin).summarize settings.watcher .abort clock items
    (∀ items, (∃ outcome, run items = .ok outcome) ↔
      ∃ events, items = events.map .ok ∧ Orderly events) ∧
    (∀ items failure, run items = .error failure ↔
      ∃ before item rest, items = before.map .ok ++ item :: rest ∧ Orderly before ∧
        Blames before item failure) ∧
    ∀ before item failure, Orderly before → Blames before item failure →
      ∀ rest, run (before.map .ok ++ item :: rest) = .error failure := by
  intro run
  have accepted (events : List Event) (orderly : Orderly events) :
      ∃ outcome, run (events.map .ok) = .ok outcome :=
    Session.summarize_orderly settings.signatures clock origin events orderly
  have stopped (before : List Event) (item : Feed.Item) (failure : Failure)
      (orderly : Orderly before) (blames : Blames before item failure) (rest : List Feed.Item) :
      run (before.map .ok ++ item :: rest) = .error failure :=
    Session.summarize_blamed settings.watcher clock origin before item rest failure orderly blames
  refine ⟨fun items => ⟨?_, ?_⟩, fun items failure => ⟨?_, ?_⟩, stopped⟩
  · rintro ⟨outcome, summarized⟩
    rcases Session.orderly_or_blamed items with
      history | ⟨before, item, rest, failure, rfl, orderly, blames⟩
    · exact history
    · rw [stopped before item failure orderly blames rest] at summarized
      cases summarized
  · rintro ⟨events, rfl, orderly⟩
    exact accepted events orderly
  · intro failed
    rcases Session.orderly_or_blamed items with
      ⟨events, rfl, orderly⟩ | ⟨before, item, rest, cause, rfl, orderly, blames⟩
    · obtain ⟨outcome, summarized⟩ := accepted events orderly
      rw [summarized] at failed
      cases failed
    · rw [stopped before item cause orderly blames rest] at failed
      cases failed
      exact ⟨before, item, rest, rfl, orderly, blames⟩
  · rintro ⟨before, item, rest, rfl, orderly, blames⟩
    exact stopped before item failure orderly blames rest

end BuildDigest
