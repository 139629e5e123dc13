import BuildDigest.Proofs.CommandLine
import BuildDigest.Proofs.History

set_option autoImplicit false

namespace BuildDigest

namespace Payload

def configurationOf? (label : String) : Payload → Option Wire.TargetConfigured
  | .targetConfigured m => if m.label = label then some m else none
  | _ => none

def completionOf? (label : String) : Payload → Option Wire.TargetCompleted
  | .targetCompleted m => if m.label = label then some m else none
  | _ => none

theorem configuration_view : View .targetConfigured (·.label) targetConfigured configurationOf? where
  made _ _ := rfl
  other _ p other := by cases p <;> first | rfl | exact absurd rfl (other _)
  kinds p := by cases p <;> simp [kind?]
  subject _ := rfl

theorem completion_view : View .targetCompleted (·.label) targetCompleted completionOf? where
  made _ _ := rfl
  other _ p other := by cases p <;> first | rfl | exact absurd rfl (other _)
  kinds p := by cases p <;> simp [kind?]
  subject _ := rfl

-- The clock is read for each event about a target with a label, known or not.
def readsClock : Payload → Bool
  | .targetConfigured m => !m.label.isEmpty
  | .targetCompleted m => !m.label.isEmpty
  | _ => false

end Payload

def readings (events : List Event) : Nat :=
  events.countP fun e => e.payload.readsClock

namespace Summary

-- What an event makes of the target with the label at a time. Nothing is kept without a label.
def Target.next (label : String) (now : Int64) (p : Payload) (target : Option Target) :
    Option Target :=
  if label = "" then target
  else
    match p.configurationOf? label, p.completionOf? label with
    | some m, _ => some (.configured now m)
    | none, some m => target.map fun t => t.complete (.of now m)
    | none, none => target

theorem Target.next_other (label : String) (now : Int64) (p : Payload) (target : Option Target)
    (noConfiguration : p.configurationOf? label = none) (noCompletion : p.completionOf? label = none) :
    next label now p target = target := by
  simp only [next, noConfiguration, noCompletion, ite_self]

@[simp] theorem add_command_line_targets (s : Summary) (c : Wire.CommandLine) :
    (s.addCommandLine c).1.targets = s.targets := by
  obtain ⟨env, line, change, patchset, url, uuid, whole⟩ := add_command_line_frame s c
  rw [whole]

end Summary

namespace Run

@[simp] theorem target_configured_targets (clock : Clock) (m : Wire.TargetConfigured) (r : Run)
    (label : String) :
    (r.targetConfigured clock m).1.summary.targets.get? label =
      Summary.Target.next label (clock r.readings) (.targetConfigured m)
        (r.summary.targets.get? label) := by
  unfold targetConfigured
  by_cases same : m.label = label
  · subst same
    have configuration : Payload.configurationOf? m.label (.targetConfigured m) = some m :=
      if_pos rfl
    by_cases empty : m.label = ""
    · rw [if_pos (String.isEmpty_iff.2 empty), Summary.Target.next, if_pos empty]
      rfl
    · rw [if_neg (not_isEmpty m.label empty), Summary.Target.next, if_neg empty,
        configuration]
      simp only [accept, change, KeyMap.get?_insert, if_pos]
  · rw [Summary.Target.next_other label _ (.targetConfigured m) _ (if_neg same) rfl]
    split
    · rfl
    · simp only [accept, change, KeyMap.get?_insert, if_neg (Ne.symm same)]

@[simp] theorem target_completed_targets (clock : Clock) (m : Wire.TargetCompleted) (r : Run)
    (label : String) :
    (r.targetCompleted clock m).1.summary.targets.get? label =
      Summary.Target.next label (clock r.readings) (.targetCompleted m)
        (r.summary.targets.get? label) := by
  unfold targetCompleted
  by_cases same : m.label = label
  · subst same
    have completion : Payload.completionOf? m.label (.targetCompleted m) = some m := if_pos rfl
    by_cases empty : m.label = ""
    · rw [if_pos (String.isEmpty_iff.2 empty), Summary.Target.next, if_pos empty]
      rfl
    · rw [if_neg (not_isEmpty m.label empty), Summary.Target.next, if_neg empty,
        completion]
      cases found : r.summary.targets.get? m.label with
      | none =>
        simp only [found]
        exact found
      | some target =>
        simp only [found, accept, change, KeyMap.get?_insert, if_pos, Payload.configurationOf?,
          Option.map_some]
  · rw [Summary.Target.next_other label _ (.targetCompleted m) _ rfl (if_neg same)]
    split
    · rfl
    · simp only
      split
      · rfl
      · simp only [accept, change, KeyMap.get?_insert, if_neg (Ne.symm same)]

@[simp] theorem payload_targets (clock : Clock) (p : Payload) (r : Run) (label : String) :
    (r.payload clock p).1.summary.targets.get? label =
      Summary.Target.next label (clock r.readings) p (r.summary.targets.get? label) := by
  cases p with
  | targetConfigured m => exact target_configured_targets clock m r label
  | targetCompleted m => exact target_completed_targets clock m r label
  | structuredCommandLine m =>
    rw [Summary.Target.next_other label _ _ _ rfl rfl]
    simp only [payload, commandLine, Summary.add_command_line_targets]
  | testResult m =>
    rw [Summary.Target.next_other label _ _ _ rfl rfl]
    simp only [payload, testResult]
    split <;> rfl
  | testSummary m =>
    rw [Summary.Target.next_other label _ _ _ rfl rfl]
    simp only [payload, testSummary]
    split
    · rfl
    · split <;> rfl
  | fetch m =>
    rw [Summary.Target.next_other label _ _ _ rfl rfl]
    simp only [payload, accept, change, fetch]
    split <;> rfl
  | _ => exact (Summary.Target.next_other label _ _ _ rfl rfl).symm

@[simp] theorem payload_readings (clock : Clock) (p : Payload) (r : Run) :
    (r.payload clock p).1.readings = r.readings + if p.readsClock then 1 else 0 := by
  cases p with
  | targetConfigured m =>
    simp only [payload, targetConfigured, Payload.readsClock]
    by_cases empty : m.label.isEmpty
    · simp [empty, refuse]
    · simp [empty, accept, change]
  | targetCompleted m =>
    simp only [payload, targetCompleted, Payload.readsClock]
    by_cases empty : m.label.isEmpty
    · simp [empty, refuse]
    · simp only [empty, Bool.not_false, if_true, Bool.false_eq_true, if_false]
      split <;> rfl
  | testResult m =>
    simp only [payload, testResult]
    split <;> rfl
  | testSummary m =>
    simp only [payload, testSummary]
    split
    · rfl
    · split <;> rfl
  | _ => rfl

@[simp] theorem take_targets (policy : ViolationPolicy) (clock : Clock) (e : Event) (r : Run)
    (label : String) :
    (r.take policy clock e).1.summary.targets.get? label =
      Summary.Target.next label (clock r.readings) e.payload (r.summary.targets.get? label) := by
  rw [← payload_targets clock]
  exact take_unmarked (fun r => r.summary.targets.get? label) policy clock e r fun _ _ => rfl

@[simp] theorem take_readings (policy : ViolationPolicy) (clock : Clock) (e : Event) (r : Run) :
    (r.take policy clock e).1.readings = r.readings + if e.payload.readsClock then 1 else 0 := by
  rw [← payload_readings clock]
  exact take_unmarked (·.readings) policy clock e r fun _ _ => rfl

@[simp] theorem after_readings (policy : ViolationPolicy) (clock : Clock) (events : List Event) (r : Run) :
    (r.after policy clock events).readings = r.readings + BuildDigest.readings events := by
  induction events using List.reverseRecOn with
  | nil => rfl
  | append_singleton events e ih =>
    rw [after_concat, take_readings, ih, BuildDigest.readings, BuildDigest.readings,
      List.countP_append, List.countP_singleton, Nat.add_assoc]

end Run

namespace Summary

namespace Target

structure ConfiguredBy (now : Int64) (m : Wire.TargetConfigured) (t : Target) : Prop where
  configuration : t.configuration = ⟨now, m.targetKind, m.testSize, m.tag⟩
  targetKind : t.targetKind = m.targetKind
  testSize : t.testSize = m.testSize

-- A target that is not completed yet counts as failed, and takes no time.
structure Pending (t : Target) : Prop where
  completion : t.completion = none
  duration : t.durationMs = 0
  success : t.success = false

structure CompletedBy (now : Int64) (m : Wire.TargetCompleted) (t : Target) (c : Completed) :
    Prop where
  completion : t.completion = some c
  ended : c.endTimeMs = now
  duration : t.durationMs = c.endTimeMs - t.configuration.startTimeMs
  success : t.success = c.success
  aborted : ∀ a, m.aborted = some a →
    c.success = false ∧ c.tag = [] ∧ c.testTimeoutSeconds = none ∧ c.abortReason = some a.reason
  ordinary : m.aborted = none →
    c.success = m.success ∧ c.tag = m.tag ∧
      c.testTimeoutSeconds = m.testTimeout.map (·.seconds) ∧ c.abortReason = none

theorem complete_completed_by (now : Int64) (m : Wire.TargetCompleted) (t : Target) :
    CompletedBy now m (t.complete (.of now m)) (.of now m) := by
  cases aborted : m.aborted with
  | none =>
    have whole : Completed.of now m =
        ⟨m.success, now, m.tag, m.testTimeout.map (·.seconds), none⟩ := by
      rw [Completed.of, aborted]
    rw [whole]
    exact ⟨rfl, rfl, rfl, rfl, fun a found => by simp [aborted] at found,
      fun _ => ⟨rfl, rfl, rfl, rfl⟩⟩
  | some a =>
    have whole : Completed.of now m = ⟨false, now, [], none, some a.reason⟩ := by
      rw [Completed.of, aborted]
    rw [whole]
    refine ⟨rfl, rfl, rfl, rfl, fun b found => ?_, fun absent => by simp [aborted] at absent⟩
    cases aborted.symm.trans found
    exact ⟨rfl, rfl, rfl, rfl⟩

inductive Recorded (clock : Clock) (label : String) : List Event → Option Target → Prop where
  | absent (events : List Event)
      (never : label = "" ∨ ∀ e ∈ events, e.concerns .targetConfigured label = false) :
      Recorded clock label events none
  | configured (events before : List Event) (e : Event) (after : List Event)
      (m : Wire.TargetConfigured) (labelled : label ≠ "")
      (found : LastAt (·.concerns .targetConfigured label) events before e after)
      (message : e.payload.configurationOf? label = some m)
      (pending : ∀ x ∈ after, x.concerns .targetCompleted label = false) :
      Recorded clock label events (some (.configured (clock (readings before)) m))
  | completed (events before : List Event) (e : Event) (after : List Event)
      (m : Wire.TargetConfigured) (labelled : label ≠ "")
      (found : LastAt (·.concerns .targetConfigured label) events before e after)
      (message : e.payload.configurationOf? label = some m)
      (between : List Event) (x : Event) (rest : List Event) (c : Wire.TargetCompleted)
      (since : LastAt (·.concerns .targetCompleted label) after between x rest)
      (completion : x.payload.completionOf? label = some c) :
      Recorded clock label events
        (some ((Target.configured (clock (readings before)) m).complete
          (.of (clock (readings (before ++ e :: between))) c)))

theorem recorded_configuration (clock : Clock) (label : String) (events : List Event) (e : Event)
    (m : Wire.TargetConfigured) (labelled : label ≠ "")
    (message : e.payload.configurationOf? label = some m) :
    Recorded clock label (events ++ [e]) (some (.configured (clock (readings events)) m)) := by
  have holds : e.concerns .targetConfigured label = true := by
    rw [Payload.configuration_view.concerns_isSome, message, Option.isSome_some]
  exact .configured (events ++ [e]) events e [] m labelled (LastAt.here _ events e holds) message
    fun x member => absurd member List.not_mem_nil

theorem recorded_completion (clock : Clock) (label : String) (events before : List Event)
    (first : Event) (after : List Event) (e : Event) (m : Wire.TargetConfigured)
    (c : Wire.TargetCompleted) (labelled : label ≠ "")
    (found : LastAt (·.concerns .targetConfigured label) events before first after)
    (message : first.payload.configurationOf? label = some m)
    (noConfiguration : e.payload.configurationOf? label = none)
    (completion : e.payload.completionOf? label = some c) :
    Recorded clock label (events ++ [e])
      (some ((Target.configured (clock (readings before)) m).complete
        (.of (clock (readings events)) c))) := by
  have other : e.concerns .targetConfigured label = false := by
    rw [Payload.configuration_view.concerns_isSome, noConfiguration, Option.isSome_none]
  have holds : e.concerns .targetCompleted label = true := by
    rw [Payload.completion_view.concerns_isSome, completion, Option.isSome_some]
  have later := found.concat _ events before first after e other
  -- The reading for the completion is the one behind all events so far.
  rw [found.split] at later ⊢
  exact .completed _ before first _ m labelled later message after e [] c
    (LastAt.here _ after e holds) completion

theorem recorded_since (clock : Clock) (label : String) (events : List Event) (e : Event)
    (target : Option Target) (labelled : label ≠ "")
    (recorded : Recorded clock label events target)
    (noConfiguration : e.payload.configurationOf? label = none) :
    Recorded clock label (events ++ [e])
      (match e.payload.completionOf? label with
        | some c => target.map fun t => t.complete (.of (clock (readings events)) c)
        | none => target) := by
  have other : e.concerns .targetConfigured label = false := by
    rw [Payload.configuration_view.concerns_isSome, noConfiguration, Option.isSome_none]
  have quiet (none : e.payload.completionOf? label = none) :
      e.concerns .targetCompleted label = false := by
    rw [Payload.completion_view.concerns_isSome, none, Option.isSome_none]
  cases recorded with
  | absent never =>
    have still := none_concat _ events e (never.resolve_left labelled) other
    cases e.payload.completionOf? label <;> exact .absent (events ++ [e]) (.inr still)
  | configured before first after m labelled found message pending =>
    cases completion : e.payload.completionOf? label with
    | none =>
      exact .configured _ before first _ m labelled
        (found.concat _ events before first after e other) message
        (none_concat _ after e pending (quiet completion))
    | some c =>
      exact recorded_completion clock label events before first after e m c labelled found message
        noConfiguration completion
  | completed before first after m labelled found message between x rest earlier since completed =>
    cases completion : e.payload.completionOf? label with
    | none =>
      exact .completed _ before first _ m labelled
        (found.concat _ events before first after e other) message between x _ earlier
        (since.concat _ after between x rest e (quiet completion)) completed
    | some c =>
      exact recorded_completion clock label events before first after e m c labelled found message
        noConfiguration completion

theorem recorded_concat (clock : Clock) (label : String) (events : List Event) (e : Event)
    (target : Option Target) (recorded : Recorded clock label events target) :
    Recorded clock label (events ++ [e])
      (next label (clock (readings events)) e.payload target) := by
  by_cases unlabelled : label = ""
  · cases recorded with
    | absent never =>
      rw [next, if_pos unlabelled]
      exact .absent (events ++ [e]) (.inl unlabelled)
    | configured before e after m labelled => exact absurd unlabelled labelled
    | completed before e after m labelled => exact absurd unlabelled labelled
  · rw [next, if_neg unlabelled]
    cases message : e.payload.configurationOf? label with
    | some m => exact recorded_configuration clock label events e m unlabelled message
    | none =>
      have since := recorded_since clock label events e target unlabelled recorded message
      cases completion : e.payload.completionOf? label <;> simpa only [completion] using since

theorem recorded_isSome (clock : Clock) (label : String) (events : List Event)
    (target : Option Target) (recorded : Recorded clock label events target) :
    target.isSome ↔
      label ≠ "" ∧ ∃ e ∈ events, ∃ m, e.payload = .targetConfigured m ∧ m.label = label := by
  have somewhere (before : List Event) (e : Event) (after : List Event)
      (found : LastAt (·.concerns .targetConfigured label) events before e after) :
      ∃ e ∈ events, e.concerns .targetConfigured label :=
    ⟨e, by simp [found.split], found.holds⟩
  simp only [← Payload.configuration_view.concerns_iff]
  cases recorded with
  | absent never =>
    refine ⟨nofun, fun ⟨labelled, e, member, holds⟩ => ?_⟩
    rw [never.resolve_left labelled e member] at holds
    cases holds
  | configured before e after m labelled found =>
    exact ⟨fun _ => ⟨labelled, somewhere before e after found⟩, fun _ => rfl⟩
  | completed before e after m labelled found =>
    exact ⟨fun _ => ⟨labelled, somewhere before e after found⟩, fun _ => rfl⟩

end Target

end Summary

theorem Run.after_targets (policy : ViolationPolicy) (clock : Clock) (events : List Event) (r : Run)
    (label : String) (start : r.summary.targets = ∅) (unread : r.readings = 0) :
    Summary.Target.Recorded clock label events
      ((r.after policy clock events).summary.targets.get? label) := by
  induction events using List.reverseRecOn with
  | nil =>
    rw [Run.after, List.foldl_nil, start]
    exact .absent [] (.inr fun e member => absurd member List.not_mem_nil)
  | append_singleton events e ih =>
    rw [after_concat, take_targets, after_readings, unread, Nat.zero_add]
    exact Summary.Target.recorded_concat clock label events e _ ih

-- The entry of a label comes from its last configuration and from its last completion since.
theorem Session.targets_of_history {σ : Type} (w : Watcher σ) (policy : ViolationPolicy)
    (clock : Clock) (origin : Option String) (events : List Event) (s : Session σ)
    (taken : (opened w origin).takeAll w policy clock (events.map .ok) = .ok s) (label : String) :
    (s.run.summary.targets.contains label ↔
      label ≠ "" ∧ ∃ e ∈ events, ∃ m, e.payload = .targetConfigured m ∧ m.label = label) ∧
    ∀ target, s.run.summary.targets.get? label = some target →
      ∃ before e after m,
        LastAt (·.concerns .targetConfigured label) events before e after ∧
        e.payload = .targetConfigured m ∧
        target.ConfiguredBy (clock (readings before)) m ∧
        ((∀ x ∈ after, x.concerns .targetCompleted label = false) ∧ target.Pending ∨
          ∃ between x rest c completion,
            LastAt (·.concerns .targetCompleted label) after between x rest ∧
            x.payload = .targetCompleted c ∧
            target.CompletedBy (clock (readings (before ++ e :: between))) c completion) := by
  obtain ⟨-, rfl⟩ := (take_all_events w policy clock events _ s).1 taken
  obtain ⟨url, files, fresh⟩ := opened_run w origin
  have entry : Summary.Target.Recorded clock label events
      (((opened w origin).after w policy clock events).run.summary.targets.get? label) :=
    Run.after_targets policy clock events _ label (by rw [fresh]) (by rw [fresh])
  refine ⟨?_, fun target found => ?_⟩
  · rw [KeyMap.contains]
    exact Summary.Target.recorded_isSome clock label events _ entry
  · rw [found] at entry
    cases entry with
    | configured before e after m labelled configured message pending =>
      refine ⟨before, e, after, m, configured,
        ((Payload.configuration_view.eq_some_iff label e.payload m).1 message).1, ⟨rfl, rfl, rfl⟩, .inl ?_⟩
      exact ⟨pending, rfl, rfl, rfl⟩
    | completed before e after m labelled configured message between x rest c since
        completion =>
      refine ⟨before, e, after, m, configured,
        ((Payload.configuration_view.eq_some_iff label e.payload m).1 message).1, ⟨rfl, rfl, rfl⟩, .inr ?_⟩
      exact ⟨between, x, rest, c, _, since,
        ((Payload.completion_view.eq_some_iff label x.payload c).1 completion).1,
        Summary.Target.complete_completed_by _ c _⟩

-- A completion that comes too early is skipped, but the clock has been read for it.
theorem Session.targets_of_early_completion :
    let w := Findings.watcher []
    let clock : Clock := fun n => if n = 1 then 5 else if n = 2 then 9 else 0
    let events : List Event :=
      [{ payload := .targetCompleted { label := "//a", success := false } },
        { payload := .targetConfigured { label := "//a" } },
        { payload := .targetCompleted { label := "//a", success := true } }]
    ∃ s, (opened w none).takeAll w .goOn clock (events.map .ok) = .ok s ∧
      s.run.summary.targets.contains "//a" ∧
      (s.run.summary.targets.get? "//a").map (·.durationMs) = some 4 ∧
      ∀ target, s.run.summary.targets.get? "//a" = some target →
        ∃ before e after m, LastAt (·.concerns .targetConfigured "//a") events before e after ∧
          e.payload = .targetConfigured m ∧ target.ConfiguredBy (clock (readings before)) m := by
  intro w clock events
  have taken : (opened w none).takeAll w .goOn clock (events.map .ok) =
      .ok ((opened w none).after w .goOn clock events) := rfl
  obtain ⟨entry, fields⟩ := targets_of_history w .goOn clock none events _ taken "//a"
  refine ⟨_, taken, entry.2 ⟨by decide, events[1], by simp, _, rfl, rfl⟩, by decide,
    fun target found => ?_⟩
  obtain ⟨before, e, after, m, last, message, configured, -⟩ := fields target found
  exact ⟨before, e, after, m, last, message, configured⟩

end BuildDigest
