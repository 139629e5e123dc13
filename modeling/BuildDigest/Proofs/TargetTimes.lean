import BuildDigest.Proofs.Calendar
import BuildDigest.Proofs.TargetTable

set_option autoImplicit false

namespace BuildDigest

-- A clock that never goes back and stays within the calendar.
structure Clock.Steady (clock : Clock) : Prop where
  onward : ∀ n, clock n ≤ clock (n + 1)
  inCalendar : ∀ n, Timestamp.InCalendar (clock n)

theorem Clock.Steady.mono {clock : Clock} (steady : clock.Steady) (i j : Nat) (le : i ≤ j) :
    clock i ≤ clock j := by
  induction le with
  | refl => exact Int64.le_refl _
  | step _ ih => exact Int64.le_trans ih (steady.onward _)

-- The calendar is short enough for a word to hold the time between any two of its moments.
theorem Timestamp.difference_exact (start stop : Int64) (first : InCalendar start)
    (second : InCalendar stop) : (stop - start).toInt = stop.toInt - start.toInt := by
  obtain ⟨startLow, startHigh⟩ := first
  obtain ⟨stopLow, stopHigh⟩ := second
  rw [Int64.toInt_sub]
  exact Int.bmod_eq_of_le (by omega) (by omega)

theorem Payload.configuration_reads (label : String) (p : Payload) (m : Wire.TargetConfigured)
    (labelled : label ≠ "") (message : p.configurationOf? label = some m) : p.readsClock := by
  obtain ⟨rfl, rfl⟩ := (Payload.configuration_view.eq_some_iff label p m).1 message
  simp [readsClock, labelled]

theorem Payload.completion_reads (label : String) (p : Payload) (m : Wire.TargetCompleted)
    (labelled : label ≠ "") (message : p.completionOf? label = some m) : p.readsClock := by
  obtain ⟨rfl, rfl⟩ := (Payload.completion_view.eq_some_iff label p m).1 message
  simp [readsClock, labelled]

theorem readings_before (before after : List Event) (e : Event) (reads : e.payload.readsClock) :
    readings before < readings (before ++ e :: after) := by
  rw [readings, readings, List.countP_append, List.countP_cons, if_pos reads]
  omega

namespace Summary.Target

-- The times of a target are two of the readings taken so far, in their order.
inductive Timed (clock : Clock) (taken : Nat) (t : Target) : Prop where
  | pending (i : Nat) (started : i < taken) (start : t.configuration.startTimeMs = clock i)
      (pending : t.Pending)
  | completed (i j : Nat) (c : Completed) (since : i < j) (ended : j < taken)
      (start : t.configuration.startTimeMs = clock i) (completion : t.completion = some c)
      (stop : c.endTimeMs = clock j)
      (duration : t.durationMs = c.endTimeMs - t.configuration.startTimeMs)

theorem recorded_timed (clock : Clock) (label : String) (events : List Event) (target : Target)
    (recorded : Recorded clock label events (some target)) :
    target.Timed clock (readings events) := by
  cases recorded with
  | configured before e after m labelled found message =>
    have reads := Payload.configuration_reads label e.payload m labelled message
    rw [found.split]
    exact .pending (readings before) (readings_before before after e reads) rfl ⟨rfl, rfl, rfl⟩
  | completed before e after m labelled found message between x rest c since completion =>
    have starts := Payload.configuration_reads label e.payload m labelled message
    have ends := Payload.completion_reads label x.payload c labelled completion
    have earlier : readings (before ++ e :: between) < readings events := by
      rw [found.split, since.split, ← List.cons_append, ← List.append_assoc]
      exact readings_before _ rest x ends
    have completed := complete_completed_by
      (clock (readings (before ++ e :: between))) c (.configured (clock (readings before)) m)
    exact .completed (readings before) _ _ (readings_before before between e starts) earlier rfl
      completed.completion completed.ended completed.duration

theorem Timed.steady {clock : Clock} {taken : Nat} {t : Target} (timed : t.Timed clock taken)
    (steady : clock.Steady) :
    0 ≤ t.durationMs ∧
    ∀ c, t.completion = some c →
      t.durationMs.toInt = c.endTimeMs.toInt - t.configuration.startTimeMs.toInt ∧
      t.configuration.startTimeMs ≤ c.endTimeMs ∧
      ∃ n, taken = n + 1 ∧ c.endTimeMs ≤ clock n := by
  cases timed with
  | pending i started start pending =>
    rw [pending.duration, pending.completion]
    exact ⟨Int64.le_refl 0, nofun⟩
  | completed i j c since ended start completion stop duration =>
    have forth : clock i ≤ clock j := steady.mono i j (Nat.le_of_lt since)
    have exactly := Timestamp.difference_exact (clock i) (clock j) (steady.inCalendar i)
      (steady.inCalendar j)
    rw [duration, completion, start]
    refine ⟨?_, fun other same => ?_⟩
    · rw [stop, Int64.le_iff_toInt_le, exactly]
      have := Int64.le_iff_toInt_le.1 forth
      exact Int.sub_nonneg_of_le this
    · cases same
      rw [stop]
      obtain ⟨n, rfl⟩ := Nat.exists_eq_add_of_lt ended
      exact ⟨exactly, forth, j + n, rfl, steady.mono j (j + n) (Nat.le_add_right j n)⟩

end Summary.Target

-- The session goes on behind every event here, also behind one that it refuses.
theorem Session.durations_of_history {σ : Type} (w : Watcher σ) (policy : ViolationPolicy)
    (clock : Clock) (origin : Option String) (events : List Event) (label : String)
    (target : Summary.Target) (steady : clock.Steady)
    (found : ((opened w origin).after w policy clock events).run.summary.targets.get? label =
      some target) :
    0 ≤ target.durationMs ∧
    ∀ c, target.completion = some c →
      target.durationMs.toInt = c.endTimeMs.toInt - target.configuration.startTimeMs.toInt ∧
      target.configuration.startTimeMs ≤ c.endTimeMs ∧
      ∃ n, ((opened w origin).after w policy clock events).run.readings = n + 1 ∧
        c.endTimeMs ≤ clock n := by
  obtain ⟨url, files, fresh⟩ := opened_run w origin
  have recorded : Summary.Target.Recorded clock label events
      (((opened w origin).after w policy clock events).run.summary.targets.get? label) :=
    Run.after_targets policy clock events _ label (by rw [fresh]) (by rw [fresh])
  have taken : ((opened w origin).after w policy clock events).run.readings = readings events := by
    rw [after, Run.after_readings, fresh, Nat.zero_add]
  rw [found] at recorded
  rw [taken]
  exact (Summary.Target.recorded_timed clock label events target recorded).steady steady

theorem Session.duration_behind_refusal :
    let w := Findings.watcher []
    let clock : Clock := fun
      | 0 => -5
      | 1 => 3
      | _ + 2 => 9
    let events : List Event :=
      [{ payload := .targetConfigured { label := "//a" } },
        { payload := .targetCompleted { label := "//b" } },
        { payload := .targetCompleted { label := "//a", success := true } }]
    let s := (opened w none).after w .abort clock events
    clock.Steady ∧ ¬(opened w none).Takes .abort clock events ∧
      ∃ target c, s.run.summary.targets.get? "//a" = some target ∧ target.completion = some c ∧
        target.durationMs = 14 ∧ 0 ≤ target.durationMs ∧
        target.configuration.startTimeMs ≤ c.endTimeMs ∧
        ∃ n, s.run.readings = n + 1 ∧ c.endTimeMs ≤ clock n := by
  intro w clock events s
  have steady : clock.Steady := by
    refine ⟨fun n => ?_, fun n => ?_⟩
    · match n with
      | 0 => decide
      | 1 => decide
      | _ + 2 => exact Int64.le_refl 9
    · match n with
      | 0 => exact ⟨by decide, by decide⟩
      | 1 => exact ⟨by decide, by decide⟩
      | _ + 2 =>
        have last : Timestamp.InCalendar 9 := ⟨by decide, by decide⟩
        exact last
  have refused : ¬(opened w none).Takes .abort clock events := fun takes =>
    absurd (takes [events[0]] events[1] [events[2]] rfl) (by decide)
  have found : s.run.summary.targets.get? "//a" = some
      ((Summary.Target.configured (-5) { label := "//a" }).complete
        (.of 9 { label := "//a", success := true })) := by decide
  obtain ⟨long, times⟩ := durations_of_history w .abort clock none events "//a" _ steady found
  obtain ⟨-, later, latest⟩ := times _ rfl
  exact ⟨steady, refused, _, _, found, rfl, by decide, long, later, latest⟩

end BuildDigest
