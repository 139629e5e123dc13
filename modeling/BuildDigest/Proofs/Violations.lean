import BuildDigest.Proofs.History
import BuildDigest.Proofs.Unread

set_option autoImplicit false

namespace BuildDigest

namespace Variable

theorem number_refusal (env : KeyMap String) (name : String) (refusal : Refusal)
    (failed : number? env name = .error refusal) : refusal.isViolation = false := by
  unfold number? at failed
  split at failed
  · cases failed
  · split at failed
    · cases failed
    · cases failed
      rfl

end Variable

namespace Summary

@[simp] theorem add_environment_lawful (s : Summary) : s.addEnvironment.2.any (·.isViolation) = false := by
  unfold addEnvironment
  cases first : Variable.number? s.envVars Variable.changeNumber with
  | error refusal => exact Variable.number_refusal _ _ refusal first
  | ok change =>
    simp only
    cases second : Variable.number? s.envVars Variable.patchsetNumber with
    | error refusal => exact Variable.number_refusal _ _ refusal second
    | ok patchset => rfl

@[simp] theorem add_command_line_lawful (s : Summary) (c : Wire.CommandLine) :
    (s.addCommandLine c).2.any (·.isViolation) = false := by
  unfold addCommandLine
  split
  · exact add_environment_lawful _
  · rfl

end Summary

namespace Run

def Alike (r other : Run) : Prop :=
  ∃ last, other.summary = { r.summary with bepCompleted := last }

theorem Alike.refl (r : Run) : r.Alike r :=
  ⟨r.summary.bepCompleted, rfl⟩

theorem payload_alike (now : Int64) (p : Payload) (r other : Run) (alike : r.Alike other) :
    (r.payload (fun _ => now) p).1.Alike (other.payload (fun _ => now) p).1 ∧
      (other.payload (fun _ => now) p).2 = (r.payload (fun _ => now) p).2 := by
  obtain ⟨last, same⟩ := alike
  obtain ⟨stays, refusals, -⟩ := payload_unread_at (.marking last) (fun _ => now) p r other same rfl
  exact ⟨⟨last, stays⟩, refusals⟩

def violates (clock : Clock) (e : Event) (r : Run) : Bool :=
  (r.payload clock e.payload).2.any (·.isViolation)

theorem command_line_lawful (clock : Clock) (e : Event) (r : Run) (c : Wire.CommandLine)
    (line : e.payload = .structuredCommandLine c) : r.violates clock e = false := by
  rw [violates, line]
  exact Summary.add_command_line_lawful r.summary c

theorem violates_alike (now : Int64) (e : Event) (r other : Run) (alike : r.Alike other) :
    other.violates (fun _ => now) e = r.violates (fun _ => now) e := by
  rw [violates, violates, (payload_alike now e.payload r other alike).2]

theorem violating_refused (clock : Clock) (e : Event) (r : Run) (violating : r.violates clock e) :
    ∃ next v, r.payload clock e.payload = (next, some (.violation v)) := by
  unfold violates at violating
  cases outcome : r.payload clock e.payload with
  | mk next refusal =>
    rw [outcome] at violating
    cases refusal with
    | none => cases violating
    | some refusal =>
      cases refusal with
      | violation v => exact ⟨next, v, rfl⟩
      | notNumber name value fault => cases violating

-- What is refused for a violation has been refused before anything was written.
theorem payload_violating (clock : Clock) (p : Payload) (r next : Run) (v : Violation)
    (refused : r.payload clock p = (next, some (.violation v))) : next.summary = r.summary := by
  cases p with
  | structuredCommandLine c =>
    have lawful := Summary.add_command_line_lawful r.summary c
    have violating : (r.summary.addCommandLine c).2 = some (.violation v) :=
      congrArg Prod.snd refused
    rw [violating] at lawful
    cases lawful
  | targetConfigured c =>
    simp only [payload, targetConfigured] at refused
    split at refused
    · cases refused
      rfl
    · cases refused
  | targetCompleted c =>
    simp only [payload, targetCompleted] at refused
    split at refused
    · cases refused
      rfl
    · split at refused
      · cases refused
        rfl
      · cases refused
  | testResult c =>
    simp only [payload, testResult] at refused
    split at refused
    · cases refused
      rfl
    · cases refused
  | testSummary c =>
    simp only [payload, testSummary] at refused
    split at refused
    · cases refused
      rfl
    · split at refused
      · cases refused
        rfl
      · cases refused
  | _ => cases refused

theorem take_violating (clock : Clock) (e : Event) (r : Run) (violating : r.violates clock e) :
    (r.take .abort clock e).1.summary = r.summary ∧
      (r.take .goOn clock e).1.summary = { r.summary with bepCompleted := e.lastMessage } := by
  obtain ⟨next, v, refused⟩ := violating_refused clock e r violating
  have unchanged := payload_violating clock e.payload r next v refused
  rw [take, take, refused, ← unchanged]
  exact ⟨rfl, rfl⟩

theorem take_lawful (policy : ViolationPolicy) (clock : Clock) (e : Event) (r : Run)
    (lawful : r.violates clock e = false) :
    r.take policy clock e =
      match r.payload clock e.payload with
      | (next, none) => (next.markCompleted e.lastMessage, none)
      | (next, some refusal) => (next, some refusal) := by
  unfold violates at lawful
  unfold take
  cases outcome : r.payload clock e.payload with
  | mk next refusal =>
    rw [outcome] at lawful
    cases refusal with
    | none => rfl
    | some refusal =>
      have stops : ¬(refusal.isViolation && policy = .goOn) = true := by
        simp only [Option.any_some] at lawful
        simp [lawful]
      simp only [if_neg stops]

theorem take_lawful_alike (policy : ViolationPolicy) (now : Int64) (e : Event) (r other : Run)
    (alike : r.Alike other) (lawful : r.violates (fun _ => now) e = false)
    (taken : (r.take .goOn (fun _ => now) e).2 = none) :
    (r.take .goOn (fun _ => now) e).1.Alike (other.take policy (fun _ => now) e).1 ∧
      (other.take policy (fun _ => now) e).2 = none := by
  obtain ⟨⟨last, same⟩, refusals⟩ := payload_alike now e.payload r other alike
  have otherLawful := (violates_alike now e r other alike).trans lawful
  rw [take_lawful _ _ e r lawful] at taken ⊢
  rw [take_lawful _ _ e other otherLawful]
  cases here : r.payload (fun _ => now) e.payload with
  | mk next refusal =>
    cases there : other.payload (fun _ => now) e.payload with
    | mk otherNext otherRefusal =>
      rw [here] at taken same refusals
      rw [there] at same refusals
      simp only at same refusals
      subst refusals
      cases otherRefusal with
      | none => exact ⟨⟨e.lastMessage, by simp only [markCompleted, change, same]⟩, rfl⟩
      | some refusal => cases taken

def lawful (clock : Clock) : List Event → Run → List Event
  | [], _ => []
  | e :: rest, r =>
      let later := lawful clock rest (r.take .goOn clock e).1
      if r.violates clock e then later else e :: later

end Run

theorem Session.take_all_lawful {σ : Type} (w : Watcher σ) (policy : ViolationPolicy) (now : Int64)
    (events : List Event) (s other last : Session σ) (alike : s.run.Alike other.run)
    (taken : s.takeAll w .goOn (fun _ => now) (events.map .ok) = .ok last) :
    ∃ otherLast, other.takeAll w policy (fun _ => now)
        ((s.run.lawful (fun _ => now) events).map .ok) = .ok otherLast ∧
      last.run.Alike otherLast.run := by
  induction events generalizing s other with
  | nil =>
    cases taken
    exact ⟨other, rfl, alike⟩
  | cons e rest ih =>
    rw [List.map_cons, takeAll, take_item_event] at taken
    cases refusal : (s.run.take .goOn (fun _ => now) e).2 with
    | some refusal =>
      rw [refusal] at taken
      cases taken
    | none =>
      rw [refusal] at taken
      rw [Run.lawful]
      cases violating : s.run.violates (fun _ => now) e with
      | true =>
        have marked := (Run.take_violating (fun _ => now) e s.run violating).2
        have stillAlike : (s.run.take .goOn (fun _ => now) e).1.Alike other.run := by
          obtain ⟨mark, same⟩ := alike
          exact ⟨mark, by rw [marked, same]⟩
        exact ih _ other stillAlike taken
      | false =>
        obtain ⟨stillAlike, otherTaken⟩ :=
          Run.take_lawful_alike policy now e s.run other.run alike violating refusal
        obtain ⟨otherLast, otherRest, alikeAfter⟩ := ih _ (other.after w policy _ [e]) stillAlike taken
        refine ⟨otherLast, ?_, alikeAfter⟩
        rw [if_neg Bool.false_ne_true, List.map_cons, takeAll, take_item_event, otherTaken]
        exact otherRest

-- A violation leaves the summary as it was, but for the mark of the last message. Under a clock
-- that stands still, a history without its violations leads to the same summary, by either policy.
theorem Session.violations_leave_no_trace {σ : Type} (w : Watcher σ) :
    (∀ (clock : Clock) (e : Event) (r : Run), r.violates clock e →
      (r.take .abort clock e).1.summary = r.summary ∧
      (r.take .goOn clock e).1.summary = { r.summary with bepCompleted := e.lastMessage }) ∧
    ∀ (now : Int64) (events : List Event) (s last : Session σ),
      s.takeAll w .goOn (fun _ => now) (events.map .ok) = .ok last →
      ∀ policy, ∃ kept mark,
        s.takeAll w policy (fun _ => now) ((s.run.lawful (fun _ => now) events).map .ok) =
          .ok kept ∧
        kept.run.summary = { last.run.summary with bepCompleted := mark } := by
  refine ⟨Run.take_violating, fun now events s last taken policy => ?_⟩
  obtain ⟨kept, accepted, mark, same⟩ :=
    take_all_lawful w policy now events s s last (Run.Alike.refl s.run) taken
  exact ⟨kept, mark, accepted, same⟩

theorem Session.early_completion_leaves_no_trace :
    let w := Findings.watcher []
    let clock : Clock := fun _ => 7
    let events : List Event :=
      [{ payload := .targetCompleted { label := "//a", success := true } },
        { payload := .targetConfigured { label := "//a" } },
        { payload := .targetCompleted { label := "//a", success := false } },
        { lastMessage := true, payload := .testSummary { label := "//t", overallStatus := .passed } }]
    ∃ last kept mark, (opened w none).takeAll w .goOn clock (events.map .ok) = .ok last ∧
      (opened w none).run.lawful clock events = [events[1], events[2]] ∧
      (opened w none).takeAll w .abort clock ([events[1], events[2]].map .ok) = .ok kept ∧
      kept.run.summary = { last.run.summary with bepCompleted := mark } := by
  intro w clock events
  have taken : (opened w none).takeAll w .goOn clock (events.map .ok) =
      .ok ((opened w none).after w .goOn clock events) := rfl
  obtain ⟨kept, mark, accepted, same⟩ :=
    (violations_leave_no_trace w).2 7 events (opened w none) _ taken .abort
  exact ⟨_, kept, mark, taken, rfl, accepted, same⟩

end BuildDigest
