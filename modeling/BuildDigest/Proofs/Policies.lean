import BuildDigest.Proofs.Acceptance
import BuildDigest.Proofs.Violations

set_option autoImplicit false

namespace BuildDigest

def Unviolated {α : Type} (result : Except Failure α) : Prop :=
  ∀ failure, result = .error failure → failure.isViolation = false

theorem unviolated_bind {α β : Type} (result : Except Failure α) (f : α → Except Failure β) :
    Unviolated (result >>= f) ↔ Unviolated result ∧ ∀ a, result = .ok a → Unviolated (f a) := by
  cases result with
  | error failure =>
    refine ⟨fun whole => ⟨fun cause same => ?_, nofun⟩, fun both cause same => ?_⟩
    · cases same
      exact whole failure rfl
    · cases same
      exact both.1 failure rfl
  | ok a =>
    refine ⟨fun whole => ⟨nofun, fun b same => ?_⟩, fun both => both.2 a rfl⟩
    cases same
    exact whole

namespace Run

theorem take_policies (clock : Clock) (e : Event) (r : Run)
    (unviolated : (r.take .abort clock e).2.any (·.isViolation) = false) :
    r.take .goOn clock e = r.take .abort clock e := by
  rw [take_abort] at unviolated
  rw [take_lawful .goOn clock e r unviolated, take_lawful .abort clock e r unviolated]

theorem take_going_on (clock : Clock) (e : Event) (r : Run) :
    (r.take .goOn clock e).2.any (·.isViolation) = false := by
  unfold take
  cases r.payload clock e.payload with
  | mk next refusal =>
    cases refusal with
    | none => rfl
    | some refusal => cases violation : refusal.isViolation <;> simp [violation]

end Run

namespace Session

variable {σ : Type} (w : Watcher σ) (policy : ViolationPolicy) (clock : Clock)

theorem take_item_unviolated (item : Feed.Item) (s : Session σ) :
    Unviolated (s.takeItem w policy clock item) ↔
      ∀ e, item = .ok e → (s.run.take policy clock e).2.any (·.isViolation) = false := by
  cases item with
  | error fault =>
    constructor
    · intro _ e same
      cases same
    · intro _ failure failed
      cases failed
      rfl
  | ok e =>
    rw [take_item_event]
    cases taken : (s.run.take policy clock e).2 with
    | none =>
      refine ⟨fun _ x same => ?_, fun _ => nofun⟩
      cases same
      rw [taken]
      rfl
    | some refusal =>
      constructor
      · intro unviolated x same
        cases same
        rw [taken]
        exact unviolated (.refused e.displayId refusal) rfl
      · intro lawful failure failed
        cases failed
        have harmless := lawful e rfl
        rw [taken] at harmless
        exact harmless

theorem take_item_policies (item : Feed.Item) (s : Session σ)
    (unviolated : Unviolated (s.takeItem w .abort clock item)) :
    s.takeItem w .goOn clock item = s.takeItem w .abort clock item := by
  cases item with
  | error fault => rfl
  | ok e =>
    have same := Run.take_policies clock e s.run
      ((take_item_unviolated w .abort clock (.ok e) s).1 unviolated e rfl)
    rw [take_item_event, take_item_event, same]
    simp only [after, Run.after, List.foldl_cons, List.foldl_nil, same]

theorem take_all_policies (items : List Feed.Item) (s : Session σ)
    (unviolated : Unviolated (s.takeAll w .abort clock items)) :
    s.takeAll w .goOn clock items = s.takeAll w .abort clock items := by
  induction items generalizing s with
  | nil => rfl
  | cons item rest ih =>
    obtain ⟨first, later⟩ := (unviolated_bind _ _).1 unviolated
    rw [takeAll, takeAll, take_item_policies w clock item s first]
    cases taken : s.takeItem w .abort clock item with
    | error failure => rfl
    | ok next => exact ih next (later next taken)

theorem take_all_going_on (items : List Feed.Item) (s : Session σ) :
    Unviolated (s.takeAll w .goOn clock items) := by
  induction items generalizing s with
  | nil => exact nofun
  | cons item rest ih =>
    have first := (take_item_unviolated w .goOn clock item s).2
      fun e _ => Run.take_going_on clock e s.run
    exact (unviolated_bind _ _).2 ⟨first, fun next _ => ih next⟩

theorem finish_unviolated (s : Session σ) : Unviolated (s.finish w) := by
  intro failure failed
  unfold finish at failed
  simp only at failed
  split at failed
  · cases failed
  · split at failed <;> cases failed
    rfl

theorem summarize_policies (items : List Feed.Item) (s : Session σ)
    (unviolated : Unviolated (s.summarize w .abort clock items)) :
    s.summarize w .goOn clock items = s.summarize w .abort clock items := by
  have taken := take_all_policies w clock items s ((unviolated_bind _ _).1 unviolated).1
  rw [summarize, summarize, taken]

theorem summarize_going_on (items : List Feed.Item) (s : Session σ) :
    Unviolated (s.summarize w .goOn clock items) :=
  (unviolated_bind _ _).2 ⟨take_all_going_on w clock items s, fun last _ => finish_unviolated w last⟩

end Session

-- What comes out where a violation ends the run comes out where it goes on as well, unless a
-- violation has ended it; the run that goes on never fails for one.
theorem Session.policies_differ_on_violations {σ : Type} (w : Watcher σ) (clock : Clock)
    (items : List Feed.Item) (s : Session σ) :
    let run (policy : ViolationPolicy) := s.summarize w policy clock items
    (∀ outcome, run .abort = .ok outcome → run .goOn = .ok outcome) ∧
    (∀ failure, run .abort = .error failure → failure.isViolation = false →
      run .goOn = .error failure) ∧
    ∀ failure, run .abort = .error failure → failure.isViolation → run .goOn ≠ .error failure := by
  intro run
  refine ⟨fun outcome summarized => ?_, fun failure failed other => ?_,
    fun failure _ violation goesOn => ?_⟩
  · have unviolated : Unviolated (run .abort) := by
      rw [summarized]
      exact nofun
    exact (summarize_policies w clock items s unviolated).trans summarized
  · have unviolated : Unviolated (run .abort) := by
      intro cause same
      cases failed.symm.trans same
      exact other
    exact (summarize_policies w clock items s unviolated).trans failed
  · rw [summarize_going_on w clock items s failure goesOn] at violation
    cases violation

theorem Session.unreadable_line_ends_both :
    let w := Findings.watcher []
    let fault := Feed.Fault.unreadable 2 Feed.Fault.notUtf8
    let run (policy : ViolationPolicy) := (opened w none).summarize w policy (fun _ => 0)
      [.ok { payload := .targetConfigured { label := "//a" } }, .error fault]
    run .abort = .error (.unfed fault) ∧ run .goOn = .error (.unfed fault) := by
  intro w fault run
  have failed : run .abort = .error (.unfed fault) := rfl
  obtain ⟨-, same, -⟩ := policies_differ_on_violations w (fun _ => 0) _ (opened w none)
  exact ⟨failed, same _ failed rfl⟩

end BuildDigest
