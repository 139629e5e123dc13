import BuildDigest.Proofs.Finish
import BuildDigest.Proofs.Policies
import BuildDigest.Proofs.Writing

set_option autoImplicit false

namespace BuildDigest

namespace Event

def Legible (e : Event) : Prop :=
  ∀ c, e.payload = .structuredCommandLine c → c.Sound

inductive Illegible (e : Event) : Refusal → Prop where
  | misread (c : Wire.CommandLine) (part : Wire.CommandSection) (refusal : Refusal)
      (line : e.payload = .structuredCommandLine c)
      (typed : c.commandLineLabel = Summary.asTypedLabel) (last : c.lastOptions? = some part)
      (misread : Variable.Misread (Variable.addSection part ∅) refusal) : Illegible e refusal

theorem legible_or_illegible (e : Event) : e.Legible ∨ ∃ refusal, e.Illegible refusal := by
  cases line : e.payload with
  | structuredCommandLine c =>
    rcases Payload.admissible_or_breaks [] (.structuredCommandLine c) with sound | ⟨refusal, breaks⟩
    · refine .inl fun other same => ?_
      cases line.symm.trans same
      exact sound
    · cases breaks with
      | misread c part refusal typed last misread =>
        exact .inr ⟨refusal, .misread c part refusal line typed last misread⟩
  | _ => exact .inl fun c same => nomatch line.symm.trans same

end Event

namespace Run

theorem payload_legible (clock : Clock) (e : Event) (r : Run)
    (numbered : Variable.Numbered r.summary.envVars) (legible : e.Legible) :
    (r.payload clock e.payload).2.all (·.isViolation) ∧
      Variable.Numbered (r.payload clock e.payload).1.summary.envVars := by
  cases line : e.payload.commandLine? with
  | none =>
    obtain ⟨same, violations⟩ := payload_environment clock e.payload r line
    rw [same]
    exact ⟨violations, numbered⟩
  | some c =>
    have typed := Payload.command_line_of_eq_some e.payload c line
    obtain ⟨taken, kept⟩ := Summary.add_command_line_sound r.summary c numbered (legible c typed)
    rw [typed]
    simp only [payload, commandLine, taken]
    exact ⟨rfl, kept⟩

theorem take_legible (clock : Clock) (e : Event) (r : Run)
    (numbered : Variable.Numbered r.summary.envVars) (legible : e.Legible) :
    (r.take .goOn clock e).2 = none ∧
      Variable.Numbered (r.take .goOn clock e).1.summary.envVars := by
  obtain ⟨violations, kept⟩ := payload_legible clock e r numbered legible
  refine ⟨?_, ?_⟩
  · unfold take
    cases outcome : r.payload clock e.payload with
    | mk next refusal =>
      rw [outcome] at violations
      cases refusal with
      | none => rfl
      | some refusal =>
        simp only [Option.all_some] at violations
        simp [violations]
  · rw [take_unmarked (·.summary.envVars) .goOn clock e r fun _ _ => rfl]
    exact kept

theorem take_illegible (policy : ViolationPolicy) (clock : Clock) (e : Event) (r : Run)
    (refusal : Refusal) (illegible : e.Illegible refusal) :
    (r.take policy clock e).2 = some refusal := by
  obtain ⟨c, part, refusal, line, typed, last, misread⟩ := illegible
  have refused : (r.payload clock e.payload).2 = some refusal := by
    rw [line]
    exact Summary.add_command_line_misread r.summary c part refusal typed last misread
  rw [take_lawful policy clock e r (command_line_lawful clock e r c line)]
  cases outcome : r.payload clock e.payload with
  | mk next other =>
    rw [outcome] at refused
    cases refused
    rfl

end Run

-- What no policy lets pass.
inductive Halts : Feed.Item → Failure → Prop where
  | fault (fault : Feed.Fault) : Halts (.error fault) (.unfed fault)
  | event (e : Event) (refusal : Refusal) (illegible : e.Illegible refusal) :
      Halts (.ok e) (.refused e.displayId refusal)

def EndsQuietly (events : List Event) : Prop :=
  ∃ m, lastFinished? events = some m ∧ m.Quiet

namespace Session

variable {σ : Type} (w : Watcher σ) (clock : Clock) (origin : Option String)

theorem legible_numbered (events : List Event) (legible : ∀ e ∈ events, e.Legible) :
    Variable.Numbered ((opened w origin).run.after .goOn clock events).summary.envVars := by
  induction events using List.reverseRecOn with
  | nil =>
    obtain ⟨url, files, fresh⟩ := opened_run w origin
    have unset (name : String) : Variable.Readable ((∅ : KeyMap String).get? name) := by
      intro text same
      cases same
    rw [Run.after, List.foldl_nil, fresh]
    exact ⟨unset _, unset _⟩
  | append_singleton events e ih =>
    have earlier := ih fun x member => legible x (List.mem_append_left _ member)
    rw [Run.after_concat]
    exact (Run.take_legible clock e _ earlier (legible e (by simp))).2

theorem legible_decided :
    (opened w origin).run.Decided .goOn clock (fun _ e => e.Legible)
      (fun _ e refusal => e.Illegible refusal) where
  either _ e := e.legible_or_illegible
  taken before e legible last := by
    have numbered := legible_numbered w clock origin before ((at_each_always _ before).1 legible)
    exact (Run.take_legible clock e _ numbered last).1
  refused _ e refusal _ illegible := Run.take_illegible .goOn clock e _ refusal illegible

theorem takes_iff_legible (events : List Event) :
    (opened w origin).Takes .goOn clock events ↔ ∀ e ∈ events, e.Legible :=
  ((legible_decided w clock origin).takes_iff events).trans (at_each_always _ events)

theorem item_fails_iff_halts (before : List Event) (item : Feed.Item) (failure : Failure)
    (legible : ∀ e ∈ before, e.Legible) :
    ((opened w origin).after w .goOn clock before).takeItem w .goOn clock item = .error failure ↔
      Halts item failure := by
  have each := (at_each_always Event.Legible before).2 legible
  rw [(legible_decided w clock origin).item_fails_iff w before item failure each]
  constructor
  · rintro (⟨fault, rfl, rfl⟩ | ⟨e, refusal, rfl, illegible, rfl⟩)
    · exact .fault fault
    · exact .event e refusal illegible
  · intro halts
    cases halts with
    | fault fault => exact .inl ⟨fault, rfl, rfl⟩
    | event e refusal illegible => exact .inr ⟨e, refusal, rfl, illegible, rfl⟩

theorem legible_or_halted (items : List Feed.Item) :
    (∃ events : List Event, items = events.map .ok ∧ ∀ e ∈ events, e.Legible) ∨
      ∃ (before : List Event) (item : Feed.Item) (rest : List Feed.Item) (failure : Failure),
        items = before.map .ok ++ item :: rest ∧ (∀ e ∈ before, e.Legible) ∧ Halts item failure := by
  induction items with
  | nil => exact .inl ⟨[], rfl, fun e member => absurd member List.not_mem_nil⟩
  | cons item rest ih =>
    cases item with
    | error fault => exact .inr ⟨[], .error fault, rest, _, rfl, by simp, .fault fault⟩
    | ok e =>
      rcases e.legible_or_illegible with legible | ⟨refusal, illegible⟩
      · rcases ih with ⟨events, rfl, others⟩ | ⟨before, item, rest, failure, rfl, others, halts⟩
        · exact .inl ⟨e :: events, rfl, List.forall_mem_cons.2 ⟨legible, others⟩⟩
        · exact .inr ⟨e :: before, item, rest, failure, rfl,
            List.forall_mem_cons.2 ⟨legible, others⟩, halts⟩
      · exact .inr ⟨[], .ok e, rest, _, rfl, by simp, .event e refusal illegible⟩

theorem summarize_halted (before : List Event) (item : Feed.Item) (rest : List Feed.Item)
    (failure : Failure) (legible : ∀ e ∈ before, e.Legible) (halts : Halts item failure) :
    (opened w origin).summarize w .goOn clock (before.map .ok ++ item :: rest) =
      .error failure := by
  have takes := (takes_iff_legible w clock origin before).2 legible
  have fails := (item_fails_iff_halts w clock origin before item failure legible).2 halts
  rw [summarize, take_all_stopped w .goOn clock before item rest failure _ takes fails]
  rfl

theorem summarize_legible (signatures : List Pattern) (events : List Event)
    (legible : ∀ e ∈ events, e.Legible) :
    let w := Findings.watcher signatures
    let result := (opened w origin).summarize w .goOn clock (events.map .ok)
    (EndsQuietly events ∨ events.findSome? Event.unlabelledFailure? = none →
      ∃ outcome, result = .ok outcome) ∧
    ∀ unlabelled, ¬EndsQuietly events →
      events.findSome? Event.unlabelledFailure? = some unlabelled →
      result = .error (.unlabelled unlabelled) := by
  intro w result
  have takes := (takes_iff_legible w clock origin events).2 legible
  have summarized := summarize_taken w .goOn clock origin events takes
  have finished := finish_after w .goOn clock origin events
  have quiet := after_suppresses .goOn clock origin events (w := w)
  rw [Findings.first_report, ← summarized] at finished
  refine ⟨fun fine => ?_, fun unlabelled loud found => ?_⟩
  · by_cases quietly : EndsQuietly events
    · exact ⟨_, finished.trans (if_pos (quiet.2 quietly))⟩
    · rw [fine.resolve_left quietly] at finished
      exact ⟨_, finished.trans (if_neg fun suppresses => quietly (quiet.1 suppresses))⟩
  · rw [found] at finished
    exact finished.trans (if_neg fun suppresses => loud (quiet.1 suppresses))

end Session

-- Where the run goes on, legible histories are summarized, unless there is a failure without a
-- label and the build did not end quietly. Of any other feed the first item that halts the run is
-- to blame.
theorem Settings.summarized_iff_legible (settings : Settings) (clock : Clock)
    (origin : Option String) :
    let run (items : List Feed.Item) :=
      (Session.opened settings.watcher origin).summarize settings.watcher .goOn clock items
    (∀ items, (∃ outcome, run items = .ok outcome) ↔
      ∃ events, items = events.map .ok ∧ (∀ e ∈ events, e.Legible) ∧
        (EndsQuietly events ∨ events.findSome? Event.unlabelledFailure? = none)) ∧
    (∀ items failure, run items = .error failure ↔
      (∃ (before : List Event) (item : Feed.Item) (rest : List Feed.Item),
        items = before.map .ok ++ item :: rest ∧ (∀ e ∈ before, e.Legible) ∧
        Halts item failure) ∨
      ∃ events unlabelled, items = events.map .ok ∧ (∀ e ∈ events, e.Legible) ∧
        ¬EndsQuietly events ∧ events.findSome? Event.unlabelledFailure? = some unlabelled ∧
        failure = .unlabelled unlabelled) ∧
    ∀ items failure, run items = .error failure → failure.isViolation = false := by
  intro run
  have halted (before : List Event) (item : Feed.Item) (rest : List Feed.Item) (failure : Failure)
      (legible : ∀ e ∈ before, e.Legible) (halts : Halts item failure) :
      run (before.map .ok ++ item :: rest) = .error failure :=
    Session.summarize_halted settings.watcher clock origin before item rest failure legible halts
  have ended (events : List Event) (legible : ∀ e ∈ events, e.Legible) :=
    Session.summarize_legible clock origin settings.signatures events legible
  refine ⟨fun items => ⟨?_, ?_⟩, fun items failure => ⟨?_, ?_⟩, fun items failure failed =>
    Session.summarize_going_on settings.watcher clock items _ failure failed⟩
  · rintro ⟨outcome, summarized⟩
    rcases Session.legible_or_halted items with
      ⟨events, rfl, legible⟩ | ⟨before, item, rest, failure, rfl, legible, halts⟩
    · refine ⟨events, rfl, legible, or_iff_not_imp_left.2 fun loud => ?_⟩
      cases found : events.findSome? Event.unlabelledFailure? with
      | none => rfl
      | some unlabelled =>
        have failed := (ended events legible).2 unlabelled loud found
        cases summarized.symm.trans failed
    · cases summarized.symm.trans (halted before item rest failure legible halts)
  · rintro ⟨events, rfl, legible, fine⟩
    exact (ended events legible).1 fine
  · intro failed
    rcases Session.legible_or_halted items with
      ⟨events, rfl, legible⟩ | ⟨before, item, rest, cause, rfl, legible, halts⟩
    · have unfinished (fine : EndsQuietly events ∨
          events.findSome? Event.unlabelledFailure? = none) : False := by
        obtain ⟨outcome, summarized⟩ := (ended events legible).1 fine
        cases failed.symm.trans summarized
      cases found : events.findSome? Event.unlabelledFailure? with
      | none => exact (unfinished (.inr found)).elim
      | some unlabelled =>
        have loud : ¬EndsQuietly events := fun quietly => unfinished (.inl quietly)
        cases failed.symm.trans ((ended events legible).2 unlabelled loud found)
        exact .inr ⟨events, unlabelled, rfl, legible, loud, found, rfl⟩
    · cases failed.symm.trans (halted before item rest cause legible halts)
      exact .inl ⟨before, item, rest, rfl, legible, halts⟩
  · rintro (⟨before, item, rest, rfl, legible, halts⟩ |
      ⟨events, unlabelled, rfl, legible, loud, found, rfl⟩)
    · exact halted before item rest failure legible halts
    · exact (ended events legible).2 unlabelled loud found

theorem Settings.unlabelled_failure_forgiven :
    let w := Settings.default.watcher
    let events : List Event :=
      [{ payload := .targetCompleted { label := "", success := false } },
        { lastMessage := true, payload := .buildFinished { exitCode := some { code := 0 } } }]
    events.findSome? Event.unlabelledFailure? = some ⟨.targetCompleted⟩ ∧
      ∃ outcome, (Session.opened w none).summarize w .goOn (fun _ => 0) (events.map .ok) =
        .ok outcome := by
  intro w events
  have legible : ∀ e ∈ events, e.Legible := by
    intro e member c line
    simp only [events, List.mem_cons, List.not_mem_nil, or_false] at member
    rcases member with rfl | rfl <;> cases line
  have quietly : EndsQuietly events := ⟨_, rfl, .inl rfl⟩
  refine ⟨rfl, ?_⟩
  exact ((summarized_iff_legible .default (fun _ => 0) none).1 _).2
    ⟨events, rfl, legible, .inl quietly⟩

end BuildDigest
