import BuildDigest.Proofs.Base64
import BuildDigest.Proofs.Legibility
import BuildDigest.Proofs.Messages
import Mathlib.Logic.Function.Iterate

set_option autoImplicit false

namespace BuildDigest

namespace Variable

-- What a value means: the text that it encodes, or itself if it encodes none.
inductive Means (value : String) : String → Prop where
  | encoded (text : String) (encodes : Text.Base64.encode (Hash.utf8 text) = value.toList) :
      Means value text
  | itself (none : ∀ text, Text.Base64.encode (Hash.utf8 text) ≠ value.toList) : Means value value

theorem decoded_text (value : String) :
    decoded value = (Text.Base64.decodeText? value).getD value := by
  by_cases empty : value = ""
  · subst empty
    rfl
  · exact if_neg (not_isEmpty value empty)

theorem means_iff (value text : String) : Means value text ↔ decoded value = text := by
  rw [decoded_text]
  constructor
  · intro means
    cases means with
    | encoded _ encodes => rw [(Text.Base64.decode_text_iff value text).2 encodes, Option.getD_some]
    | itself none =>
      cases read : Text.Base64.decodeText? value with
      | none => rfl
      | some text => exact absurd ((Text.Base64.decode_text_iff value text).1 read) (none text)
  · rintro rfl
    cases read : Text.Base64.decodeText? value with
    | none =>
      refine .itself fun text encodes => ?_
      rw [(Text.Base64.decode_text_iff value text).2 encodes] at read
      cases read
    | some text => exact .encoded text ((Text.Base64.decode_text_iff value text).1 read)

theorem decoded_same_or_shorter (value : String) :
    decoded value = value ∨ (decoded value).length < value.length := by
  rw [decoded_text]
  by_cases empty : value = ""
  · subst empty
    exact .inl rfl
  · cases read : Text.Base64.decodeText? value with
    | none => exact .inl rfl
    | some text => exact .inr (Text.Base64.decode_text_shorter value text empty read)

theorem decoded_again_length (n : Nat) (text : String) :
    (decoded^[n] text).length ≤ text.length := by
  induction n with
  | zero => exact Nat.le_refl _
  | succ n ih =>
    rw [Function.iterate_succ_apply']
    rcases decoded_same_or_shorter (decoded^[n] text) with same | shorter
    · rw [same]
      exact ih
    · omega

-- Decoding again and again never comes back to a text that it has left.
theorem decoded_again_iff (n : Nat) (text : String) :
    decoded^[n] text = text ↔ n = 0 ∨ Means text text := by
  rw [means_iff]
  constructor
  · intro back
    cases n with
    | zero => exact .inl rfl
    | succ n =>
      refine .inr ((decoded_same_or_shorter text).resolve_right fun shorter => ?_)
      have length := decoded_again_length n (decoded text)
      rw [← Function.iterate_succ_apply, back] at length
      omega
  · rintro (rfl | fixed)
    · rfl
    · exact Function.iterate_fixed fixed n

theorem decode_message_again_get (n : Nat) (env : KeyMap String) (name : String) :
    (decodeMessage^[n] env).get? name =
      if name = commitMessage then (env.get? name).map decoded^[n] else env.get? name := by
  induction n with
  | zero => simp
  | succ n ih =>
    rw [Function.iterate_succ_apply', decode_message_get, ih]
    split
    · rw [Option.map_map, Function.iterate_succ']
    · rfl

theorem decode_message_same_iff (env : KeyMap String) :
    decodeMessage env = env ↔ ∀ message, env.get? commitMessage = some message →
      Means message message := by
  constructor
  · intro same message found
    have again := decode_message_get env commitMessage
    rw [same, if_pos rfl, found] at again
    exact (means_iff message message).2 (Option.some.inj again).symm
  · intro fixed
    refine KeyMap.ext_get fun name => ?_
    rw [decode_message_get]
    split
    · next same =>
      subst same
      cases found : env.get? commitMessage with
      | none => rfl
      | some message => exact congrArg some ((means_iff message message).1 (fixed message found))
    · rfl

end Variable

namespace Payload

def typed? (p : Payload) : Option Wire.CommandLine :=
  p.commandLine?.filter fun c => c.commandLineLabel = Summary.asTypedLabel

theorem typed_iff (p : Payload) (c : Wire.CommandLine) :
    p.typed? = some c ↔
      p = .structuredCommandLine c ∧ c.commandLineLabel = Summary.asTypedLabel := by
  rw [typed?, Option.filter_eq_some_iff, decide_eq_true_iff]
  refine and_congr_left fun _ => ⟨command_line_of_eq_some p c, ?_⟩
  rintro rfl
  rfl

theorem ignored_label (p : Payload) (c : Wire.CommandLine) (line : p = .structuredCommandLine c)
    (ignored : p.typed? = none) : c.commandLineLabel ≠ Summary.asTypedLabel :=
  fun label => nomatch ignored.symm.trans ((typed_iff p c).2 ⟨line, label⟩)

end Payload

namespace Run

theorem payload_env_other (clock : Clock) (p : Payload) (r : Run) (other : p.typed? = none) :
    (r.payload clock p).1.summary.envVars = r.summary.envVars := by
  cases line : p.commandLine? with
  | none => exact (payload_environment clock p r line).1
  | some c =>
    obtain rfl := Payload.command_line_of_eq_some p c line
    have ignored := Payload.ignored_label _ c rfl other
    simp only [payload, commandLine, Summary.addCommandLine, if_neg ignored]

theorem take_of_payload (policy : ViolationPolicy) (clock : Clock) (e : Event) (r : Run)
    (fine : (r.payload clock e.payload).2 = none) : (r.take policy clock e).2 = none := by
  unfold take
  cases outcome : r.payload clock e.payload with
  | mk next refusal =>
    rw [outcome] at fine
    cases fine
    rfl

theorem take_typed (policy : ViolationPolicy) (clock : Clock) (e : Event) (r : Run)
    (c : Wire.CommandLine) (typed : e.payload.typed? = some c)
    (taken : (r.take policy clock e).2 = none) : (r.summary.addCommandLine c).2 = none := by
  have line := ((Payload.typed_iff _ c).1 typed).1
  rw [take_lawful policy clock e r (command_line_lawful clock e r c line), line] at taken
  simp only [payload, commandLine] at taken
  cases refusal : (r.summary.addCommandLine c).2 with
  | none => rfl
  | some refusal =>
    rw [refusal] at taken
    cases taken

-- Of the events that are taken, the command lines as the user typed them change the environment.
theorem take_env (policy : ViolationPolicy) (clock : Clock) (e : Event) (r : Run)
    (taken : (r.take policy clock e).2 = none) :
    (r.take policy clock e).1.summary.envVars =
      match e.payload.typed? with
      | none => r.summary.envVars
      | some c => Variable.decodeMessage (c.environment r.summary.envVars) := by
  rw [take_unmarked (·.summary.envVars) policy clock e r fun _ _ => rfl]
  cases typed : e.payload.typed? with
  | none => exact payload_env_other clock e.payload r typed
  | some c =>
    obtain ⟨line, label⟩ := (Payload.typed_iff _ c).1 typed
    obtain ⟨full, whole, env⟩ := Summary.add_command_line_typed r.summary c label
    have accepted := take_typed policy clock e r c typed taken
    rw [whole] at accepted
    rw [line]
    simp only [payload, commandLine, whole]
    rw [Summary.add_environment_env full accepted, env]

end Run

namespace Wire.CommandLine

def given (lines : List CommandLine) : KeyMap String :=
  match (lines.filterMap (·.lastOptions?)).getLast? with
  | none => ∅
  | some part => Variable.addSection part ∅

-- How many command lines without a section for options come behind the last one with such a section.
def repeats (lines : List CommandLine) : Nat :=
  (lines.reverse.takeWhile (·.lastOptions?.isNone)).length

@[simp] theorem given_concat (lines : List CommandLine) (c : CommandLine) :
    given (lines ++ [c]) = c.environment (given lines) := by
  unfold given environment
  rw [List.filterMap_append]
  cases options : c.lastOptions? <;> simp [options]

@[simp] theorem repeats_concat (lines : List CommandLine) (c : CommandLine) :
    repeats (lines ++ [c]) = if c.lastOptions?.isNone then repeats lines + 1 else 0 := by
  rw [repeats, List.reverse_append, List.reverse_singleton, List.singleton_append,
    List.takeWhile_cons]
  split <;> rfl

def withMessage (value : String) : CommandLine where
  commandLineLabel := Summary.asTypedLabel
  sections := [{
    sectionLabel := Summary.optionsLabel
    optionList := some { option := [{
      optionName := Variable.clientOption
      optionValue := Variable.commitMessage ++ "=" ++ value }] } }]

def withoutOptions : CommandLine where
  commandLineLabel := Summary.asTypedLabel

end Wire.CommandLine

namespace Session

variable {σ : Type} (w : Watcher σ) (policy : ViolationPolicy) (clock : Clock)
  (origin : Option String)

open Wire.CommandLine

-- The message is decoded once where the section comes, and once more for each line without one.
theorem env_of_history (events : List Event) (takes : (opened w origin).Takes policy clock events) :
    ((opened w origin).run.after policy clock events).summary.envVars =
      Variable.decodeMessage^[repeats (messages Payload.typed? events) + 1]
        (given (messages Payload.typed? events)) := by
  induction events using List.reverseRecOn with
  | nil =>
    obtain ⟨url, files, fresh⟩ := opened_run w origin
    rw [Run.after, List.foldl_nil, fresh]
    rfl
  | append_singleton events e ih =>
    obtain ⟨earlier, last⟩ := (takes_concat policy clock events e _).1 takes
    rw [Run.after_concat, Run.take_env policy clock e _ last, ih earlier]
    rw [messages_concat]
    cases typed : e.payload.typed? with
    | none => rw [Option.toList_none, List.append_nil]
    | some c =>
      rw [Option.toList_some, given_concat, repeats_concat]
      cases options : c.lastOptions? with
      | none =>
        simp only [environment, options, Option.isNone_none, if_true]
        exact (Function.iterate_succ_apply' _ _ _).symm
      | some part => simp [environment, options]

theorem taken_numbered (events : List Event) (takes : (opened w origin).Takes policy clock events) :
    Variable.Numbered ((opened w origin).run.after policy clock events).summary.envVars := by
  cases policy with
  | abort =>
    have orderly := (takes_iff_orderly w clock origin events).1 takes
    exact (orderly_knows w clock origin events orderly).numbered
  | goOn =>
    have legible := (takes_iff_legible w clock origin events).1 takes
    exact legible_numbered w clock origin events legible

theorem take_without_options (events : List Event)
    (takes : (opened w origin).Takes policy clock events) (e : Event) (c : Wire.CommandLine)
    (typed : e.payload.typed? = some c) (options : c.lastOptions? = none) :
    let r := (opened w origin).run.after policy clock events
    (r.take policy clock e).2 = none ∧
      (r.take policy clock e).1.summary.envVars = Variable.decodeMessage r.summary.envVars := by
  intro r
  have numbered := taken_numbered w policy clock origin events takes
  have sound : c.Sound := fun _ part found => nomatch options.symm.trans found
  have accepted := (Summary.add_command_line_sound r.summary c numbered sound).1
  have fine : (r.payload clock e.payload).2 = none := by
    rw [((Payload.typed_iff _ c).1 typed).1]
    exact accepted
  have taken := Run.take_of_payload policy clock e r fine
  have env := Run.take_env policy clock e r taken
  simp only [typed, Wire.CommandLine.environment, options] at env
  exact ⟨taken, env⟩

-- The message is what the value in the last section for options means, decoded again for each line
-- without such a section behind it.
theorem commit_message_of_history (events : List Event) (s : Session σ)
    (taken : (opened w origin).takeAll w policy clock (events.map .ok) = .ok s) :
    let lines := messages Payload.typed? events
    let env := s.run.summary.envVars
    (∀ name, name ≠ Variable.commitMessage → env.get? name = (given lines).get? name) ∧
    ((given lines).get? Variable.commitMessage = none → env.get? Variable.commitMessage = none) ∧
    (∀ raw text, (given lines).get? Variable.commitMessage = some raw → Variable.Means raw text →
      env.get? Variable.commitMessage = some (Variable.decoded^[repeats lines] text) ∧
      (env.get? Variable.commitMessage = some text ↔
        repeats lines = 0 ∨ Variable.Means text text)) ∧
    ∀ e c, e.payload.typed? = some c → c.lastOptions? = none →
      let next := s.run.take policy clock e
      next.2 = none ∧ (next.1.summary.envVars = env ↔
        ∀ message, env.get? Variable.commitMessage = some message →
          Variable.Means message message) := by
  intro lines env
  obtain ⟨takes, rfl⟩ := (take_all_events w policy clock events _ s).1 taken
  have found (name : String) : env.get? name =
      if name = Variable.commitMessage then
        ((given lines).get? name).map Variable.decoded^[repeats lines + 1]
      else (given lines).get? name := by
    rw [← Variable.decode_message_again_get, ← env_of_history w policy clock origin events takes]
    rfl
  refine ⟨fun name other => ?_, fun absent => ?_, fun raw text given means => ?_,
    fun e c typed options => ?_⟩
  · rw [found, if_neg other]
  · rw [found, if_pos rfl, absent, Option.map_none]
  · have message : env.get? Variable.commitMessage =
        some (Variable.decoded^[repeats lines] text) := by
      rw [found, if_pos rfl, given, Option.map_some, Function.iterate_succ_apply,
        (Variable.means_iff raw text).1 means]
    refine ⟨message, ?_⟩
    rw [message, Option.some.injEq]
    exact Variable.decoded_again_iff (repeats lines) text
  · obtain ⟨next, again⟩ := take_without_options w policy clock origin events takes e c typed options
    refine ⟨next, ?_⟩
    rw [← Variable.decode_message_same_iff]
    exact ⟨fun same => again.symm.trans same, fun same => again.trans same⟩

theorem commit_message_kept :
    let w := Findings.watcher []
    let lines := [withMessage "Rml4IHRoZSBmbGFreSB0ZXN0", withoutOptions]
    let events : List Event := lines.map fun c => { payload := .structuredCommandLine c }
    ∃ s, (opened w none).takeAll w .abort (fun _ => 0) (events.map .ok) = .ok s ∧
      s.run.summary.envVars.get? Variable.commitMessage = some "Fix the flaky test" := by
  intro w lines events
  have taken : (opened w none).takeAll w .abort (fun _ => 0) (events.map .ok) =
      .ok ((opened w none).after w .abort (fun _ => 0) events) := rfl
  obtain ⟨-, -, message, -⟩ := commit_message_of_history w .abort (fun _ => 0) none events _ taken
  have raw : (given (messages Payload.typed? events)).get? Variable.commitMessage =
      some "Rml4IHRoZSBmbGFreSB0ZXN0" := by
    decide +kernel
  have means : Variable.Means "Rml4IHRoZSBmbGFreSB0ZXN0" "Fix the flaky test" :=
    (Variable.means_iff _ _).2 (by decide +kernel)
  have plain : Variable.Means "Fix the flaky test" "Fix the flaky test" :=
    (Variable.means_iff _ _).2 (by decide +kernel)
  exact ⟨_, taken, (message _ _ raw means).2.2 (.inr plain)⟩

theorem commit_message_decoded_twice :
    let w := Findings.watcher []
    let lines := [withMessage "WVE9PQ==", withoutOptions]
    let events : List Event := lines.map fun c => { payload := .structuredCommandLine c }
    (given lines).get? Variable.commitMessage = some "WVE9PQ==" ∧
      Variable.Means "WVE9PQ==" "YQ==" ∧
      ∃ s, (opened w none).takeAll w .abort (fun _ => 0) (events.map .ok) = .ok s ∧
        s.run.summary.envVars.get? Variable.commitMessage = some "a" := by
  intro w lines events
  have taken : (opened w none).takeAll w .abort (fun _ => 0) (events.map .ok) =
      .ok ((opened w none).after w .abort (fun _ => 0) events) := rfl
  have means : Variable.Means "WVE9PQ==" "YQ==" := (Variable.means_iff _ _).2 (by decide +kernel)
  exact ⟨by decide +kernel, means, _, taken, by decide +kernel⟩

end Session

end BuildDigest
