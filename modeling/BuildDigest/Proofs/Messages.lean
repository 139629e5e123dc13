import BuildDigest.Proofs.Calendar
import BuildDigest.Proofs.Finish
import BuildDigest.Proofs.Writing

set_option autoImplicit false

namespace BuildDigest

namespace Payload

def started? : Payload → Option Wire.Started
  | .started m => some m
  | _ => none

def metadata? : Payload → Option Wire.Metadata
  | .buildMetadata m => some m
  | _ => none

def metrics? : Payload → Option Wire.Metrics
  | .buildMetrics m => some m
  | _ => none

def configuration? : Payload → Option Wire.Configuration
  | .configuration m => some m
  | _ => none

def fetch? : Payload → Option Wire.Fetch
  | .fetch m => some m
  | _ => none

def optionsParsed? : Payload → Option Wire.OptionsParsed
  | .optionsParsed m => some m
  | _ => none

def toolLogs? : Payload → Option Wire.ToolLogs
  | .buildToolLogs m => some m
  | _ => none

def progress? : Payload → Option Wire.Progress
  | .progress m => some m
  | _ => none

end Payload

namespace Summary

-- A summary without its tables, what a command line says, and the mark of the last message.
def plain (s : Summary) : Summary :=
  { s with
    envVars := ∅
    commandLine := { options := s.commandLine.options }
    changeNumber := none
    patchsetNumber := none
    buildUrl := ""
    buildUuid := none
    targets := ∅
    tests := ∅
    bepCompleted := false }

theorem write_plain (p : Payload) (s : Summary) : (p.write s).plain = p.write s.plain := by
  cases p <;> rfl

@[simp] theorem add_section_plain (s : Summary) (part : Wire.CommandSection) :
    (s.addSection part).plain = s.plain := by
  unfold addSection
  split
  · rfl
  · split
    · rfl
    · split <;> rfl

@[simp] theorem add_sections_plain (parts : List Wire.CommandSection) (s : Summary) :
    (parts.foldl addSection s).plain = s.plain := by
  induction parts generalizing s with
  | nil => rfl
  | cons part rest ih => rw [List.foldl_cons, ih, add_section_plain]

@[simp] theorem add_environment_plain (s : Summary) : s.addEnvironment.1.plain = s.plain := by
  obtain ⟨env, change, patchset, url, uuid, whole⟩ := add_environment_frame s
  rw [whole]
  rfl

@[simp] theorem add_command_line_plain (s : Summary) (c : Wire.CommandLine) :
    (s.addCommandLine c).1.plain = s.plain := by
  unfold addCommandLine
  split
  · rw [add_environment_plain, add_sections_plain]
  · rfl

end Summary

namespace Run

@[simp] theorem payload_plain (clock : Clock) (p : Payload) (r : Run) :
    (r.payload clock p).1.summary.plain = p.write r.summary.plain := by
  cases line : p.commandLine? with
  | none =>
    obtain ⟨targets, tests, written, -⟩ := payload_write clock p r line
    rw [written]
    exact Summary.write_plain p r.summary
  | some c =>
    obtain rfl := Payload.command_line_of_eq_some p c line
    exact Summary.add_command_line_plain r.summary c

@[simp] theorem after_plain (policy : ViolationPolicy) (clock : Clock) (events : List Event) (r : Run) :
    (r.after policy clock events).summary.plain =
      events.foldl (fun s e => e.payload.write s) r.summary.plain := by
  induction events using List.reverseRecOn with
  | nil => rfl
  | append_singleton events e ih =>
    rw [after_concat, take_unmarked (·.summary.plain) policy clock e _ fun _ _ => rfl,
      payload_plain, ih, List.foldl_append]
    rfl

end Run

def messages {α : Type} (message? : Payload → Option α) (events : List Event) : List α :=
  events.filterMap fun e => message? e.payload

@[simp] theorem messages_concat {α : Type} (message? : Payload → Option α) (events : List Event)
    (e : Event) :
    messages message? (events ++ [e]) = messages message? events ++ (message? e.payload).toList := by
  rw [messages, List.filterMap_append, List.filterMap_cons, List.filterMap_nil]
  cases message? e.payload <;> rfl

-- A field is written by the messages of one kind, and by nothing else.
def WrittenBy {α β : Type} (field : Summary → β) (message? : Payload → Option α)
    (writing : β → α → β) : Prop :=
  ∀ p s, field (Payload.write p s) =
    match message? p with
    | some m => writing (field s) m
    | none => field s

section Field

variable {α β : Type} (field : Summary → β) (message? : Payload → Option α)

theorem written_each (writing : β → α → β) (written : WrittenBy field message? writing)
    (events : List Event) (s : Summary) :
    field (events.foldl (fun s e => e.payload.write s) s) =
      (messages message? events).foldl writing (field s) := by
  induction events generalizing s with
  | nil => rfl
  | cons e rest ih =>
    rw [List.foldl_cons, ih, written]
    cases found : message? e.payload with
    | none => simp [messages, found]
    | some m => simp [messages, found]

theorem fold_last (value : α → β) (ms : List α) (start : β) :
    ms.foldl (fun _ m => value m) start = (ms.getLast?.map value).getD start := by
  induction ms generalizing start with
  | nil => rfl
  | cons m rest ih =>
    rw [List.foldl_cons, ih, List.getLast?_cons]
    cases rest.getLast? <;> rfl

theorem Run.after_each (plain : ∀ s, field (Summary.plain s) = field s) (writing : β → α → β)
    (written : WrittenBy field message? writing) (policy : ViolationPolicy) (clock : Clock)
    (events : List Event) (r : Run) :
    field (r.after policy clock events).summary =
      (messages message? events).foldl writing (field r.summary) := by
  rw [← plain, after_plain, written_each field message? writing written, plain]

theorem Run.after_last (plain : ∀ s, field (Summary.plain s) = field s) (value : α → β)
    (written : WrittenBy field message? fun _ m => value m) (policy : ViolationPolicy)
    (clock : Clock) (events : List Event) (r : Run) :
    field (r.after policy clock events).summary =
      ((messages message? events).getLast?.map value).getD (field r.summary) := by
  rw [after_each field message? plain _ written, fold_last]

end Field

theorem fetches_written : WrittenBy (·.numFetches) Payload.fetch? fun n m =>
    n + if m.success then 1 else 0 :=
  fun p _ => by cases p <;> rfl

theorem logs_written : WrittenBy (·.buildLogs) Payload.progress? fun logs m =>
    logs ++ m.stdout ++ m.stderr :=
  fun p _ => by cases p <;> rfl

theorem start_written : WrittenBy (fun s => (s.invocationId, s.bazelVersion, s.startedAt))
    Payload.started? fun _ m =>
      (m.uuid, m.buildToolVersion, m.startTime.or (Timestamp.ofMillis? m.startTimeMillis)) :=
  fun p _ => by cases p <;> rfl

theorem end_written : WrittenBy (fun s => (s.endedAt, s.exitCode)) Payload.finished? fun _ m =>
    (m.finishTime.or (Timestamp.ofMillis? m.finishTimeMillis), some m.leaves) :=
  fun p _ => by cases p <;> rfl

theorem metadata_written : WrittenBy (fun s => (s.stepLabel, s.userEmail, s.userLdap))
    Payload.metadata? fun _ m => ((m.metadata.get? Run.stepLabelKey).getD "",
      (m.metadata.get? Run.userEmailKey).getD "", (m.metadata.get? Run.userLdapKey).getD "") :=
  fun p _ => by cases p <;> rfl

theorem configuration_written : WrittenBy (fun s => (s.cpu, s.platformName, s.configurationMnemonic))
    Payload.configuration? fun _ m => (m.cpu, m.platformName, m.mnemonic) :=
  fun p _ => by cases p <;> rfl

theorem options_written : WrittenBy (·.commandLine.options) Payload.optionsParsed? fun _ m =>
    String.intercalate " " m.explicitCmdLine :=
  fun p _ => by cases p <;> rfl

theorem metrics_written : WrittenBy (·.metrics) Payload.metrics? fun _ m => Summary.Metrics.of m :=
  fun p _ => by cases p <;> rfl

theorem files_written : WrittenBy (·.relatedFiles) Payload.toolLogs? fun files m =>
    (m.log.filter fun f => !f.uri.isEmpty).foldl
      (fun files f => files.insert f.name (Blob.address f.uri)) files :=
  fun p _ => by cases p <;> rfl

theorem source_written : WrittenBy (·.eventFileUrl) (fun _ => (none : Option Unit)) fun url _ => url :=
  fun p _ => by cases p <;> rfl

theorem count_fetches (ms : List Wire.Fetch) (n : Int64) :
    ms.foldl (fun n m => n + if m.success then 1 else 0) n = n + Int64.ofNat (ms.countP (·.success)) := by
  induction ms generalizing n with
  | nil => exact (Int64.add_zero n).symm
  | cons m rest ih =>
    rw [List.foldl_cons, ih, List.countP_cons, Int64.ofNat_add, Int64.add_comm (Int64.ofNat _),
      ← Int64.add_assoc]
    split <;> rfl

theorem join_logs (ms : List Wire.Progress) (logs : String) :
    ms.foldl (fun logs m => logs ++ m.stdout ++ m.stderr) logs =
      logs ++ String.join (ms.flatMap fun m => [m.stdout, m.stderr]) := by
  induction ms generalizing logs with
  | nil => simp
  | cons m rest ih =>
    rw [List.foldl_cons, ih, List.flatMap_cons]
    simp [String.append_assoc]

def logsNamed (name : String) (events : List Event) : List Wire.File :=
  ((messages Payload.toolLogs? events).flatMap (·.log)).filter fun f => f.uri ≠ "" ∧ f.name = name

theorem find_log (name : String) (ms : List Wire.ToolLogs) (files : KeyMap String) :
    (ms.foldl (fun files m => (m.log.filter fun f => !f.uri.isEmpty).foldl
      (fun files f => files.insert f.name (Blob.address f.uri)) files) files).get? name =
      ((((ms.flatMap (·.log)).filter fun f => f.uri ≠ "" ∧ f.name = name).getLast?).map fun f =>
        Text.trim f.uri).or (files.get? name) := by
  have addressed : (fun f : Wire.File => decide (f.name = name) && !f.uri.isEmpty) =
      fun f => decide (f.uri ≠ "" ∧ f.name = name) := by
    funext f
    rw [Bool.eq_iff_iff]
    simp [and_comm]
  rw [← List.foldl_flatMap, KeyMap.get?_insert_each, ← List.filter_flatMap, List.filter_filter,
    addressed]
  rfl

structure Summary.Tells (events : List Event) (s start : Summary) : Prop where
  fetches : s.numFetches = Int64.ofNat ((messages Payload.fetch? events).countP (·.success))
  logs : s.buildLogs =
    String.join ((messages Payload.progress? events).flatMap fun m => [m.stdout, m.stderr])
  started : (s.invocationId, s.bazelVersion, s.startedAt) =
    ((messages Payload.started? events).getLast?.map fun m =>
      (m.uuid, m.buildToolVersion, m.startTime.or (Timestamp.ofMillis? m.startTimeMillis))).getD
        ("", "", none)
  ended : (s.endedAt, s.exitCode) =
    ((messages Payload.finished? events).getLast?.map fun m =>
      (m.finishTime.or (Timestamp.ofMillis? m.finishTimeMillis), some m.leaves)).getD (none, none)
  metadata : (s.stepLabel, s.userEmail, s.userLdap) =
    ((messages Payload.metadata? events).getLast?.map fun m =>
      ((m.metadata.get? Run.stepLabelKey).getD "", (m.metadata.get? Run.userEmailKey).getD "",
        (m.metadata.get? Run.userLdapKey).getD "")).getD ("", "", "")
  configuration : (s.cpu, s.platformName, s.configurationMnemonic) =
    ((messages Payload.configuration? events).getLast?.map fun m =>
      (m.cpu, m.platformName, m.mnemonic)).getD ("", "", "")
  options : s.commandLine.options =
    ((messages Payload.optionsParsed? events).getLast?.map fun m =>
      String.intercalate " " m.explicitCmdLine).getD ""
  metrics : s.metrics = ((messages Payload.metrics? events).getLast?.map Metrics.of).getD {}
  files : ∀ name, s.relatedFiles.get? name =
    ((logsNamed name events).getLast?.map fun f => Text.trim f.uri).or (start.relatedFiles.get? name)
  source : s.eventFileUrl = start.eventFileUrl

theorem Run.after_tells (policy : ViolationPolicy) (clock : Clock) (events : List Event) (r : Run)
    (url : String) (files : KeyMap String)
    (fresh : r = { summary := { eventFileUrl := url, relatedFiles := files } }) :
    (r.after policy clock events).summary.Tells events r.summary := by
  subst fresh
  constructor
  · rw [after_each (·.numFetches) _ (fun _ => rfl) _ fetches_written, count_fetches, Int64.zero_add]
  · rw [after_each (·.buildLogs) _ (fun _ => rfl) _ logs_written, join_logs, String.empty_append]
  · exact after_last _ _ (fun _ => rfl) _ start_written policy clock events _
  · exact after_last _ _ (fun _ => rfl) _ end_written policy clock events _
  · exact after_last _ _ (fun _ => rfl) _ metadata_written policy clock events _
  · exact after_last _ _ (fun _ => rfl) _ configuration_written policy clock events _
  · exact after_last _ _ (fun _ => rfl) _ options_written policy clock events _
  · exact after_last _ _ (fun _ => rfl) _ metrics_written policy clock events _
  · intro name
    rw [after_each (·.relatedFiles) _ (fun _ => rfl) _ files_written]
    exact find_log name _ _
  · have nobody : messages (fun _ => (none : Option Unit)) events = [] :=
      List.filterMap_eq_nil_iff.2 fun _ _ => rfl
    rw [after_each (·.eventFileUrl) _ (fun _ => rfl) _ source_written, nobody]
    rfl

-- Each plain field tells of the messages of its kind: how many there were, what they say in their
-- order, or what the last of them says. A count of milliseconds outside the calendar is no moment.
theorem Session.messages_of_history {σ : Type} (w : Watcher σ) (policy : ViolationPolicy)
    (clock : Clock) (origin : Option String) (events : List Event) (s : Session σ)
    (taken : (opened w origin).takeAll w policy clock (events.map .ok) = .ok s) :
    let fetched := (messages Payload.fetch? events).countP (·.success)
    s.run.summary.Tells events (opened w origin).run.summary ∧
    (fetched < 2 ^ 63 → s.run.summary.numFetches.toInt = fetched) ∧
    (∀ ms, Timestamp.ofMillis? ms = none ↔ ¬Timestamp.InCalendar ms) ∧
    ∀ ms t, Timestamp.ofMillis? ms = some t →
      t.millis = ms.toInt ∧ t.second < 60 ∧ t.nano % 1000000 = 0 := by
  intro fetched
  obtain ⟨-, rfl⟩ := (take_all_events w policy clock events _ s).1 taken
  obtain ⟨url, files, fresh⟩ := opened_run w origin
  have tells := Run.after_tells policy clock events _ url files fresh
  refine ⟨tells, fun few => ?_, Timestamp.of_millis_none, Timestamp.of_millis_millis⟩
  rw [after, tells.fetches, Int64.toInt_ofNat_of_lt few]

theorem Session.messages_of_restart :
    let w := Findings.watcher []
    let events : List Event :=
      [{ payload := .started { uuid := "first", startTimeMillis := 0 } },
        { payload := .progress { stdout := "a", stderr := "b" } },
        { payload := .fetch { success := true } },
        { payload := .started { uuid := "second", startTimeMillis := 8210266876800000 } },
        { payload := .fetch { success := false } },
        { payload := .buildToolLogs { log := [{ name := "log", uri := " x " }, { name := "log" }] } },
        { payload := .progress { stdout := "c" } }]
    ∃ s, (opened w none).takeAll w .goOn (fun _ => 0) (events.map .ok) = .ok s ∧
      s.run.summary.invocationId = "second" ∧ s.run.summary.startedAt = none ∧
      s.run.summary.buildLogs = "abc" ∧ s.run.summary.numFetches = 1 ∧
      s.run.summary.relatedFiles.get? "log" = some "x" := by
  intro w events
  have taken : (opened w none).takeAll w .goOn (fun _ => 0) (events.map .ok) =
      .ok ((opened w none).after w .goOn (fun _ => 0) events) := rfl
  obtain ⟨tells, -, moment, -⟩ := messages_of_history w .goOn (fun _ => 0) none events _ taken
  have late : Timestamp.ofMillis? 8210266876800000 = none :=
    (moment _).2 fun within => absurd within.2 (by decide)
  refine ⟨_, taken, congrArg (·.1) tells.started, ?_, ?_, tells.fetches, ?_⟩
  · exact (congrArg (·.2.2) tells.started).trans late
  · exact tells.logs.trans (by decide)
  · exact (tells.files "log").trans (by decide)

end BuildDigest
