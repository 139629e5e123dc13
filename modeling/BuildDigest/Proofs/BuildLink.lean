import BuildDigest.Proofs.CommitMessage
import BuildDigest.Proofs.Uuids
import Mathlib.Data.Option.Basic

set_option autoImplicit false

namespace BuildDigest

namespace Wire

def CommandSection.variables (part : CommandSection) : List (String × String) :=
  (part.optionList.elim [] (·.option)).filterMap Variable.ofOption?

theorem CommandSection.added (part : CommandSection) (env : KeyMap String) :
    Variable.addSection part env = part.variables.foldl (fun env v => env.insert v.1 v.2) env := by
  unfold Variable.addSection CommandSection.variables
  cases part.optionList <;> rfl

theorem CommandSection.added_get (part : CommandSection) (env : KeyMap String) (name : String) :
    (Variable.addSection part env).get? name =
      ((part.variables.filter (·.1 = name)).getLast?.map (·.2)).or (env.get? name) := by
  rw [part.added]
  exact KeyMap.get?_insert_each Prod.fst Prod.snd part.variables env name

def CommandSection.value? (part : CommandSection) (name : String) : Option String :=
  ((part.variables.filter (·.1 = name)).getLast?.map (·.2)).filter (· ≠ "")

namespace CommandLine

def value? (c : CommandLine) (name : String) : Option String :=
  c.lastOptions?.bind (·.value? name)

def lastValue? (lines : List CommandLine) (name : String) : Option String :=
  (lines.filterMap (·.value? name)).getLast?

theorem section_value (part : CommandSection) (name : String) :
    Variable.value? (Variable.addSection part ∅) name = part.value? name := by
  have nonempty : (fun v : String => !v.isEmpty) = fun v => decide (v ≠ "") := by
    funext v
    by_cases empty : v = "" <;> simp [empty]
  have found := (part.added_get ∅ name).trans (Option.or_none ..)
  rw [Variable.value?, found, nonempty, CommandSection.value?]

@[simp] theorem last_value_concat (lines : List CommandLine) (c : CommandLine) (name : String) :
    lastValue? (lines ++ [c]) name = (c.value? name).or (lastValue? lines name) := by
  unfold lastValue?
  rw [List.filterMap_append]
  cases given : c.value? name <;> simp [given]

theorem environment_value (c : CommandLine) (env : KeyMap String) (name : String) :
    Variable.value? (c.environment env) name =
      if c.lastOptions?.isNone then Variable.value? env name else c.value? name := by
  unfold environment value?
  cases c.lastOptions? with
  | none => rfl
  | some part => exact section_value part name

-- What is found in the environment that was given last has been taken already.
theorem given_value_or (lines : List CommandLine) (name : String) :
    (Variable.value? (given lines) name).or (lastValue? lines name) = lastValue? lines name := by
  induction lines using List.reverseRecOn with
  | nil => rfl
  | append_singleton lines c ih =>
    rw [given_concat, environment_value, last_value_concat]
    cases options : c.lastOptions? with
    | none => simpa [value?, options] using ih
    | some part => simp [← Option.or_assoc]

theorem found_value_or (lines : List CommandLine) (c : CommandLine) (env : KeyMap String)
    (name : String) (kept : env.get? name = (given lines).get? name) :
    (Variable.value? (c.environment env) name).or (lastValue? lines name) =
      lastValue? (lines ++ [c]) name := by
  have same : Variable.value? env name = Variable.value? (given lines) name := by
    rw [Variable.value?, kept, Variable.value?]
  rw [environment_value, last_value_concat, same]
  cases options : c.lastOptions? with
  | none => simpa [value?, options] using given_value_or lines name
  | some part => simp

def withVariables (values : List String) : CommandLine where
  commandLineLabel := Summary.asTypedLabel
  sections := [{
    sectionLabel := Summary.optionsLabel
    optionList := some { option := values.map fun value => {
      optionName := Variable.clientOption
      optionValue := value } } }]

end CommandLine

end Wire

namespace Variable

abbrev Reads : Option String → Option Int64 → Prop :=
  Option.Rel fun text n => Text.Numeral text n.toInt

theorem number_ok (env : KeyMap String) (name : String) (n : Option Int64)
    (read : number? env name = .ok n) : Reads (value? env name) n := by
  unfold number? at read
  cases given : value? env name with
  | none =>
    rw [given] at read
    cases read
    exact .none
  | some text =>
    simp only [given] at read
    cases number : Text.int64 text with
    | error fault =>
      rw [number] at read
      cases read
    | ok n =>
      rw [number] at read
      cases read
      exact .some ((Text.int64_ok text n).1 number)

theorem Reads.or (text before : Option String) (n m : Option Int64) (first : Reads text n)
    (second : Reads before m) : Reads (text.or before) (n.or m) := by
  cases first with
  | none => exact second
  | some reads => exact .some reads

theorem Reads.number (text : String) (n : Option Int64) (m : Int64) (reads : Reads (some text) n)
    (read : Text.int64 text = .ok m) : n = some m := by
  cases reads with
  | some numeral =>
    rw [(Text.int64_ok text _).2 numeral] at read
    exact congrArg some (Except.ok.inj read)

end Variable

namespace Summary

-- The address of the build has an identifier of its own, made of it; without one there is none.
def Linked (s : Summary) : Prop :=
  ∀ u, s.buildUuid = some u ↔ s.buildUrl ≠ "" ∧ Uuid.IsName Uuid.addresses s.buildUrl u

structure Follows (lines : List Wire.CommandLine) (s : Summary) : Prop where
  url : s.buildUrl = (Wire.CommandLine.lastValue? lines Variable.buildUrl).getD ""
  change : Variable.Reads (Wire.CommandLine.lastValue? lines Variable.changeNumber) s.changeNumber
  patchset :
    Variable.Reads (Wire.CommandLine.lastValue? lines Variable.patchsetNumber) s.patchsetNumber

def link (s : Summary) : String × Option Uuid × Option Int64 × Option Int64 :=
  (s.buildUrl, s.buildUuid, s.changeNumber, s.patchsetNumber)

theorem Linked.of_link (s t : Summary) (same : s.link = t.link) (linked : t.Linked) :
    s.Linked := by
  simp only [link, Prod.mk.injEq] at same
  rw [Linked, same.1, same.2.1]
  exact linked

theorem Follows.of_link (lines : List Wire.CommandLine) (s t : Summary) (same : s.link = t.link)
    (follows : t.Follows lines) : s.Follows lines := by
  simp only [link, Prod.mk.injEq] at same
  obtain ⟨url, -, change, patchset⟩ := same
  exact ⟨url ▸ follows.url, change ▸ follows.change, patchset ▸ follows.patchset⟩

theorem write_link (p : Payload) (s : Summary) : (p.write s).link = s.link := by
  cases p <;> rfl

@[simp] theorem add_sections_link (parts : List Wire.CommandSection) (s : Summary) :
    (parts.foldl addSection s).link = s.link := by
  obtain ⟨env, line, whole⟩ := add_sections_frame parts s
  rw [whole]
  rfl

theorem add_build_url_linked (s : Summary) (linked : s.Linked) : s.addBuildUrl.Linked := by
  unfold addBuildUrl Variable.value?
  cases found : (s.envVars.get? Variable.buildUrl).filter fun v => !v.isEmpty with
  | none => exact linked
  | some url =>
    have some : url ≠ "" := by simpa using (Option.filter_eq_some_iff.1 found).2
    intro u
    simp only [Option.some.injEq, and_iff_right some, Uuid.is_name_iff]
    exact eq_comm

theorem decode_commit_message_link (s : Summary) : s.decodeCommitMessage.link = s.link := by
  unfold decodeCommitMessage
  split <;> rfl

theorem add_environment_linked (s : Summary) (linked : s.Linked) : s.addEnvironment.1.Linked := by
  unfold addEnvironment
  split
  · exact linked
  · simp only
    split
    · exact linked
    · refine add_build_url_linked _ (Linked.of_link _ _ (decode_commit_message_link _) ?_)
      exact linked

theorem add_command_line_linked (s : Summary) (c : Wire.CommandLine) (linked : s.Linked) :
    (s.addCommandLine c).1.Linked := by
  unfold addCommandLine
  split
  · exact add_environment_linked _ (Linked.of_link _ _ (add_sections_link _ s) linked)
  · exact linked

theorem add_build_url_value (s : Summary) :
    s.addBuildUrl.buildUrl = (Variable.value? s.envVars Variable.buildUrl).getD s.buildUrl ∧
      s.addBuildUrl.changeNumber = s.changeNumber ∧
      s.addBuildUrl.patchsetNumber = s.patchsetNumber := by
  unfold addBuildUrl
  cases Variable.value? s.envVars Variable.buildUrl <;> exact ⟨rfl, rfl, rfl⟩

theorem decode_commit_message_value (s : Summary) (name : String)
    (other : name ≠ Variable.commitMessage) :
    Variable.value? s.decodeCommitMessage.envVars name = Variable.value? s.envVars name := by
  rw [decode_commit_message_env, Variable.value?, Variable.decode_message_get, if_neg other,
    Variable.value?]

structure Brings (env : KeyMap String) (s next : Summary) : Prop where
  url : next.buildUrl = (Variable.value? env Variable.buildUrl).getD s.buildUrl
  change : ∃ n, Variable.Reads (Variable.value? env Variable.changeNumber) n ∧
    next.changeNumber = n.or s.changeNumber
  patchset : ∃ n, Variable.Reads (Variable.value? env Variable.patchsetNumber) n ∧
    next.patchsetNumber = n.or s.patchsetNumber

theorem add_environment_brings (s : Summary) (taken : s.addEnvironment.2 = none) :
    Brings s.envVars s s.addEnvironment.1 := by
  obtain ⟨n, m, change, patchset, whole⟩ := add_environment_taken s taken
  rw [whole]
  let t := { s with
    changeNumber := n.or s.changeNumber
    patchsetNumber := m.or s.patchsetNumber }
  have link := decode_commit_message_link t
  simp only [Summary.link, Prod.mk.injEq] at link
  obtain ⟨sameUrl, -, sameChange, samePatchset⟩ := link
  obtain ⟨url, keptChange, keptPatchset⟩ := add_build_url_value t.decodeCommitMessage
  have value := decode_commit_message_value t Variable.buildUrl (by decide)
  exact {
    url := by rw [url, value, sameUrl]
    change := ⟨n, Variable.number_ok _ _ n change, keptChange.trans sameChange⟩
    patchset := ⟨m, Variable.number_ok _ _ m patchset, keptPatchset.trans samePatchset⟩ }

theorem Brings.of_link (env : KeyMap String) (s t next : Summary) (same : s.link = t.link)
    (brings : Brings env s next) : Brings env t next := by
  simp only [link, Prod.mk.injEq] at same
  obtain ⟨url, -, change, patchset⟩ := same
  exact ⟨url ▸ brings.url, change ▸ brings.change, patchset ▸ brings.patchset⟩

theorem Follows.concat (lines : List Wire.CommandLine) (c : Wire.CommandLine) (s next : Summary)
    (follows : s.Follows lines)
    (kept : ∀ name, name ≠ Variable.commitMessage →
      s.envVars.get? name = (Wire.CommandLine.given lines).get? name)
    (brings : Brings (c.environment s.envVars) s next) : next.Follows (lines ++ [c]) := by
  obtain ⟨change, changeReads, changeBrought⟩ := brings.change
  obtain ⟨patchset, patchsetReads, patchsetBrought⟩ := brings.patchset
  have found (name : String) (other : name ≠ Variable.commitMessage) :=
    Wire.CommandLine.found_value_or lines c s.envVars name (kept name other)
  constructor
  · rw [brings.url, follows.url, ← found Variable.buildUrl (by decide)]
    cases Variable.value? (c.environment s.envVars) Variable.buildUrl <;> rfl
  · rw [changeBrought, ← found Variable.changeNumber (by decide)]
    exact .or _ _ _ _ changeReads follows.change
  · rw [patchsetBrought, ← found Variable.patchsetNumber (by decide)]
    exact .or _ _ _ _ patchsetReads follows.patchset

end Summary

namespace Run

@[simp] theorem take_link (policy : ViolationPolicy) (clock : Clock) (e : Event) (r : Run) :
    (r.take policy clock e).1.summary.link =
      match e.payload.typed? with
      | none => r.summary.link
      | some c => (r.summary.addCommandLine c).1.link := by
  rw [take_unmarked (·.summary.link) policy clock e r fun _ _ => rfl]
  cases typed : e.payload.typed? with
  | some c =>
    rw [((Payload.typed_iff _ c).1 typed).1]
    rfl
  | none =>
    cases line : e.payload.commandLine? with
    | none =>
      obtain ⟨targets, tests, written, -⟩ := payload_write clock e.payload r line
      rw [written]
      exact Summary.write_link e.payload r.summary
    | some c =>
      have same := Payload.command_line_of_eq_some e.payload c line
      have ignored := Payload.ignored_label _ c same typed
      rw [same]
      simp only [payload, commandLine, Summary.addCommandLine, if_neg ignored]

theorem after_linked (policy : ViolationPolicy) (clock : Clock) (events : List Event) (r : Run)
    (linked : r.summary.Linked) : (r.after policy clock events).summary.Linked := by
  induction events using List.reverseRecOn with
  | nil => exact linked
  | append_singleton events e ih =>
    rw [after_concat]
    have link := take_link policy clock e (r.after policy clock events)
    cases typed : e.payload.typed? with
    | none =>
      rw [typed] at link
      exact .of_link _ _ link ih
    | some c =>
      rw [typed] at link
      exact .of_link _ _ link (Summary.add_command_line_linked _ c ih)

theorem take_brings (policy : ViolationPolicy) (clock : Clock) (e : Event) (r : Run)
    (c : Wire.CommandLine) (typed : e.payload.typed? = some c)
    (taken : (r.take policy clock e).2 = none) :
    Summary.Brings (c.environment r.summary.envVars) r.summary (r.summary.addCommandLine c).1 := by
  have accepted := take_typed policy clock e r c typed taken
  have whole : r.summary.addCommandLine c =
      (c.sections.foldl Summary.addSection r.summary).addEnvironment :=
    if_pos ((Payload.typed_iff _ c).1 typed).2
  have env : (c.sections.foldl Summary.addSection r.summary).envVars =
      c.environment r.summary.envVars := Summary.add_sections_env c.sections r.summary
  rw [whole] at accepted ⊢
  rw [← env]
  exact .of_link _ _ _ _ (Summary.add_sections_link c.sections r.summary)
    (Summary.add_environment_brings _ accepted)

end Run

namespace Session

variable {σ : Type} (w : Watcher σ) (policy : ViolationPolicy) (clock : Clock)
  (origin : Option String)

open Wire.CommandLine

theorem follows_of_history (events : List Event)
    (takes : (opened w origin).Takes policy clock events) :
    ((opened w origin).run.after policy clock events).summary.Follows
      (messages Payload.typed? events) := by
  induction events using List.reverseRecOn with
  | nil =>
    obtain ⟨url, files, fresh⟩ := opened_run w origin
    rw [Run.after, List.foldl_nil, fresh]
    exact ⟨rfl, .none, .none⟩
  | append_singleton events e ih =>
    obtain ⟨earlier, last⟩ := (takes_concat policy clock events e _).1 takes
    rw [Run.after_concat]
    have link := Run.take_link policy clock e ((opened w origin).run.after policy clock events)
    rw [messages_concat]
    cases typed : e.payload.typed? with
    | none =>
      rw [typed] at link
      rw [Option.toList_none, List.append_nil]
      exact .of_link _ _ _ link (ih earlier)
    | some c =>
      rw [typed] at link
      rw [Option.toList_some]
      refine .of_link _ _ _ link (.concat _ c _ _ (ih earlier) (fun name other => ?_)
        (Run.take_brings policy clock e _ c typed last))
      rw [env_of_history w policy clock origin events earlier, Variable.decode_message_again_get,
        if_neg other]

-- In every state the identifier of the build is that of its address, and behind what was taken the
-- last values count that command lines as the user typed them give.
theorem build_link_of_history :
    (∀ events, ((opened w origin).run.after policy clock events).summary.Linked) ∧
    ∀ events s, (opened w origin).takeAll w policy clock (events.map .ok) = .ok s →
      s.run.summary.Follows (messages Payload.typed? events) := by
  constructor
  · intro events
    refine Run.after_linked policy clock events _ ?_
    obtain ⟨url, files, fresh⟩ := opened_run w origin
    rw [fresh]
    exact fun u => ⟨nofun, fun given => absurd rfl given.1⟩
  · intro events s taken
    obtain ⟨takes, rfl⟩ := (take_all_events w policy clock events _ s).1 taken
    exact follows_of_history w policy clock origin events takes

theorem build_link_kept :
    let w := Findings.watcher []
    let address := "https://ci.example.com/job/42/"
    let lines := [withVariables ["BUILD_URL=" ++ address, "GERRIT_CHANGE_NUMBER=+7"],
      withoutOptions, withVariables ["BUILD_URL=", "GERRIT_PATCHSET_NUMBER=3"]]
    let events : List Event := lines.map fun c => { payload := .structuredCommandLine c }
    ∃ s, (opened w none).takeAll w .abort (fun _ => 0) (events.map .ok) = .ok s ∧
      s.run.summary.buildUrl = address ∧
      s.run.summary.buildUuid = some (Uuid.ofAddress address) ∧
      s.run.summary.changeNumber = some 7 := by
  intro w address lines events
  have accepted : ((opened w none).takeAll w .abort (fun _ => 0) (events.map .ok)).isOk := by
    decide +kernel
  cases taken : (opened w none).takeAll w .abort (fun _ => 0) (events.map .ok) with
  | error failure =>
    rw [taken] at accepted
    cases accepted
  | ok s =>
    obtain ⟨linked, follows⟩ := build_link_of_history w .abort (fun _ => 0) none
    obtain ⟨-, rfl⟩ := (take_all_events w .abort (fun _ => 0) events _ s).1 taken
    obtain ⟨url, change, -⟩ := follows events _ taken
    have lastAddress : lastValue? (messages Payload.typed? events) Variable.buildUrl =
        some address := by
      decide +kernel
    have lastChange : lastValue? (messages Payload.typed? events) Variable.changeNumber =
        some "+7" := by
      decide +kernel
    rw [lastAddress, Option.getD_some] at url
    rw [lastChange] at change
    refine ⟨_, rfl, url, (linked events _).2 ?_, ?_⟩
    · exact ⟨fun empty => absurd (url.symm.trans empty) (by decide),
        (Uuid.is_name_iff _ _ _).2 (congrArg Uuid.ofAddress url.symm)⟩
    · exact Variable.Reads.number "+7" _ 7 change (by decide +kernel)

end Session

end BuildDigest
