import BuildDigest.Proofs.Numeral
import BuildDigest.Run
import Mathlib.Data.List.Induction

set_option autoImplicit false

namespace BuildDigest

namespace Summary

theorem add_section_frame (s : Summary) (part : Wire.CommandSection) :
    ∃ env line, s.addSection part = { s with envVars := env, commandLine := line } := by
  unfold addSection
  split
  · exact ⟨_, s.commandLine, rfl⟩
  · cases part.chunkList with
    | none => exact ⟨s.envVars, s.commandLine, rfl⟩
    | some chunks =>
      simp only
      split
      · exact ⟨s.envVars, _, rfl⟩
      · exact ⟨s.envVars, _, rfl⟩
      · exact ⟨s.envVars, _, rfl⟩
      · exact ⟨s.envVars, s.commandLine, rfl⟩

theorem add_sections_frame (parts : List Wire.CommandSection) (s : Summary) :
    ∃ env line, parts.foldl addSection s = { s with envVars := env, commandLine := line } := by
  induction parts generalizing s with
  | nil => exact ⟨s.envVars, s.commandLine, rfl⟩
  | cons part rest ih =>
    obtain ⟨env, line, first⟩ := add_section_frame s part
    obtain ⟨lastEnv, lastLine, whole⟩ := ih (s.addSection part)
    exact ⟨lastEnv, lastLine, by rw [List.foldl_cons, whole, first]⟩

theorem add_environment_frame (s : Summary) :
    ∃ env change patchset url uuid, s.addEnvironment.1 =
      { s with
        envVars := env
        changeNumber := change
        patchsetNumber := patchset
        buildUrl := url
        buildUuid := uuid } := by
  unfold addEnvironment
  cases Variable.number? s.envVars Variable.changeNumber with
  | error refusal => exact ⟨_, _, _, _, _, rfl⟩
  | ok change =>
    simp only
    cases Variable.number? s.envVars Variable.patchsetNumber with
    | error refusal => exact ⟨s.envVars, _, s.patchsetNumber, s.buildUrl, s.buildUuid, rfl⟩
    | ok patchset =>
      simp only [decodeCommitMessage]
      split <;> (simp only [addBuildUrl]; split <;> exact ⟨_, _, _, _, _, rfl⟩)

theorem add_command_line_frame (s : Summary) (c : Wire.CommandLine) :
    ∃ env line change patchset url uuid, (s.addCommandLine c).1 =
      { s with
        envVars := env
        commandLine := line
        changeNumber := change
        patchsetNumber := patchset
        buildUrl := url
        buildUuid := uuid } := by
  unfold addCommandLine
  split
  · obtain ⟨env, line, sections⟩ := add_sections_frame c.sections s
    obtain ⟨lastEnv, change, patchset, url, uuid, whole⟩ :=
      add_environment_frame (c.sections.foldl addSection s)
    exact ⟨lastEnv, line, change, patchset, url, uuid, by rw [whole, sections]⟩
  · exact ⟨_, _, _, _, _, _, rfl⟩

end Summary

namespace Variable

-- The value of a variable is none, empty, or a decimal integer of 64 bits.
def Readable (value : Option String) : Prop :=
  ∀ text, value = some text → text = "" ∨ ∃ n : Int64, Text.Numeral text n.toInt

structure Numbered (env : KeyMap String) : Prop where
  change : Readable (env.get? changeNumber)
  patchset : Readable (env.get? patchsetNumber)

structure Unreadable (env : KeyMap String) (name value : String) (fault : Text.NumberFault) :
    Prop where
  found : env.get? name = some value
  some : value ≠ ""
  fault : Text.int64 value = .error fault

-- Why an environment is refused: the change number is looked at first.
inductive Misread (env : KeyMap String) : Refusal → Prop where
  | change (value : String) (fault : Text.NumberFault)
      (unreadable : Unreadable env changeNumber value fault) :
      Misread env (.notNumber changeNumber value fault)
  | patchset (value : String) (fault : Text.NumberFault)
      (first : Readable (env.get? changeNumber))
      (unreadable : Unreadable env patchsetNumber value fault) :
      Misread env (.notNumber patchsetNumber value fault)

theorem number_readable (env : KeyMap String) (name : String)
    (readable : Readable (env.get? name)) : ∃ n, number? env name = .ok n := by
  rw [number?, value?]
  cases found : env.get? name with
  | none => exact ⟨none, rfl⟩
  | some value =>
    by_cases empty : value = ""
    · rw [empty]
      exact ⟨none, rfl⟩
    · obtain ⟨n, numeral⟩ := (readable value found).resolve_left empty
      have given : (some value).filter (fun v => !v.isEmpty) = some value := by
        simp [empty]
      rw [given]
      simp only [(Text.int64_ok value n).2 numeral]
      exact ⟨some n, rfl⟩

theorem number_unreadable (env : KeyMap String) (name value : String) (fault : Text.NumberFault)
    (unreadable : Unreadable env name value fault) :
    number? env name = .error (.notNumber name value fault) := by
  have given : (some value).filter (fun v => !v.isEmpty) = some value := by
    simp [unreadable.some]
  rw [number?, value?, unreadable.found, given]
  simp only [unreadable.fault]

theorem readable_or_not (env : KeyMap String) (name : String) :
    Readable (env.get? name) ∨ ∃ value fault, Unreadable env name value fault := by
  cases found : env.get? name with
  | none => exact .inl nofun
  | some value =>
    by_cases empty : value = ""
    · refine .inl fun text same => .inl ?_
      cases same
      exact empty
    · cases read : Text.int64 value with
      | ok n =>
        refine .inl fun text same => .inr ⟨n, ?_⟩
        cases same
        exact (Text.int64_ok value n).1 read
      | error fault => exact .inr ⟨value, fault, found, empty, read⟩

theorem numbered_or_misread (env : KeyMap String) :
    Numbered env ∨ ∃ refusal, Misread env refusal := by
  rcases readable_or_not env changeNumber with change | ⟨value, fault, unreadable⟩
  · rcases readable_or_not env patchsetNumber with patchset | ⟨value, fault, unreadable⟩
    · exact .inl ⟨change, patchset⟩
    · exact .inr ⟨_, .patchset value fault change unreadable⟩
  · exact .inr ⟨_, .change value fault unreadable⟩

def decodeMessage (env : KeyMap String) : KeyMap String :=
  match env.get? commitMessage with
  | none => env
  | some message => env.insert commitMessage (decoded message)

theorem decode_message_get (env : KeyMap String) (name : String) :
    (decodeMessage env).get? name =
      if name = commitMessage then (env.get? name).map decoded else env.get? name := by
  unfold decodeMessage
  by_cases same : name = commitMessage
  · subst same
    rw [if_pos rfl]
    cases found : env.get? commitMessage with
    | none => exact found
    | some message => exact (KeyMap.get?_insert _ _ _ _).trans (if_pos rfl)
  · rw [if_neg same]
    split
    · rfl
    · exact (KeyMap.get?_insert _ _ _ _).trans (if_neg same)

end Variable

namespace Summary

theorem add_environment_numbered (s : Summary) (numbered : Variable.Numbered s.envVars) :
    s.addEnvironment.2 = none := by
  obtain ⟨change, changeRead⟩ := Variable.number_readable _ _ numbered.change
  obtain ⟨patchset, patchsetRead⟩ := Variable.number_readable _ _ numbered.patchset
  rw [addEnvironment, changeRead]
  simp only [patchsetRead]

theorem add_environment_misread (s : Summary) (refusal : Refusal)
    (misread : Variable.Misread s.envVars refusal) : s.addEnvironment.2 = some refusal := by
  cases misread with
  | change value fault unreadable =>
    rw [addEnvironment, Variable.number_unreadable _ _ value fault unreadable]
  | patchset value fault first unreadable =>
    obtain ⟨change, changeRead⟩ := Variable.number_readable _ _ first
    rw [addEnvironment, changeRead]
    simp only [Variable.number_unreadable _ _ value fault unreadable]

@[simp] theorem add_build_url_env (s : Summary) : s.addBuildUrl.envVars = s.envVars := by
  unfold addBuildUrl
  split <;> rfl

@[simp] theorem decode_commit_message_env (s : Summary) :
    s.decodeCommitMessage.envVars = Variable.decodeMessage s.envVars := by
  unfold decodeCommitMessage Variable.decodeMessage
  cases s.envVars.get? Variable.commitMessage <;> rfl

theorem add_environment_taken (s : Summary) (taken : s.addEnvironment.2 = none) :
    ∃ change patchset,
      Variable.number? s.envVars Variable.changeNumber = .ok change ∧
      Variable.number? s.envVars Variable.patchsetNumber = .ok patchset ∧
      s.addEnvironment.1 =
        { s with
          changeNumber := change.or s.changeNumber
          patchsetNumber := patchset.or s.patchsetNumber }.decodeCommitMessage.addBuildUrl := by
  unfold addEnvironment at taken ⊢
  cases change : Variable.number? s.envVars Variable.changeNumber with
  | error refusal =>
    rw [change] at taken
    cases taken
  | ok n =>
    simp only [change] at taken ⊢
    cases patchset : Variable.number? s.envVars Variable.patchsetNumber with
    | error refusal =>
      rw [patchset] at taken
      cases taken
    | ok m => exact ⟨n, m, rfl, rfl, rfl⟩

theorem add_environment_env (s : Summary) (taken : s.addEnvironment.2 = none) :
    s.addEnvironment.1.envVars = Variable.decodeMessage s.envVars := by
  obtain ⟨change, patchset, -, -, whole⟩ := add_environment_taken s taken
  rw [whole, add_build_url_env, decode_commit_message_env]

theorem add_environment_get (s : Summary) (name : String) (other : name ≠ Variable.commitMessage) :
    s.addEnvironment.1.envVars.get? name = s.envVars.get? name := by
  unfold addEnvironment
  split
  · rfl
  · simp only
    split
    · rfl
    · rw [add_build_url_env, decode_commit_message_env, Variable.decode_message_get, if_neg other]

theorem add_section_env (s : Summary) (part : Wire.CommandSection) :
    (s.addSection part).envVars =
      if part.sectionLabel = optionsLabel then Variable.addSection part ∅ else s.envVars := by
  unfold addSection
  split
  · rfl
  · split
    · rfl
    · split <;> rfl

end Summary

namespace Wire.CommandLine

-- The options that count: those of the last section for them.
def lastOptions? (c : CommandLine) : Option CommandSection :=
  (c.sections.filter (·.sectionLabel = Summary.optionsLabel)).getLast?

def environment (c : CommandLine) (old : KeyMap String) : KeyMap String :=
  match c.lastOptions? with
  | some part => Variable.addSection part ∅
  | none => old

def Sound (c : CommandLine) : Prop :=
  c.commandLineLabel = Summary.asTypedLabel → ∀ part, c.lastOptions? = some part →
    Variable.Numbered (Variable.addSection part ∅)

end Wire.CommandLine

namespace Summary

theorem add_sections_env (parts : List Wire.CommandSection) (s : Summary) :
    (parts.foldl addSection s).envVars =
      match (parts.filter (·.sectionLabel = optionsLabel)).getLast? with
      | some part => Variable.addSection part ∅
      | none => s.envVars := by
  induction parts using List.reverseRecOn with
  | nil => rfl
  | append_singleton parts part ih =>
    rw [List.foldl_append, List.foldl_cons, List.foldl_nil, add_section_env, ih]
    by_cases options : part.sectionLabel = optionsLabel
    · simp [options]
    · simp [options]

theorem add_command_line_typed (s : Summary) (c : Wire.CommandLine)
    (typed : c.commandLineLabel = asTypedLabel) :
    ∃ full : Summary, s.addCommandLine c = full.addEnvironment ∧
      full.envVars = c.environment s.envVars :=
  ⟨c.sections.foldl addSection s, if_pos typed, add_sections_env c.sections s⟩

theorem add_command_line_sound (s : Summary) (c : Wire.CommandLine)
    (numbered : Variable.Numbered s.envVars) (sound : c.Sound) :
    (s.addCommandLine c).2 = none ∧ Variable.Numbered (s.addCommandLine c).1.envVars := by
  by_cases typed : c.commandLineLabel = asTypedLabel
  · obtain ⟨full, whole, env⟩ := add_command_line_typed s c typed
    have readable : Variable.Numbered full.envVars := by
      rw [env, Wire.CommandLine.environment]
      cases last : c.lastOptions? with
      | none => exact numbered
      | some part => exact sound typed part last
    rw [whole]
    refine ⟨add_environment_numbered full readable, ?_, ?_⟩
    · rw [add_environment_get full _ (by decide)]
      exact readable.change
    · rw [add_environment_get full _ (by decide)]
      exact readable.patchset
  · rw [addCommandLine, if_neg typed]
    exact ⟨rfl, numbered⟩

theorem add_command_line_misread (s : Summary) (c : Wire.CommandLine) (part : Wire.CommandSection)
    (refusal : Refusal) (typed : c.commandLineLabel = asTypedLabel)
    (last : c.lastOptions? = some part)
    (misread : Variable.Misread (Variable.addSection part ∅) refusal) :
    (s.addCommandLine c).2 = some refusal := by
  obtain ⟨full, whole, env⟩ := add_command_line_typed s c typed
  rw [whole]
  apply add_environment_misread full refusal
  rw [env, Wire.CommandLine.environment, last]
  exact misread

end Summary

end BuildDigest
