import BuildDigest.Proofs.BuildLink
import BuildDigest.Proofs.Pieces

set_option autoImplicit false

namespace BuildDigest

namespace Wire

namespace CommandOption

-- The name ends at the first equality sign; the value may be empty or have more of them.
structure Defines (o : CommandOption) (name value : String) : Prop where
  client : o.optionName = Variable.clientOption
  given : name ≠ ""
  single : '=' ∉ name.toList
  text : o.optionValue = name ++ "=" ++ value

-- The option is for something else, or its text has no equality sign or begins with one.
def Idle (o : CommandOption) : Prop :=
  o.optionName ≠ Variable.clientOption ∨ '=' ∉ o.optionValue.toList ∨
    o.optionValue.toList.head? = some '='

instance (o : CommandOption) : Decidable o.Idle :=
  inferInstanceAs (Decidable (_ ∨ _ ∨ _))

end CommandOption

namespace CommandSection

def options (part : CommandSection) : List CommandOption :=
  part.optionList.elim [] (·.option)

theorem variables_of_options (part : CommandSection) :
    part.variables = part.options.filterMap Variable.ofOption? :=
  rfl

def active (part : CommandSection) : List CommandOption :=
  part.options.filter fun o => ¬o.Idle

end CommandSection

inductive Sets (options : List CommandOption) (name value : String) : Prop where
  | last (before : List CommandOption) (o : CommandOption) (after : List CommandOption)
      (split : options = before ++ o :: after) (defines : o.Defines name value)
      (final : ∀ later ∈ after, ∀ other, ¬later.Defines name other)

end Wire

namespace Variable

theorem split_iff (s name value : String) :
    split? s = some (name, value) ↔
      name ≠ "" ∧ '=' ∉ name.toList ∧ s = name ++ "=" ++ value := by
  have chars : s = name ++ "=" ++ value ↔ s.toList = name.toList ++ '=' :: value.toList := by
    rw [← String.toList_inj]
    simp
  rw [split?, List.span_eq_takeWhile_dropWhile, chars]
  constructor
  · intro read
    obtain ⟨front, behind, whole, plain, stop⟩ :=
      Text.run_split (fun c => decide (c ≠ '=')) s.toList
    obtain ⟨taken, left⟩ := Text.run_taken _ front behind plain stop
    rw [whole, taken, left] at read
    rw [whole]
    cases front with
    | nil => cases read
    | cons c front =>
      cases behind with
      | nil => cases read
      | cons d behind =>
        cases read
        have sign : d = '=' := by simpa using stop d rfl
        subst sign
        refine ⟨by simp, fun member => ?_, by simp⟩
        simpa using plain '=' (by simpa using member)
  · intro ⟨given, single, whole⟩
    have plain : ∀ c ∈ name.toList, decide (c ≠ '=') := fun c member =>
      decide_eq_true fun same => single (same ▸ member)
    obtain ⟨taken, left⟩ := Text.run_taken _ name.toList ('=' :: value.toList) plain (by simp)
    rw [whole, taken, left]
    cases front : name.toList with
    | nil => exact absurd (String.toList_inj.1 (front.trans rfl)) given
    | cons c rest => simp only [← front, String.ofList_toList]

theorem of_option_iff (o : Wire.CommandOption) (name value : String) :
    ofOption? o = some (name, value) ↔ o.Defines name value := by
  rw [ofOption?]
  constructor
  · intro read
    split at read
    · next client =>
      obtain ⟨given, single, text⟩ := (split_iff _ name value).1 read
      exact ⟨client, given, single, text⟩
    · cases read
  · intro ⟨client, given, single, text⟩
    rw [if_pos client]
    exact (split_iff _ name value).2 ⟨given, single, text⟩

theorem defines_or_idle (o : Wire.CommandOption) :
    (∃ name value, o.Defines name value) ∨ o.Idle := by
  by_cases idle : o.Idle
  · exact .inr idle
  · simp only [Wire.CommandOption.Idle, not_or, not_not] at idle
    obtain ⟨client, sign, front⟩ := idle
    obtain ⟨name, value, whole, single⟩ := List.eq_append_cons_of_mem sign
    refine .inl ⟨String.ofList name, String.ofList value, client, fun empty => front ?_, ?_, ?_⟩
    · rw [whole, String.ofList_eq_empty_iff.1 empty]
      rfl
    · rwa [String.toList_ofList]
    · rw [← String.toList_inj, whole]
      simp

theorem idle_defines_nothing (o : Wire.CommandOption) (idle : o.Idle) (name value : String) :
    ¬o.Defines name value := by
  intro ⟨client, given, single, text⟩
  rcases idle with other | none | first
  · exact other client
  · exact none (by simp [text])
  · rw [text, String.toList_append, String.toList_append, List.append_assoc,
      List.head?_append_of_ne_nil _ fun empty => given (String.toList_inj.1 empty)] at first
    exact single (List.mem_of_mem_head? first)

theorem of_option_none_iff (o : Wire.CommandOption) : ofOption? o = none ↔ o.Idle := by
  constructor
  · intro none
    refine (defines_or_idle o).resolve_left fun ⟨name, value, defines⟩ => ?_
    rw [(of_option_iff o name value).2 defines] at none
    cases none
  · intro idle
    cases read : ofOption? o with
    | none => rfl
    | some v => exact absurd ((of_option_iff o v.1 v.2).1 read) (idle_defines_nothing o idle _ _)

theorem none_defined (options : List Wire.CommandOption) (name : String)
    (none : ∀ o ∈ options, ∀ value, ¬o.Defines name value) :
    (options.filterMap ofOption?).filter (·.1 = name) = [] := by
  rw [List.filter_eq_nil_iff]
  intro v member same
  obtain ⟨o, given, read⟩ := List.mem_filterMap.1 member
  have defines := (of_option_iff o v.1 v.2).1 read
  rw [of_decide_eq_true same] at defines
  exact none o given v.2 defines

theorem section_unset (part : Wire.CommandSection) (env : KeyMap String) (name : String)
    (none : ∀ o ∈ part.options, ∀ value, ¬o.Defines name value) :
    (addSection part env).get? name = env.get? name := by
  rw [part.added_get, part.variables_of_options, none_defined part.options name none]
  rfl

theorem section_sets (part : Wire.CommandSection) (env : KeyMap String) (name value : String)
    (sets : Wire.Sets part.options name value) :
    (addSection part env).get? name = some value := by
  obtain ⟨before, o, after, split, defines, final⟩ := sets
  have read := (of_option_iff o name value).2 defines
  have defined : part.variables.filter (·.1 = name) =
      (before.filterMap ofOption?).filter (·.1 = name) ++ [(name, value)] := by
    rw [part.variables_of_options, split, List.filterMap_append, List.filterMap_cons_some read,
      List.filter_append, List.filter_cons, if_pos (decide_eq_true rfl),
      none_defined after name final]
  rw [part.added_get, defined, List.getLast?_concat]
  rfl

theorem defined_sets (options : List Wire.CommandOption) (name : String)
    (once : ∃ o ∈ options, ∃ value, o.Defines name value) :
    ∃ value, Wire.Sets options name value := by
  induction options using List.reverseRecOn with
  | nil =>
    obtain ⟨o, member, -⟩ := once
    cases member
  | append_singleton options last ih =>
    by_cases defines : ∃ value, last.Defines name value
    · obtain ⟨value, defines⟩ := defines
      exact ⟨value, .last options last [] rfl defines nofun⟩
    · obtain ⟨o, member, value, given⟩ := once
      rcases List.mem_append.1 member with earlier | here
      · obtain ⟨value, before, o, after, split, sets, final⟩ := ih ⟨o, earlier, value, given⟩
        have longer : options ++ [last] = before ++ o :: (after ++ [last]) := by simp [split]
        refine ⟨value, .last before o _ longer sets fun later member => ?_⟩
        rcases List.mem_append.1 member with between | here
        · exact final later between
        · rw [List.mem_singleton.1 here]
          exact fun other another => defines ⟨other, another⟩
      · rw [List.mem_singleton.1 here] at given
        exact absurd ⟨value, given⟩ defines

theorem fresh_get_iff (part : Wire.CommandSection) (name value : String) :
    (addSection part ∅).get? name = some value ↔ Wire.Sets part.options name value := by
  refine ⟨fun found => ?_, section_sets part ∅ name value⟩
  by_cases once : ∃ o ∈ part.options, ∃ value, o.Defines name value
  · obtain ⟨last, sets⟩ := defined_sets part.options name once
    rw [section_sets part ∅ name last sets] at found
    cases found
    exact sets
  · have unset := section_unset part ∅ name fun o member value defines =>
      once ⟨o, member, value, defines⟩
    cases unset.symm.trans found

theorem fresh_readable_iff (part : Wire.CommandSection) (name : String) :
    Readable ((addSection part ∅).get? name) ↔
      ∀ value, Wire.Sets part.options name value →
        value = "" ∨ ∃ n : Int64, Text.Numeral value n.toInt := by
  simp only [Readable, fresh_get_iff]

theorem fresh_unreadable_iff (part : Wire.CommandSection) (name value : String)
    (fault : Text.NumberFault) :
    Unreadable (addSection part ∅) name value fault ↔
      Wire.Sets part.options name value ∧ value ≠ "" ∧ Text.int64 value = .error fault := by
  rw [← fresh_get_iff]
  exact ⟨fun ⟨found, given, fault⟩ => ⟨found, given, fault⟩,
    fun ⟨found, given, fault⟩ => ⟨found, given, fault⟩⟩

theorem fresh_misread_iff (part : Wire.CommandSection) (refusal : Refusal) :
    Misread (addSection part ∅) refusal ↔
      ∃ name value fault, refusal = .notNumber name value fault ∧
        Wire.Sets part.options name value ∧ value ≠ "" ∧ Text.int64 value = .error fault ∧
        (name = changeNumber ∨ name = patchsetNumber ∧
          ∀ other, Wire.Sets part.options changeNumber other →
            other = "" ∨ ∃ n : Int64, Text.Numeral other n.toInt) := by
  simp only [← fresh_readable_iff]
  constructor
  · intro misread
    cases misread with
    | change value fault unreadable =>
      obtain ⟨sets, given, faulty⟩ := (fresh_unreadable_iff part _ value fault).1 unreadable
      exact ⟨_, value, fault, rfl, sets, given, faulty, .inl rfl⟩
    | patchset value fault first unreadable =>
      obtain ⟨sets, given, faulty⟩ := (fresh_unreadable_iff part _ value fault).1 unreadable
      exact ⟨_, value, fault, rfl, sets, given, faulty, .inr ⟨rfl, first⟩⟩
  · rintro ⟨name, value, fault, rfl, sets, given, faulty, number⟩
    have unreadable := (fresh_unreadable_iff part name value fault).2 ⟨sets, given, faulty⟩
    rcases number with rfl | ⟨rfl, first⟩
    · exact .change value fault unreadable
    · exact .patchset value fault first unreadable

theorem variables_active (part : Wire.CommandSection) :
    part.variables = part.active.filterMap ofOption? := by
  rw [part.variables_of_options, Wire.CommandSection.active, List.filterMap_filter]
  refine List.filterMap_congr fun o _ => ?_
  by_cases idle : o.Idle
  · rw [if_neg (by simp [idle]), (of_option_none_iff o).2 idle]
  · rw [if_pos (by simp [idle])]

def written (v : String × String) : String :=
  v.1 ++ "=" ++ v.2

theorem variables_texts (part : Wire.CommandSection) :
    part.variables = (part.active.map (·.optionValue)).filterMap split? := by
  rw [variables_active, List.filterMap_map]
  refine List.filterMap_congr fun o member => ?_
  have active : ¬o.Idle := of_decide_eq_true (List.mem_filter.1 member).2
  have client : o.optionName = clientOption := by
    by_contra other
    exact active (.inl other)
  exact if_pos client

theorem texts_read (vs : List (String × String))
    (named : ∀ v ∈ vs, v.1 ≠ "" ∧ '=' ∉ v.1.toList) : (vs.map written).filterMap split? = vs := by
  rw [List.filterMap_map]
  refine (List.filterMap_congr fun v member => ?_).trans List.filterMap_some
  obtain ⟨given, single⟩ := named v member
  exact (split_iff _ v.1 v.2).2 ⟨given, single, rfl⟩

theorem environment_read (part : Wire.CommandSection) (env : KeyMap String)
    (named : ∀ v ∈ env.entries, v.1 ≠ "" ∧ '=' ∉ v.1.toList)
    (listed : (part.active.map (·.optionValue)).Perm (env.entries.map written)) :
    addSection part ∅ = env := by
  have told : part.variables.Perm env.entries := by
    rw [variables_texts, ← texts_read env.entries named]
    exact listed.filterMap split?
  rw [part.added]
  exact env.ofList_perm told

-- A variable that some option defines has the value that the last of them gives it, and any other
-- is left alone. So an environment that is listed in a section, in any order and between idle
-- options, is read back.
theorem section_read_back (part : Wire.CommandSection) (env : KeyMap String) :
    let after := addSection part env
    (∀ name, (∀ o ∈ part.options, ∀ value, ¬o.Defines name value) →
      after.get? name = env.get? name) ∧
    (∀ name, (∃ o ∈ part.options, ∃ value, o.Defines name value) →
      ∃ value, Wire.Sets part.options name value) ∧
    (∀ name value, Wire.Sets part.options name value → after.get? name = some value) ∧
    (∀ other : Wire.CommandSection, other.active = part.active → addSection other env = after) ∧
    ∀ given : KeyMap String, (∀ v ∈ given.entries, v.1 ≠ "" ∧ '=' ∉ v.1.toList) →
      (part.active.map (·.optionValue)).Perm (given.entries.map fun v => v.1 ++ "=" ++ v.2) →
      addSection part ∅ = given := by
  refine ⟨section_unset part env, defined_sets part.options, section_sets part env,
    fun other same => ?_, fun given => environment_read part given⟩
  rw [other.added, variables_active, same, ← variables_active, ← part.added]

theorem section_between_idle :
    let option (name text : String) : Wire.CommandOption :=
      { optionName := name, optionValue := text }
    let part : Wire.CommandSection := { optionList := some { option := [
      option clientOption "EQUAL=a=b", option "color" "A=yes", option clientOption "EMPTY=",
      option clientOption "=front"] } }
    let old : KeyMap String := .ofList [("EMPTY", "full"), ("OLD", "kept")]
    let given : KeyMap String := .ofList [("EMPTY", ""), ("EQUAL", "a=b")]
    (addSection part old).get? "OLD" = some "kept" ∧ (addSection part old).get? "EMPTY" = some "" ∧
      addSection part ∅ = given := by
  intro option part old given
  obtain ⟨unset, -, sets, -, listed⟩ := section_read_back part old
  have other : ∀ o ∈ part.options, (ofOption? o).map Prod.fst ≠ some "OLD" := by decide
  have empty : Wire.Sets part.options "EMPTY" "" := by
    refine .last [option clientOption "EQUAL=a=b", option "color" "A=yes"] _ _ rfl
      ⟨rfl, by decide, by decide, by decide⟩ fun later member => ?_
    rw [List.mem_singleton.1 member]
    exact idle_defines_nothing _ (by decide) "EMPTY"
  refine ⟨(unset "OLD" fun o member value defines => other o member ?_).trans (by decide),
    sets "EMPTY" "" empty, listed given (by decide) (by decide)⟩
  rw [(of_option_iff o "OLD" value).2 defines]
  rfl

end Variable

theorem Payload.breaks_command_line_iff (before : List Event) (c : Wire.CommandLine) (refusal : Refusal) :
    Breaks before (.structuredCommandLine c) refusal ↔
      c.commandLineLabel = Summary.asTypedLabel ∧ ∃ part, c.lastOptions? = some part ∧
        ∃ name value fault, refusal = .notNumber name value fault ∧
          Wire.Sets part.options name value ∧ value ≠ "" ∧ Text.int64 value = .error fault ∧
          (name = Variable.changeNumber ∨ name = Variable.patchsetNumber ∧
            ∀ other, Wire.Sets part.options Variable.changeNumber other →
              other = "" ∨ ∃ n : Int64, Text.Numeral other n.toInt) := by
  constructor
  · intro breaks
    cases breaks with
    | misread _ part _ typed last misread =>
      exact ⟨typed, part, last, (Variable.fresh_misread_iff part refusal).1 misread⟩
  · rintro ⟨typed, part, last, told⟩
    exact .misread c part refusal typed last ((Variable.fresh_misread_iff part refusal).2 told)

namespace Summary

-- A message is put into the environment as it was written if it comes in Base64, else unchanged.
theorem commit_message_recovered (s : Summary) (c : Wire.CommandLine) (part : Wire.CommandSection)
    (raw : String) (typed : c.commandLineLabel = asTypedLabel) (last : c.lastOptions? = some part)
    (sets : Wire.Sets part.options Variable.commitMessage raw)
    (numbers : ∀ name ∈ [Variable.changeNumber, Variable.patchsetNumber], ∀ value,
      Wire.Sets part.options name value → value = "" ∨ ∃ n : Int64, Text.Numeral value n.toInt) :
    let after := s.addCommandLine c
    after.2 = none ∧
    (∀ text, raw.toList = Text.Base64.encode (Hash.utf8 text) →
      after.1.envVars.get? Variable.commitMessage = some text) ∧
    ((∀ text, raw.toList ≠ Text.Base64.encode (Hash.utf8 text)) →
      after.1.envVars.get? Variable.commitMessage = some raw) := by
  intro after
  obtain ⟨full, whole, env⟩ := add_command_line_typed s c typed
  have given : full.envVars = Variable.addSection part ∅ := by
    rw [env, Wire.CommandLine.environment, last]
  have readable (name : String) (member : name ∈ [Variable.changeNumber, Variable.patchsetNumber]) :
      Variable.Readable (full.envVars.get? name) :=
    given ▸ (Variable.fresh_readable_iff part name).2 (numbers name member)
  have taken := add_environment_numbered full ⟨readable _ (.head _), readable _ (.tail _ (.head _))⟩
  have message (text : String) (means : Variable.Means raw text) :
      full.addEnvironment.1.envVars.get? Variable.commitMessage = some text := by
    have found := (Variable.fresh_get_iff part _ raw).2 sets
    rw [add_environment_env full taken, given, Variable.decode_message_get, if_pos rfl, found,
      Option.map_some, (Variable.means_iff raw text).1 means]
  rw [show after = full.addEnvironment from whole]
  exact ⟨taken, fun text encoded => message text (.encoded text encoded.symm),
    fun plain => message raw (.itself fun text encoded => plain text encoded.symm)⟩

theorem message_of_letters_recovered :
    let s : Summary := { envVars := .ofList [(Variable.commitMessage, "before")] }
    let message (raw : String) :=
      (s.addCommandLine (.withMessage raw)).1.envVars.get? Variable.commitMessage
    message "R3LDtsOfZQ==" = some "Größe" ∧ message "R3LDtsOfZR==" = some "R3LDtsOfZR==" := by
  intro s message
  have recovered (raw : String) := by
    refine commit_message_recovered s (.withMessage raw) _ raw rfl rfl
      (.last [] _ [] rfl ⟨rfl, by decide, by decide, rfl⟩ nofun) fun name number value sets => ?_
    -- The only option defines the message, and no number.
    obtain ⟨before, o, after, split, defines, -⟩ := sets
    have only : o ∈ [_] := split ▸ List.mem_append_right before (.head after)
    have text := (Variable.split_iff _ Variable.commitMessage raw).2 ⟨by decide, by decide, rfl⟩
    have read := (Variable.split_iff _ name value).2 ⟨defines.given, defines.single, defines.text⟩
    rw [List.mem_singleton.1 only, text] at read
    cases read
    exact absurd number (by decide)
  refine ⟨(recovered _).2.1 "Größe" (by decide +kernel), (recovered _).2.2 fun text encodes => ?_⟩
  have read := (Text.Base64.decode_text_iff _ text).2 encodes.symm
  cases read.symm.trans (by decide +kernel : Text.Base64.decodeText? "R3LDtsOfZR==" = none)

end Summary

end BuildDigest
