import BuildDigest.Failure
import BuildDigest.Summary.Basic
import BuildDigest.Text.Base64

set_option autoImplicit false

namespace BuildDigest

namespace Variable

def changeNumber : String := "GERRIT_CHANGE_NUMBER"
def patchsetNumber : String := "GERRIT_PATCHSET_NUMBER"
def commitMessage : String := "GERRIT_CHANGE_COMMIT_MESSAGE"
def buildUrl : String := "BUILD_URL"

def split? (s : String) : Option (String × String) :=
  match s.toList.span (· ≠ '=') with
  | (c :: name, _ :: value) => some (String.ofList (c :: name), String.ofList value)
  | _ => none

def clientOption : String := "client_env"

def ofOption? (o : Wire.CommandOption) : Option (String × String) :=
  if o.optionName = clientOption then split? o.optionValue else none

def addSection (part : Wire.CommandSection) (env : KeyMap String) : KeyMap String :=
  match part.optionList with
  | none => env
  | some options =>
      (options.option.filterMap ofOption?).foldl (fun env v => env.insert v.1 v.2) env

def value? (env : KeyMap String) (name : String) : Option String :=
  (env.get? name).filter fun v => !v.isEmpty

def number? (env : KeyMap String) (name : String) : Except Refusal (Option Int64) :=
  match value? env name with
  | none => .ok none
  | some value =>
      match Text.int64 value with
      | .ok n => .ok (some n)
      | .error fault => .error (.notNumber name value fault)

def decoded (value : String) : String :=
  if value.isEmpty then value else (Text.Base64.decodeText? value).getD value

end Variable

namespace Summary

def joined (chunks : Wire.ChunkList) : String :=
  String.intercalate " " chunks.chunk

def optionsLabel : String := "command options"

-- The options of a section replace the environment; the chunks
-- of others replace a part of the command line.
def addSection (s : Summary) (part : Wire.CommandSection) : Summary :=
  if part.sectionLabel = optionsLabel then { s with envVars := Variable.addSection part ∅ }
  else
    match part.chunkList with
    | none => s
    | some chunks =>
        match part.sectionLabel with
        | "executable" =>
            { s with commandLine := { s.commandLine with executable := joined chunks } }
        | "command" => { s with commandLine := { s.commandLine with command := joined chunks } }
        | "residual" => { s with commandLine := { s.commandLine with residual := joined chunks } }
        | _ => s

def decodeCommitMessage (s : Summary) : Summary :=
  match s.envVars.get? Variable.commitMessage with
  | none => s
  | some message =>
      { s with envVars := s.envVars.insert Variable.commitMessage (Variable.decoded message) }

def addBuildUrl (s : Summary) : Summary :=
  match Variable.value? s.envVars Variable.buildUrl with
  | none => s
  | some url => { s with buildUrl := url, buildUuid := some (Uuid.ofAddress url) }

-- Takes what the environment says into the summary. A variable
-- that is no number stops it, with what was taken before.
def addEnvironment (s : Summary) : Summary × Option Refusal :=
  match Variable.number? s.envVars Variable.changeNumber with
  | .error refusal => (s, some refusal)
  | .ok change =>
      let s := { s with changeNumber := change.or s.changeNumber }
      match Variable.number? s.envVars Variable.patchsetNumber with
      | .error refusal => (s, some refusal)
      | .ok patchset =>
          let s := { s with patchsetNumber := patchset.or s.patchsetNumber }
          (s.decodeCommitMessage.addBuildUrl, none)

def asTypedLabel : String := "original"

def addCommandLine (s : Summary) (c : Wire.CommandLine) : Summary × Option Refusal :=
  if c.commandLineLabel = asTypedLabel then (c.sections.foldl addSection s).addEnvironment
  else (s, none)

end Summary

end BuildDigest
