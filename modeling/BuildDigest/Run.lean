import BuildDigest.Settings
import BuildDigest.Summary.Invocation

set_option autoImplicit false

namespace BuildDigest

-- The readings of a clock in milliseconds, in the order in which they are taken.
abbrev Clock := Nat → Int64

-- The summarizer: the summary so far, and how often the clock has been read for it.
structure Run where
  summary : Summary := {}
  readings : Nat := 0
  deriving DecidableEq

abbrev Taken := Run × Option Refusal

namespace Run

def change (r : Run) (f : Summary → Summary) : Run :=
  { r with summary := f r.summary }

def accept (r : Run) (f : Summary → Summary) : Taken :=
  (r.change f, none)

def refuse (r : Run) (v : Violation) : Taken :=
  (r, some (.violation v))

def fileName? (path : String) : Option String :=
  let parts := (Text.pieces '/' path.toList).reverse.dropWhile fun p => p = [] || p = ['.']
  match parts with
  | [] => none
  | last :: _ => if last = ['.', '.'] then none else some (String.ofList last)

def fromFile (url : String) (r : Run) : Run :=
  r.change fun s =>
    if url.isEmpty then { s with eventFileUrl := url }
    else
      { s with
        eventFileUrl := url
        relatedFiles := s.relatedFiles.insert ((fileName? url).getD url) url }

def started (m : Wire.Started) (s : Summary) : Summary :=
  { s with
    startedAt := m.startTime.or (Timestamp.ofMillis? m.startTimeMillis)
    invocationId := m.uuid
    bazelVersion := m.buildToolVersion }

def stepLabelKey : String := "BUILD_STEP_LABEL"
def userEmailKey : String := "user_email"
def userLdapKey : String := "user_ldap"

def metadata (m : Wire.Metadata) (s : Summary) : Summary :=
  let value (key : String) := (m.metadata.get? key).getD ""
  { s with
    stepLabel := value stepLabelKey
    userEmail := value userEmailKey
    userLdap := value userLdapKey }

def finished (m : Wire.Finished) (s : Summary) : Summary :=
  let code := m.exitCode.getD {}
  { s with
    endedAt := m.finishTime.or (Timestamp.ofMillis? m.finishTimeMillis)
    exitCode := some ⟨code.code, code.name⟩ }

def configuration (m : Wire.Configuration) (s : Summary) : Summary :=
  { s with
    cpu := m.cpu
    platformName := m.platformName
    configurationMnemonic := m.mnemonic }

def fetch (m : Wire.Fetch) (s : Summary) : Summary :=
  if m.success then { s with numFetches := s.numFetches + 1 } else s

def optionsParsed (m : Wire.OptionsParsed) (s : Summary) : Summary :=
  { s with
    commandLine := { s.commandLine with options := String.intercalate " " m.explicitCmdLine } }

def toolLogs (m : Wire.ToolLogs) (s : Summary) : Summary :=
  { s with
    relatedFiles := (m.log.filter fun f => !f.uri.isEmpty).foldl
      (fun files f => files.insert f.name (Blob.address f.uri)) s.relatedFiles }

def progress (m : Wire.Progress) (s : Summary) : Summary :=
  { s with buildLogs := s.buildLogs ++ m.stdout ++ m.stderr }

def targetConfigured (clock : Clock) (m : Wire.TargetConfigured) (r : Run) : Taken :=
  if m.label.isEmpty then r.refuse (.unlabelled .targetConfigured)
  else
    let target := Summary.Target.configured (clock r.readings) m
    { r with readings := r.readings + 1 }.accept fun s =>
      { s with targets := s.targets.insert m.label target }

-- The clock is read before it turns out whether the target is known.
def targetCompleted (clock : Clock) (m : Wire.TargetCompleted) (r : Run) : Taken :=
  if m.label.isEmpty then r.refuse (.unlabelled .targetCompleted)
  else
    let completion := Summary.Completed.of (clock r.readings) m
    let r := { r with readings := r.readings + 1 }
    match r.summary.targets.get? m.label with
    | none => r.refuse (.completedUnconfigured m.label)
    | some target => r.accept fun s =>
        { s with targets := s.targets.insert m.label (target.complete completion) }

def testResult (m : Wire.TestResult) (r : Run) : Taken :=
  if m.label.isEmpty then r.refuse (.unlabelled .testResult)
  else r.accept fun s =>
    let test := (s.tests.get? m.label).getD {}
    { s with tests := s.tests.insert m.label (test.addResult (.of m)) }

def testSummary (m : Wire.TestSummary) (r : Run) : Taken :=
  if m.label.isEmpty then r.refuse (.unlabelled .testSummary)
  else
    match r.summary.tests.get? m.label with
    | none => r.refuse (.summarizedUntested m.label)
    | some test => r.accept fun s =>
        { s with tests := s.tests.insert m.label (test.summarize (.of m)) }

def commandLine (m : Wire.CommandLine) (r : Run) : Taken :=
  let (summary, refusal) := r.summary.addCommandLine m
  ({ r with summary }, refusal)

def payload (clock : Clock) (p : Payload) (r : Run) : Taken :=
  match p with
  | .started m => r.accept (started m)
  | .buildMetadata m => r.accept (metadata m)
  | .buildFinished m => r.accept (finished m)
  | .buildMetrics m => r.accept fun s => { s with metrics := .of m }
  | .structuredCommandLine m => r.commandLine m
  | .configuration m => r.accept (configuration m)
  | .targetConfigured m => r.targetConfigured clock m
  | .targetCompleted m => r.targetCompleted clock m
  | .fetch m => r.accept (fetch m)
  | .actionExecuted _ => r.accept id
  | .testResult m => r.testResult m
  | .testSummary m => r.testSummary m
  | .optionsParsed m => r.accept (optionsParsed m)
  | .buildToolLogs m => r.accept (toolLogs m)
  | .progress m => r.accept (progress m)
  | .unknown => r.accept id

def markCompleted (last : Bool) (r : Run) : Run :=
  r.change fun s => { s with bepCompleted := last }

-- Takes an event into the summary. To go on means that a violation counts as taken.
def take (policy : ViolationPolicy) (clock : Clock) (e : Event) (r : Run) : Taken :=
  match r.payload clock e.payload with
  | (r, none) => (r.markCompleted e.lastMessage, none)
  | (r, some refusal) =>
      if refusal.isViolation && policy = .goOn then (r.markCompleted e.lastMessage, none)
      else (r, some refusal)

end Run

end BuildDigest
