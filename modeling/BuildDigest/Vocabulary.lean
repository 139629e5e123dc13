set_option autoImplicit false

namespace BuildDigest

class Word (α : Type) where
  all : List α
  name : α → String

namespace Word

variable {α : Type} [Word α]

def ofName? (s : String) : Option α :=
  all.find? fun a => name a = s

end Word

inductive TestStatus where
  | noStatus
  | passed
  | flaky
  | timeout
  | failed
  | incomplete
  | remoteFailure
  | failedToBuild
  | toolHaltedBeforeTesting
  deriving DecidableEq

instance : Inhabited TestStatus := ⟨.noStatus⟩

instance : Word TestStatus where
  all := [.noStatus, .passed, .flaky, .timeout, .failed, .incomplete, .remoteFailure,
    .failedToBuild, .toolHaltedBeforeTesting]
  name
    | .noStatus => "NO_STATUS"
    | .passed => "PASSED"
    | .flaky => "FLAKY"
    | .timeout => "TIMEOUT"
    | .failed => "FAILED"
    | .incomplete => "INCOMPLETE"
    | .remoteFailure => "REMOTE_FAILURE"
    | .failedToBuild => "FAILED_TO_BUILD"
    | .toolHaltedBeforeTesting => "TOOL_HALTED_BEFORE_TESTING"

inductive TestSize where
  | unknown
  | small
  | medium
  | large
  | enormous
  deriving DecidableEq

instance : Inhabited TestSize := ⟨.unknown⟩

instance : Word TestSize where
  all := [.unknown, .small, .medium, .large, .enormous]
  name
    | .unknown => "UNKNOWN"
    | .small => "SMALL"
    | .medium => "MEDIUM"
    | .large => "LARGE"
    | .enormous => "ENORMOUS"

inductive AbortReason where
  | unknown
  | userInterrupted
  | noAnalyze
  | noBuild
  | timeOut
  | remoteEnvironmentFailure
  | internal
  | loadingFailure
  | analysisFailure
  | skipped
  | incomplete
  | outOfMemory
  deriving DecidableEq

instance : Inhabited AbortReason := ⟨.unknown⟩

instance : Word AbortReason where
  all := [.unknown, .userInterrupted, .noAnalyze, .noBuild, .timeOut, .remoteEnvironmentFailure,
    .internal, .loadingFailure, .analysisFailure, .skipped, .incomplete, .outOfMemory]
  name
    | .unknown => "UNKNOWN"
    | .userInterrupted => "USER_INTERRUPTED"
    | .noAnalyze => "NO_ANALYZE"
    | .noBuild => "NO_BUILD"
    | .timeOut => "TIME_OUT"
    | .remoteEnvironmentFailure => "REMOTE_ENVIRONMENT_FAILURE"
    | .internal => "INTERNAL"
    | .loadingFailure => "LOADING_FAILURE"
    | .analysisFailure => "ANALYSIS_FAILURE"
    | .skipped => "SKIPPED"
    | .incomplete => "INCOMPLETE"
    | .outOfMemory => "OUT_OF_MEMORY"

inductive MissReason where
  | differentActionKey
  | differentDeps
  | differentEnvironment
  | differentFiles
  | corruptedCacheEntry
  | notCached
  | unconditionalExecution
  deriving DecidableEq

instance : Inhabited MissReason := ⟨.differentActionKey⟩

instance : Word MissReason where
  all := [.differentActionKey, .differentDeps, .differentEnvironment, .differentFiles,
    .corruptedCacheEntry, .notCached, .unconditionalExecution]
  name
    | .differentActionKey => "DIFFERENT_ACTION_KEY"
    | .differentDeps => "DIFFERENT_DEPS"
    | .differentEnvironment => "DIFFERENT_ENVIRONMENT"
    | .differentFiles => "DIFFERENT_FILES"
    | .corruptedCacheEntry => "CORRUPTED_CACHE_ENTRY"
    | .notCached => "NOT_CACHED"
    | .unconditionalExecution => "UNCONDITIONAL_EXECUTION"

inductive Kind where
  | started
  | buildMetadata
  | buildFinished
  | buildMetrics
  | structuredCommandLine
  | configuration
  | targetConfigured
  | targetCompleted
  | fetch
  | actionExecuted
  | testResult
  | testSummary
  | optionsParsed
  | buildToolLogs
  | progress
  deriving DecidableEq

instance : Word Kind where
  all := [.started, .buildMetadata, .buildFinished, .buildMetrics, .structuredCommandLine,
    .configuration, .targetConfigured, .targetCompleted, .fetch, .actionExecuted, .testResult,
    .testSummary, .optionsParsed, .buildToolLogs, .progress]
  name
    | .started => "started"
    | .buildMetadata => "build_metadata"
    | .buildFinished => "build_finished"
    | .buildMetrics => "build_metrics"
    | .structuredCommandLine => "structured_command_line"
    | .configuration => "configuration"
    | .targetConfigured => "target_configured"
    | .targetCompleted => "target_completed"
    | .fetch => "fetch"
    | .actionExecuted => "action_executed"
    | .testResult => "test_result"
    | .testSummary => "test_summary"
    | .optionsParsed => "options_parsed"
    | .buildToolLogs => "build_tool_logs"
    | .progress => "progress"

end BuildDigest
