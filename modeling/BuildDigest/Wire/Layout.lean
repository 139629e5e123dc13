import BuildDigest.Event

set_option autoImplicit false

namespace BuildDigest.Wire

inductive Message where
  | event
  | duration
  | file
  | started
  | metadata
  | exitCode
  | finished
  | configuration
  | fetch
  | optionsParsed
  | toolLogs
  | progress
  | chunkList
  | commandOption
  | optionList
  | commandSection
  | commandLine
  | targetConfigured
  | aborted
  | targetCompleted
  | actionExecuted
  | timing
  | execution
  | testResult
  | testSummary
  | actionData
  | runnerCount
  | missDetail
  | actionCacheStatistics
  | actionSummary
  | garbageMetrics
  | memoryMetrics
  | targetMetrics
  | packageLoadMetrics
  | packageMetrics
  | timingMetrics
  | filesMetric
  | artifactMetrics
  | cumulativeMetrics
  | networkStats
  | networkMetrics
  | buildGraphMetrics
  | metrics
  deriving DecidableEq

abbrev Message.Type : Message → Type
  | .event => Event
  | .duration => Duration
  | .file => File
  | .started => Started
  | .metadata => Metadata
  | .exitCode => ExitCode
  | .finished => Finished
  | .configuration => Configuration
  | .fetch => Fetch
  | .optionsParsed => OptionsParsed
  | .toolLogs => ToolLogs
  | .progress => Progress
  | .chunkList => ChunkList
  | .commandOption => CommandOption
  | .optionList => OptionList
  | .commandSection => CommandSection
  | .commandLine => CommandLine
  | .targetConfigured => TargetConfigured
  | .aborted => Aborted
  | .targetCompleted => TargetCompleted
  | .actionExecuted => ActionExecuted
  | .timing => Timing
  | .execution => Execution
  | .testResult => TestResult
  | .testSummary => TestSummary
  | .actionData => ActionData
  | .runnerCount => RunnerCount
  | .missDetail => MissDetail
  | .actionCacheStatistics => ActionCacheStatistics
  | .actionSummary => ActionSummary
  | .garbageMetrics => GarbageMetrics
  | .memoryMetrics => MemoryMetrics
  | .targetMetrics => TargetMetrics
  | .packageLoadMetrics => PackageLoadMetrics
  | .packageMetrics => PackageMetrics
  | .timingMetrics => TimingMetrics
  | .filesMetric => FilesMetric
  | .artifactMetrics => ArtifactMetrics
  | .cumulativeMetrics => CumulativeMetrics
  | .networkStats => NetworkStats
  | .networkMetrics => NetworkMetrics
  | .buildGraphMetrics => BuildGraphMetrics
  | .metrics => Metrics

inductive Choice where
  | testStatus
  | testSize
  | abortReason
  | missReason
  deriving DecidableEq

abbrev Choice.Type : Choice → Type
  | .testStatus => TestStatus
  | .testSize => TestSize
  | .abortReason => AbortReason
  | .missReason => MissReason

instance (c : Choice) : Word c.Type :=
  match c with
  | .testStatus => inferInstanceAs (Word TestStatus)
  | .testSize => inferInstanceAs (Word TestSize)
  | .abortReason => inferInstanceAs (Word AbortReason)
  | .missReason => inferInstanceAs (Word MissReason)

inductive Base where
  | bool
  | int32
  | int64
  | uint64
  | text
  | time
  | texts
  | choice (c : Choice)
  | message (m : Message)
  | payload
  | list (item : Base)
  deriving DecidableEq

abbrev Base.Value : Base → Type
  | .bool => Bool
  | .int32 => Int32
  | .int64 => Int64
  | .uint64 => UInt64
  | .text => String
  | .time => Timestamp
  | .texts => KeyMap String
  | .choice c => c.Type
  | .message m => m.Type
  | .payload => Payload
  | .list item => List item.Value

-- A field holds a value, or a value or nothing, which is written `null`.
inductive Slot where
  | plain (base : Base)
  | optional (base : Base)

abbrev Slot.Value : Slot → Type
  | .plain base => base.Value
  | .optional base => Option base.Value

structure Field where
  name : String
  slot : Slot
  -- What the field holds when it is left out; `none` if it may not be.
  absent : Option slot.Value

namespace Field

def bool (name : String) : Field := ⟨name, .plain .bool, some false⟩

def int32 (name : String) : Field := ⟨name, .plain .int32, some 0⟩

def int64 (name : String) : Field := ⟨name, .plain .int64, some 0⟩

def uint64 (name : String) : Field := ⟨name, .plain .uint64, some 0⟩

def text (name : String) : Field := ⟨name, .plain .text, some ""⟩

def texts (name : String) : Field := ⟨name, .plain .texts, some ∅⟩

def duration (name : String) : Field := ⟨name, .plain (.message .duration), some {}⟩

def choice (c : Choice) (name : String) (first : c.Type) : Field :=
  ⟨name, .plain (.choice c), some first⟩

def list (item : Base) (name : String) : Field := ⟨name, .plain (.list item), some []⟩

def optional (base : Base) (name : String) : Field := ⟨name, .optional base, some none⟩

def optionalMessage (m : Message) (name : String) : Field := optional (.message m) name

def required (base : Base) (name : String) : Field := ⟨name, .plain base, none⟩

end Field

abbrev Row : List Field → Type
  | [] => Unit
  | f :: fs => f.slot.Value × Row fs

structure Layout (α : Type) where
  fields : List Field
  pack : Row fields → α
  unpack : α → Row fields
  pack_unpack : ∀ a, pack (unpack a) = a := by intro _; rfl
  unpack_pack : ∀ r, unpack (pack r) = r := by intro _; rfl

/-! ### The layouts of the messages -/

def eventLayout : Layout Event where
  fields := [.text "id", .bool "last_message", .required .payload "payload"]
  pack := fun (id, last, payload, _) => ⟨id, last, payload⟩
  unpack := fun ⟨id, last, payload⟩ => (id, last, payload, ())

def durationLayout : Layout Duration where
  fields := [.int64 "seconds", .int32 "nanos"]
  pack := fun (seconds, nanos, _) => ⟨seconds, nanos⟩
  unpack := fun ⟨seconds, nanos⟩ => (seconds, nanos, ())

def fileLayout : Layout File where
  fields := [.text "name", .text "uri", .list .text "path_prefix", .text "digest", .int64 "length"]
  pack := fun (a, b, c, d, e, _) => ⟨a, b, c, d, e⟩
  unpack := fun ⟨a, b, c, d, e⟩ => (a, b, c, d, e, ())

def startedLayout : Layout Started where
  fields := [.text "uuid", .optional .time "start_time", .int64 "start_time_millis",
    .text "build_tool_version"]
  pack := fun (a, b, c, d, _) => ⟨a, b, c, d⟩
  unpack := fun ⟨a, b, c, d⟩ => (a, b, c, d, ())

def metadataLayout : Layout Metadata where
  fields := [.texts "metadata"]
  pack := fun (a, _) => ⟨a⟩
  unpack := fun ⟨a⟩ => (a, ())

def exitCodeLayout : Layout ExitCode where
  fields := [.text "name", .int32 "code"]
  pack := fun (a, b, _) => ⟨a, b⟩
  unpack := fun ⟨a, b⟩ => (a, b, ())

def finishedLayout : Layout Finished where
  fields := [.optionalMessage .exitCode "exit_code", .optional .time "finish_time",
    .int64 "finish_time_millis"]
  pack := fun (a, b, c, _) => ⟨a, b, c⟩
  unpack := fun ⟨a, b, c⟩ => (a, b, c, ())

def configurationLayout : Layout Configuration where
  fields := [.text "mnemonic", .text "platform_name", .text "cpu"]
  pack := fun (a, b, c, _) => ⟨a, b, c⟩
  unpack := fun ⟨a, b, c⟩ => (a, b, c, ())

def fetchLayout : Layout Fetch where
  fields := [.text "url", .bool "success"]
  pack := fun (a, b, _) => ⟨a, b⟩
  unpack := fun ⟨a, b⟩ => (a, b, ())

def optionsParsedLayout : Layout OptionsParsed where
  fields := [.list .text "explicit_cmd_line"]
  pack := fun (a, _) => ⟨a⟩
  unpack := fun ⟨a⟩ => (a, ())

def toolLogsLayout : Layout ToolLogs where
  fields := [.list (.message .file) "log"]
  pack := fun (a, _) => ⟨a⟩
  unpack := fun ⟨a⟩ => (a, ())

def progressLayout : Layout Progress where
  fields := [.text "stdout", .text "stderr"]
  pack := fun (a, b, _) => ⟨a, b⟩
  unpack := fun ⟨a, b⟩ => (a, b, ())

def chunkListLayout : Layout ChunkList where
  fields := [.list .text "chunk"]
  pack := fun (a, _) => ⟨a⟩
  unpack := fun ⟨a⟩ => (a, ())

def commandOptionLayout : Layout CommandOption where
  fields := [.text "combined_form", .text "option_name", .text "option_value"]
  pack := fun (a, b, c, _) => ⟨a, b, c⟩
  unpack := fun ⟨a, b, c⟩ => (a, b, c, ())

def optionListLayout : Layout OptionList where
  fields := [.list (.message .commandOption) "option"]
  pack := fun (a, _) => ⟨a⟩
  unpack := fun ⟨a⟩ => (a, ())

def commandSectionLayout : Layout CommandSection where
  fields := [.text "section_label", .optionalMessage .chunkList "chunk_list",
    .optionalMessage .optionList "option_list"]
  pack := fun (a, b, c, _) => ⟨a, b, c⟩
  unpack := fun ⟨a, b, c⟩ => (a, b, c, ())

def commandLineLayout : Layout CommandLine where
  fields := [.text "command_line_label", .list (.message .commandSection) "sections"]
  pack := fun (a, b, _) => ⟨a, b⟩
  unpack := fun ⟨a, b⟩ => (a, b, ())

def targetConfiguredLayout : Layout TargetConfigured where
  fields := [.text "label", .text "target_kind", .choice .testSize "test_size" .unknown,
    .list .text "tag"]
  pack := fun (a, b, c, d, _) => ⟨a, b, c, d⟩
  unpack := fun ⟨a, b, c, d⟩ => (a, b, c, d, ())

def abortedLayout : Layout Aborted where
  fields := [.choice .abortReason "reason" .unknown]
  pack := fun (a, _) => ⟨a⟩
  unpack := fun ⟨a⟩ => (a, ())

def targetCompletedLayout : Layout TargetCompleted where
  fields := [.text "label", .bool "success", .list .text "tag",
    .optionalMessage .duration "test_timeout", .optionalMessage .aborted "aborted"]
  pack := fun (a, b, c, d, e, _) => ⟨a, b, c, d, e⟩
  unpack := fun ⟨a, b, c, d, e⟩ => (a, b, c, d, e, ())

def actionExecutedLayout : Layout ActionExecuted where
  fields := [.text "label", .bool "success", .text "type", .optionalMessage .file "stdout",
    .optionalMessage .file "stderr"]
  pack := fun (a, b, c, d, e, _) => ⟨a, b, c, d, e⟩
  unpack := fun ⟨a, b, c, d, e⟩ => (a, b, c, d, e, ())

def timingLayout : Layout Timing where
  fields := [.text "name", .duration "time", .list (.message .timing) "child"]
  pack := fun (a, b, c, _) => ⟨a, b, c⟩
  unpack := fun ⟨a, b, c⟩ => (a, b, c, ())
  pack_unpack := fun ⟨_, _, _⟩ => rfl

def executionLayout : Layout Execution where
  fields := [.text "strategy", .bool "cached_remotely", .int32 "exit_code", .text "hostname",
    .optionalMessage .timing "timing_breakdown"]
  pack := fun (a, b, c, d, e, _) => ⟨a, b, c, d, e⟩
  unpack := fun ⟨a, b, c, d, e⟩ => (a, b, c, d, e, ())

def testResultLayout : Layout TestResult where
  fields := [.text "label", .int32 "run", .int32 "shard", .int32 "attempt",
    .choice .testStatus "status" .noStatus, .text "status_details", .bool "cached_locally",
    .list .text "warning", .optional .time "test_attempt_start",
    .duration "test_attempt_duration", .optionalMessage .execution "execution_info",
    .list (.message .file) "test_action_output"]
  pack := fun (a, b, c, d, e, f, g, h, i, j, k, l, _) => ⟨a, b, c, d, e, f, g, h, i, j, k, l⟩
  unpack := fun ⟨a, b, c, d, e, f, g, h, i, j, k, l⟩ => (a, b, c, d, e, f, g, h, i, j, k, l, ())

def testSummaryLayout : Layout TestSummary where
  fields := [.text "label", .choice .testStatus "overall_status" .noStatus,
    .int32 "total_run_count", .int32 "run_count", .int32 "attempt_count", .int32 "shard_count",
    .int32 "total_num_cached", .optional .time "first_start_time",
    .optional .time "last_stop_time", .duration "total_run_duration"]
  pack := fun (a, b, c, d, e, f, g, h, i, j, _) => ⟨a, b, c, d, e, f, g, h, i, j⟩
  unpack := fun ⟨a, b, c, d, e, f, g, h, i, j⟩ => (a, b, c, d, e, f, g, h, i, j, ())

def actionDataLayout : Layout ActionData where
  fields := [.text "mnemonic", .int64 "actions_executed", .int64 "first_started_ms",
    .int64 "last_ended_ms", .duration "system_time", .duration "user_time"]
  pack := fun (a, b, c, d, e, f, _) => ⟨a, b, c, d, e, f⟩
  unpack := fun ⟨a, b, c, d, e, f⟩ => (a, b, c, d, e, f, ())

def runnerCountLayout : Layout RunnerCount where
  fields := [.text "name", .int32 "count", .text "exec_kind"]
  pack := fun (a, b, c, _) => ⟨a, b, c⟩
  unpack := fun ⟨a, b, c⟩ => (a, b, c, ())

def missDetailLayout : Layout MissDetail where
  fields := [.choice .missReason "reason" .differentActionKey, .int32 "count"]
  pack := fun (a, b, _) => ⟨a, b⟩
  unpack := fun ⟨a, b⟩ => (a, b, ())

def actionCacheStatisticsLayout : Layout ActionCacheStatistics where
  fields := [.uint64 "size_in_bytes", .uint64 "save_time_in_ms", .int32 "hits", .int32 "misses",
    .list (.message .missDetail) "miss_details"]
  pack := fun (a, b, c, d, e, _) => ⟨a, b, c, d, e⟩
  unpack := fun ⟨a, b, c, d, e⟩ => (a, b, c, d, e, ())

def actionSummaryLayout : Layout ActionSummary where
  fields := [.int64 "actions_created", .int64 "actions_created_not_including_aspects",
    .int64 "actions_executed", .list (.message .actionData) "action_data",
    .list (.message .runnerCount) "runner_count",
    .optionalMessage .actionCacheStatistics "action_cache_statistics"]
  pack := fun (a, b, c, d, e, f, _) => ⟨a, b, c, d, e, f⟩
  unpack := fun ⟨a, b, c, d, e, f⟩ => (a, b, c, d, e, f, ())

def garbageMetricsLayout : Layout GarbageMetrics where
  fields := [.text "type", .int64 "garbage_collected"]
  pack := fun (a, b, _) => ⟨a, b⟩
  unpack := fun ⟨a, b⟩ => (a, b, ())

def memoryMetricsLayout : Layout MemoryMetrics where
  fields := [.int64 "used_heap_size_post_build", .int64 "peak_post_gc_heap_size",
    .int64 "peak_post_gc_tenured_space_heap_size",
    .list (.message .garbageMetrics) "garbage_metrics"]
  pack := fun (a, b, c, d, _) => ⟨a, b, c, d⟩
  unpack := fun ⟨a, b, c, d⟩ => (a, b, c, d, ())

def targetMetricsLayout : Layout TargetMetrics where
  fields := [.int64 "targets_loaded", .int64 "targets_configured",
    .int64 "targets_configured_not_including_aspects"]
  pack := fun (a, b, c, _) => ⟨a, b, c⟩
  unpack := fun ⟨a, b, c⟩ => (a, b, c, ())

def packageLoadMetricsLayout : Layout PackageLoadMetrics where
  fields := [.optional .text "name", .optionalMessage .duration "load_duration",
    .optional .uint64 "num_targets", .optional .uint64 "computation_steps",
    .optional .uint64 "num_transitive_loads", .optional .uint64 "package_overhead"]
  pack := fun (a, b, c, d, e, f, _) => ⟨a, b, c, d, e, f⟩
  unpack := fun ⟨a, b, c, d, e, f⟩ => (a, b, c, d, e, f, ())

def packageMetricsLayout : Layout PackageMetrics where
  fields := [.int64 "packages_loaded",
    .list (.message .packageLoadMetrics) "package_load_metrics"]
  pack := fun (a, b, _) => ⟨a, b⟩
  unpack := fun ⟨a, b⟩ => (a, b, ())

def timingMetricsLayout : Layout TimingMetrics where
  fields := [.int64 "cpu_time_in_ms", .int64 "wall_time_in_ms",
    .int64 "analysis_phase_time_in_ms", .int64 "execution_phase_time_in_ms"]
  pack := fun (a, b, c, d, _) => ⟨a, b, c, d⟩
  unpack := fun ⟨a, b, c, d⟩ => (a, b, c, d, ())

def filesMetricLayout : Layout FilesMetric where
  fields := [.int64 "size_in_bytes", .int32 "count"]
  pack := fun (a, b, _) => ⟨a, b⟩
  unpack := fun ⟨a, b⟩ => (a, b, ())

def artifactMetricsLayout : Layout ArtifactMetrics where
  fields := [.optionalMessage .filesMetric "source_artifacts_read",
    .optionalMessage .filesMetric "output_artifacts_seen",
    .optionalMessage .filesMetric "output_artifacts_from_action_cache",
    .optionalMessage .filesMetric "top_level_artifacts"]
  pack := fun (a, b, c, d, _) => ⟨a, b, c, d⟩
  unpack := fun ⟨a, b, c, d⟩ => (a, b, c, d, ())

def cumulativeMetricsLayout : Layout CumulativeMetrics where
  fields := [.int32 "num_analyses", .int32 "num_builds"]
  pack := fun (a, b, _) => ⟨a, b⟩
  unpack := fun ⟨a, b⟩ => (a, b, ())

def networkStatsLayout : Layout NetworkStats where
  fields := [.uint64 "bytes_sent", .uint64 "bytes_recv", .uint64 "packets_sent",
    .uint64 "packets_recv", .uint64 "peak_bytes_sent_per_sec", .uint64 "peak_bytes_recv_per_sec",
    .uint64 "peak_packets_sent_per_sec", .uint64 "peak_packets_recv_per_sec"]
  pack := fun (a, b, c, d, e, f, g, h, _) => ⟨a, b, c, d, e, f, g, h⟩
  unpack := fun ⟨a, b, c, d, e, f, g, h⟩ => (a, b, c, d, e, f, g, h, ())

def networkMetricsLayout : Layout NetworkMetrics where
  fields := [.optionalMessage .networkStats "system_network_stats"]
  pack := fun (a, _) => ⟨a⟩
  unpack := fun ⟨a⟩ => (a, ())

def buildGraphMetricsLayout : Layout BuildGraphMetrics where
  fields := [.int32 "action_lookup_value_count",
    .int32 "action_lookup_value_count_not_including_aspects", .int32 "action_count",
    .int32 "action_count_not_including_aspects", .int32 "input_file_configured_target_count",
    .int32 "output_file_configured_target_count", .int32 "other_configured_target_count",
    .int32 "output_artifact_count", .int32 "post_invocation_skyframe_node_count"]
  pack := fun (a, b, c, d, e, f, g, h, i, _) => ⟨a, b, c, d, e, f, g, h, i⟩
  unpack := fun ⟨a, b, c, d, e, f, g, h, i⟩ => (a, b, c, d, e, f, g, h, i, ())

def metricsLayout : Layout Metrics where
  fields := [.optionalMessage .actionSummary "action_summary",
    .optionalMessage .memoryMetrics "memory_metrics",
    .optionalMessage .targetMetrics "target_metrics",
    .optionalMessage .packageMetrics "package_metrics",
    .optionalMessage .timingMetrics "timing_metrics",
    .optionalMessage .artifactMetrics "artifact_metrics",
    .optionalMessage .cumulativeMetrics "cumulative_metrics",
    .optionalMessage .networkMetrics "network_metrics",
    .optionalMessage .buildGraphMetrics "build_graph_metrics"]
  pack := fun (a, b, c, d, e, f, g, h, i, _) => ⟨a, b, c, d, e, f, g, h, i⟩
  unpack := fun ⟨a, b, c, d, e, f, g, h, i⟩ => (a, b, c, d, e, f, g, h, i, ())

def Message.layout : (m : Message) → Layout m.Type
  | .event => eventLayout
  | .duration => durationLayout
  | .file => fileLayout
  | .started => startedLayout
  | .metadata => metadataLayout
  | .exitCode => exitCodeLayout
  | .finished => finishedLayout
  | .configuration => configurationLayout
  | .fetch => fetchLayout
  | .optionsParsed => optionsParsedLayout
  | .toolLogs => toolLogsLayout
  | .progress => progressLayout
  | .chunkList => chunkListLayout
  | .commandOption => commandOptionLayout
  | .optionList => optionListLayout
  | .commandSection => commandSectionLayout
  | .commandLine => commandLineLayout
  | .targetConfigured => targetConfiguredLayout
  | .aborted => abortedLayout
  | .targetCompleted => targetCompletedLayout
  | .actionExecuted => actionExecutedLayout
  | .timing => timingLayout
  | .execution => executionLayout
  | .testResult => testResultLayout
  | .testSummary => testSummaryLayout
  | .actionData => actionDataLayout
  | .runnerCount => runnerCountLayout
  | .missDetail => missDetailLayout
  | .actionCacheStatistics => actionCacheStatisticsLayout
  | .actionSummary => actionSummaryLayout
  | .garbageMetrics => garbageMetricsLayout
  | .memoryMetrics => memoryMetricsLayout
  | .targetMetrics => targetMetricsLayout
  | .packageLoadMetrics => packageLoadMetricsLayout
  | .packageMetrics => packageMetricsLayout
  | .timingMetrics => timingMetricsLayout
  | .filesMetric => filesMetricLayout
  | .artifactMetrics => artifactMetricsLayout
  | .cumulativeMetrics => cumulativeMetricsLayout
  | .networkStats => networkStatsLayout
  | .networkMetrics => networkMetricsLayout
  | .buildGraphMetrics => buildGraphMetricsLayout
  | .metrics => metricsLayout

end BuildDigest.Wire

namespace BuildDigest

open BuildDigest.Wire (Message)

abbrev Kind.message : Kind → Message
  | .started => .started
  | .buildMetadata => .metadata
  | .buildFinished => .finished
  | .buildMetrics => .metrics
  | .structuredCommandLine => .commandLine
  | .configuration => .configuration
  | .targetConfigured => .targetConfigured
  | .targetCompleted => .targetCompleted
  | .fetch => .fetch
  | .actionExecuted => .actionExecuted
  | .testResult => .testResult
  | .testSummary => .testSummary
  | .optionsParsed => .optionsParsed
  | .buildToolLogs => .toolLogs
  | .progress => .progress

def Payload.of : (kind : Kind) → kind.message.Type → Payload
  | .started => .started
  | .buildMetadata => .buildMetadata
  | .buildFinished => .buildFinished
  | .buildMetrics => .buildMetrics
  | .structuredCommandLine => .structuredCommandLine
  | .configuration => .configuration
  | .targetConfigured => .targetConfigured
  | .targetCompleted => .targetCompleted
  | .fetch => .fetch
  | .actionExecuted => .actionExecuted
  | .testResult => .testResult
  | .testSummary => .testSummary
  | .optionsParsed => .optionsParsed
  | .buildToolLogs => .buildToolLogs
  | .progress => .progress

end BuildDigest
