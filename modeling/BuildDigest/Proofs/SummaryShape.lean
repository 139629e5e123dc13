import BuildDigest.Proofs.Shapes

set_option autoImplicit false

namespace BuildDigest

/-! ### Problems -/

def Blob.shape : Shape Blob :=
  .record Blob.json
    [.always "name" (·.name) .text, .always "uri" (·.uri) .text,
      .ifAny "size_in_bytes" (·.sizeInBytes) .int64]
    (fun ⟨_, _, size⟩ => by cases size <;> rfl) (by decide) fun a b same => by
      cases a
      cases b
      simpa using same

def Attempt.shape : Shape Attempt :=
  .record Attempt.json
    [.always "id" (·.id) .text, .always "run" (·.run) .int32, .always "shard" (·.shard) .int32,
      .always "attempt" (·.attempt) .int32, .always "status" (·.status) (.word .testStatus),
      .ifAny "action_log_output" (·.actionLogOutput) Blob.shape,
      .ifAny "undeclared_test_outputs" (·.undeclaredTestOutputs) Blob.shape]
    (fun ⟨_, _, _, _, _, log, outputs⟩ => by cases log <;> cases outputs <;> rfl)
    (by decide) fun a b same => by
      cases a
      cases b
      simpa using same

namespace Problem

def tag : Problem → String
  | action .. => "action"
  | progress .. => "progress"
  | target .. => "target"
  | test .. => "test"

def actionType? : Problem → Option String
  | action _ _ actionType .. => some actionType
  | _ => none

def stdout? : Problem → Option Blob
  | action _ _ _ stdout _ => stdout
  | _ => none

def stderr? : Problem → Option Blob
  | action _ _ _ _ stderr => stderr
  | _ => none

def output? : Problem → Option String
  | progress _ _ output => some output
  | _ => none

def status? : Problem → Option TestStatus
  | test _ _ status _ => some status
  | _ => none

def results? : Problem → Option (List Attempt)
  | test _ _ _ results => some results
  | _ => none

def shape : Shape Problem :=
  .record Problem.json
    [.always "kind" tag .text, .always "id" id .text, .always "label" label .text,
      .ifAny "type" actionType? .text, .ifAny "stdout" stdout? Blob.shape,
      .ifAny "stderr" stderr? Blob.shape, .ifAny "output" output? .text,
      .ifAny "status" status? (.word .testStatus), .ifAny "results" results? (.list Attempt.shape)]
    (fun p => by
      cases p with
      | action id label actionType stdout stderr => cases stdout <;> cases stderr <;> rfl
      | _ => rfl)
    (by decide) fun a b same => by
      cases a <;> cases b <;>
        simp [tag, id, label, actionType?, stdout?, stderr?, output?, status?, results?] at same <;>
        simp [same]

example : shape.tree (.target "prb-1" "//a") =
    .record [(some "kind", .text (some "target")), (some "id", .text (some "prb-1")),
      (some "label", .text (some "//a"))] .closed := rfl

end Problem

namespace Summary

/-! ### Targets and tests -/

def Configured.shape : Shape Configured :=
  .record Configured.json
    [.always "start_time_ms" (·.startTimeMs) .int64, .always "target_kind" (·.targetKind) .text,
      .always "test_size" (·.testSize) (.word .testSize), .always "tag" (·.tag) (.list .text)]
    (fun _ => rfl) (by decide) fun a b same => by
      cases a
      cases b
      simpa using same

def Completed.shape : Shape Completed :=
  .record Completed.json
    [.always "success" (·.success) .bool, .always "end_time_ms" (·.endTimeMs) .int64,
      .always "tag" (·.tag) (.list .text),
      .ifAny "test_timeout_seconds" (·.testTimeoutSeconds) .int64,
      .ifAny "abort_reason" (·.abortReason) (.word .abortReason)]
    (fun ⟨_, _, _, timeout, reason⟩ => by cases timeout <;> cases reason <;> rfl)
    (by decide) fun a b same => by
      cases a
      cases b
      simpa using same

def Target.shape : Shape Target :=
  .record Target.json
    [.always "configuration" (·.configuration) Configured.shape,
      .ifAny "completion" (·.completion) Completed.shape,
      .always "duration_ms" (·.durationMs) .int64, .always "success" (·.success) .bool,
      .always "target_kind" (·.targetKind) .text,
      .always "test_size" (·.testSize) (.word .testSize)]
    (fun ⟨_, completion, _, _, _, _⟩ => by cases completion <;> rfl)
    (by decide) fun a b same => by
      cases a
      cases b
      simpa using same

def TimingChild.shape : Shape TimingChild :=
  .record TimingChild.json
    [.always "name" (·.name) .text, .always "time_ms" (·.timeMs) .int64]
    (fun _ => rfl) (by decide) fun a b same => by
      cases a
      cases b
      simpa using same

def Timing.shape : Shape Timing :=
  .record Timing.json
    [.always "name" (·.name) .text, .always "time_ms" (·.timeMs) .int64,
      .always "child" (·.child) (.list TimingChild.shape)]
    (fun _ => rfl) (by decide) fun a b same => by
      cases a
      cases b
      simpa using same

def Execution.shape : Shape Execution :=
  .record Execution.json
    [.always "strategy" (·.strategy) .text, .always "cached_remotely" (·.cachedRemotely) .bool,
      .always "exit_code" (·.exitCode) .int32, .always "hostname" (·.hostname) .text,
      .ifAny "timing_breakdown" (·.timingBreakdown) Timing.shape]
    (fun ⟨_, _, _, _, timing⟩ => by cases timing <;> rfl) (by decide) fun a b same => by
      cases a
      cases b
      simpa using same

def TestFile.shape : Shape TestFile :=
  .record TestFile.json
    [.always "name" (·.name) .text, .always "file" (·.file) .text,
      .always "digest" (·.digest) .text, .always "length" (·.length) .int64,
      .always "prefix" (·.pathPrefix) (.list .text)]
    (fun _ => rfl) (by decide) fun a b same => by
      cases a
      cases b
      simpa using same

def TestResult.shape : Shape TestResult :=
  .record TestResult.json
    [.always "label" (·.label) .text, .always "run" (·.run) .int32,
      .always "shard" (·.shard) .int32, .always "attempt" (·.attempt) .int32,
      .always "status" (·.status) (.word .testStatus),
      .always "status_details" (·.statusDetails) .text, .always "warning" (·.warning) (.list .text),
      .always "cached_locally" (·.cachedLocally) .bool,
      .ifAny "test_attempt_start" (·.testAttemptStart) .time,
      .always "test_attempt_duration_ms" (·.testAttemptDurationMs) .int64,
      .always "execution_info" (·.executionInfo) Execution.shape,
      .always "test_action_output" (·.testActionOutput) (.list TestFile.shape)]
    (fun ⟨_, _, _, _, _, _, _, _, start, _, _, _⟩ => by cases start <;> rfl)
    (by decide) fun a b same => by
      cases a
      cases b
      simpa using same

def TestSummary.shape : Shape TestSummary :=
  .record TestSummary.json
    [.always "label" (·.label) .text, .always "status" (·.status) (.word .testStatus),
      .always "attempt_count" (·.attemptCount) .int32, .always "run_count" (·.runCount) .int32,
      .always "shard_count" (·.shardCount) .int32,
      .always "total_run_count" (·.totalRunCount) .int32,
      .always "total_num_cached" (·.totalNumCached) .int32,
      .ifAny "first_start_time" (·.firstStartTime) .time,
      .ifAny "last_stop_time" (·.lastStopTime) .time,
      .always "total_run_duration_ms" (·.totalRunDurationMs) .int64]
    (fun ⟨_, _, _, _, _, _, _, first, last, _⟩ => by cases first <;> cases last <;> rfl)
    (by decide) fun a b same => by
      cases a
      cases b
      simpa using same

-- The tally of a test has no record of its own.
def Test.shape : Shape Test :=
  .record Test.json
    [.always "test_summary" (·.summary) TestSummary.shape,
      .always "test_results" (·.results) (.list TestResult.shape),
      .always "cached_locally" (·.tally.cachedLocally) .bool,
      .always "cached_remotely" (·.tally.cachedRemotely) .bool,
      .always "strategy" (·.tally.strategy) .text,
      .always "overall_status" (·.overallStatus) (.word .testStatus),
      .always "duration_ms" (·.durationMs) .int64]
    (fun _ => rfl) (by decide) fun a b same => by
      obtain ⟨_, _, ⟨_, _, _⟩, _, _⟩ := a
      obtain ⟨_, _, ⟨_, _, _⟩, _, _⟩ := b
      simpa [and_assoc] using same

/-! ### Metrics -/

def ActionData.shape : Shape ActionData :=
  .record ActionData.json
    [.always "mnemonic" (·.mnemonic) .text, .always "actions_executed" (·.actionsExecuted) .int64,
      .always "first_started_ms" (·.firstStartedMs) .int64,
      .always "last_ended_ms" (·.lastEndedMs) .int64,
      .always "system_time_ms" (·.systemTimeMs) .int64,
      .always "user_time_ms" (·.userTimeMs) .int64]
    (fun _ => rfl) (by decide) fun a b same => by
      cases a
      cases b
      simpa using same

def RunnerCount.shape : Shape RunnerCount :=
  .record RunnerCount.json
    [.always "name" (·.name) .text, .always "count" (·.count) .int32,
      .always "exec_kind" (·.execKind) .text]
    (fun _ => rfl) (by decide) fun a b same => by
      cases a
      cases b
      simpa using same

def MissDetail.shape : Shape MissDetail :=
  .record MissDetail.json
    [.always "reason" (·.reason) (.word .missReason), .always "count" (·.count) .int32]
    (fun _ => rfl) (by decide) fun a b same => by
      cases a
      cases b
      simpa using same

def ActionCacheStatistics.shape : Shape ActionCacheStatistics :=
  .record ActionCacheStatistics.json
    [.always "size_in_bytes" (·.sizeInBytes) .uint64,
      .always "save_time_in_ms" (·.saveTimeInMs) .uint64, .always "hits" (·.hits) .int32,
      .always "misses" (·.misses) .int32,
      .always "miss_details" (·.missDetails) (.list MissDetail.shape)]
    (fun _ => rfl) (by decide) fun a b same => by
      cases a
      cases b
      simpa using same

def ActionSummary.shape : Shape ActionSummary :=
  .record ActionSummary.json
    [.always "actions_created" (·.actionsCreated) .int64,
      .always "actions_created_not_including_aspects" (·.actionsCreatedNotIncludingAspects) .int64,
      .always "actions_executed" (·.actionsExecuted) .int64,
      .always "action_data" (·.actionData) (.list ActionData.shape),
      .always "runner_count" (·.runnerCount) (.list RunnerCount.shape),
      .always "action_cache_statistics" (·.actionCacheStatistics) ActionCacheStatistics.shape]
    (fun _ => rfl) (by decide) fun a b same => by
      cases a
      cases b
      simpa using same

def GarbageMetrics.shape : Shape GarbageMetrics :=
  .record GarbageMetrics.json
    [.always "type" (·.gcType) .text, .always "garbage_collected" (·.garbageCollected) .int64]
    (fun _ => rfl) (by decide) fun a b same => by
      cases a
      cases b
      simpa using same

def MemoryMetrics.shape : Shape MemoryMetrics :=
  .record MemoryMetrics.json
    [.always "used_heap_size_post_build" (·.usedHeapSizePostBuild) .int64,
      .always "peak_post_gc_heap_size" (·.peakPostGcHeapSize) .int64,
      .always "peak_post_gc_tenured_space_heap_size" (·.peakPostGcTenuredSpaceHeapSize) .int64,
      .always "garbage_metrics" (·.garbageMetrics) (.list GarbageMetrics.shape)]
    (fun _ => rfl) (by decide) fun a b same => by
      cases a
      cases b
      simpa using same

def TargetMetrics.shape : Shape TargetMetrics :=
  .record TargetMetrics.json
    [.always "targets_loaded" (·.targetsLoaded) .int64,
      .always "targets_configured" (·.targetsConfigured) .int64,
      .always "targets_configured_not_including_aspects"
        (·.targetsConfiguredNotIncludingAspects) .int64]
    (fun _ => rfl) (by decide) fun a b same => by
      cases a
      cases b
      simpa using same

def PackageLoadMetrics.shape : Shape PackageLoadMetrics :=
  .record PackageLoadMetrics.json
    [.always "name" (·.name) .text, .always "load_duration_ms" (·.loadDurationMs) .int64,
      .always "num_targets" (·.numTargets) .uint64,
      .always "computation_steps" (·.computationSteps) .uint64,
      .always "num_transitive_loads" (·.numTransitiveLoads) .uint64,
      .always "package_overhead" (·.packageOverhead) .uint64]
    (fun _ => rfl) (by decide) fun a b same => by
      cases a
      cases b
      simpa using same

def PackageMetrics.shape : Shape PackageMetrics :=
  .record PackageMetrics.json
    [.always "packages_loaded" (·.packagesLoaded) .int64,
      .always "package_load_metrics" (·.packageLoadMetrics) (.list PackageLoadMetrics.shape)]
    (fun _ => rfl) (by decide) fun a b same => by
      cases a
      cases b
      simpa using same

def TimingMetrics.shape : Shape TimingMetrics :=
  .record TimingMetrics.json
    [.always "cpu_time_in_ms" (·.cpuTimeInMs) .int64,
      .always "wall_time_in_ms" (·.wallTimeInMs) .int64,
      .always "analysis_phase_time_in_ms" (·.analysisPhaseTimeInMs) .int64,
      .always "execution_phase_time_in_ms" (·.executionPhaseTimeInMs) .int64]
    (fun _ => rfl) (by decide) fun a b same => by
      cases a
      cases b
      simpa using same

def FilesMetric.shape : Shape FilesMetric :=
  .record FilesMetric.json
    [.always "size_in_bytes" (·.sizeInBytes) .int64, .always "count" (·.count) .int32]
    (fun _ => rfl) (by decide) fun a b same => by
      cases a
      cases b
      simpa using same

def ArtifactMetrics.shape : Shape ArtifactMetrics :=
  .record ArtifactMetrics.json
    [.always "source_artifacts_read" (·.sourceArtifactsRead) FilesMetric.shape,
      .always "output_artifacts_seen" (·.outputArtifactsSeen) FilesMetric.shape,
      .always "output_artifacts_from_action_cache"
        (·.outputArtifactsFromActionCache) FilesMetric.shape,
      .always "top_level_artifacts" (·.topLevelArtifacts) FilesMetric.shape]
    (fun _ => rfl) (by decide) fun a b same => by
      cases a
      cases b
      simpa using same

def CumulativeMetrics.shape : Shape CumulativeMetrics :=
  .record CumulativeMetrics.json
    [.always "num_analyses" (·.numAnalyses) .int32, .always "num_builds" (·.numBuilds) .int32]
    (fun _ => rfl) (by decide) fun a b same => by
      cases a
      cases b
      simpa using same

def NetworkMetrics.shape : Shape NetworkMetrics :=
  .record NetworkMetrics.json
    [.always "bytes_sent" (·.bytesSent) .uint64, .always "bytes_recv" (·.bytesRecv) .uint64,
      .always "packets_sent" (·.packetsSent) .uint64,
      .always "packets_recv" (·.packetsRecv) .uint64,
      .always "peak_bytes_sent_per_sec" (·.peakBytesSentPerSec) .uint64,
      .always "peak_bytes_recv_per_sec" (·.peakBytesRecvPerSec) .uint64,
      .always "peak_packets_sent_per_sec" (·.peakPacketsSentPerSec) .uint64,
      .always "peak_packets_recv_per_sec" (·.peakPacketsRecvPerSec) .uint64]
    (fun _ => rfl) (by decide) fun a b same => by
      cases a
      cases b
      simpa using same

def BuildGraphMetrics.shape : Shape BuildGraphMetrics :=
  .record BuildGraphMetrics.json
    [.always "action_lookup_value_count" (·.actionLookupValueCount) .int32,
      .always "action_lookup_value_count_not_including_aspects"
        (·.actionLookupValueCountNotIncludingAspects) .int32,
      .always "action_count" (·.actionCount) .int32,
      .always "action_count_not_including_aspects" (·.actionCountNotIncludingAspects) .int32,
      .always "input_file_configured_target_count" (·.inputFileConfiguredTargetCount) .int32,
      .always "output_file_configured_target_count" (·.outputFileConfiguredTargetCount) .int32,
      .always "other_configured_target_count" (·.otherConfiguredTargetCount) .int32,
      .always "output_artifact_count" (·.outputArtifactCount) .int32,
      .always "post_invocation_skyframe_node_count" (·.postInvocationSkyframeNodeCount) .int32]
    (fun _ => rfl) (by decide) fun a b same => by
      cases a
      cases b
      simpa using same

def Metrics.shape : Shape Metrics :=
  .record Metrics.json
    [.always "action_summary" (·.actionSummary) ActionSummary.shape,
      .always "memory_metrics" (·.memoryMetrics) MemoryMetrics.shape,
      .always "target_metrics" (·.targetMetrics) TargetMetrics.shape,
      .always "package_metrics" (·.packageMetrics) PackageMetrics.shape,
      .always "timing_metrics" (·.timingMetrics) TimingMetrics.shape,
      .always "artifact_metrics" (·.artifactMetrics) ArtifactMetrics.shape,
      .always "cumulative_metrics" (·.cumulativeMetrics) CumulativeMetrics.shape,
      .always "network_metrics" (·.networkMetrics) NetworkMetrics.shape,
      .always "build_graph_metrics" (·.buildGraphMetrics) BuildGraphMetrics.shape]
    (fun _ => rfl) (by decide) fun a b same => by
      cases a
      cases b
      simpa using same

/-! ### The summary -/

def ExitCode.shape : Shape ExitCode :=
  .record ExitCode.json
    [.always "code" (·.code) .int32, .always "name" (·.name) .text]
    (fun _ => rfl) (by decide) fun a b same => by
      cases a
      cases b
      simpa using same

def CommandLine.shape : Shape CommandLine :=
  .record CommandLine.json
    [.always "executable" (·.executable) .text, .always "command" (·.command) .text,
      .always "residual" (·.residual) .text, .always "options" (·.options) .text]
    (fun _ => rfl) (by decide) fun a b same => by
      cases a
      cases b
      simpa using same

def shape : Shape Summary :=
  .record Summary.json
    [.always "invocation_id" (·.invocationId) .text, .always "bazel_version" (·.bazelVersion) .text,
      .ifAny "started_at" (·.startedAt) .time, .ifAny "ended_at" (·.endedAt) .time,
      .ifAny "exit_code" (·.exitCode) ExitCode.shape, .always "env_vars" (·.envVars) (.map .text),
      .always "command_line" (·.commandLine) CommandLine.shape,
      .always "step_label" (·.stepLabel) .text, .always "user_email" (·.userEmail) .text,
      .always "user_ldap" (·.userLdap) .text, .always "cpu" (·.cpu) .text,
      .always "platform_name" (·.platformName) .text,
      .always "configuration_mnemonic" (·.configurationMnemonic) .text,
      .always "num_fetches" (·.numFetches) .int64, .ifAny "change_number" (·.changeNumber) .int64,
      .ifAny "patchset_number" (·.patchsetNumber) .int64, .always "build_url" (·.buildUrl) .text,
      .ifAny "build_uuid" (·.buildUuid) .uuid, .always "targets" (·.targets) (.map Target.shape),
      .always "tests" (·.tests) (.map Test.shape), .always "metrics" (·.metrics) Metrics.shape,
      .always "problems" (·.problems) (.list Problem.shape),
      .always "event_file_url" (·.eventFileUrl) .text,
      .always "related_files" (·.relatedFiles) (.map .text),
      .always "build_logs" (·.buildLogs) .text, .always "bep_completed" (·.bepCompleted) .bool]
    (fun s => by
      simp only [json, members, Shape.Member.jsons_always, Shape.Member.jsons_if_any,
        List.append_assoc, List.cons_append, List.nil_append]
      rfl)
    (by decide) fun a b same => by
      cases a
      cases b
      simpa using same

end Summary

end BuildDigest
