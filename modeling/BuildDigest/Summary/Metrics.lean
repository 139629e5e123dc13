import BuildDigest.Json.Basic
import BuildDigest.Wire.Message

set_option autoImplicit false

namespace BuildDigest.Summary

structure ActionData where
  mnemonic : String := ""
  actionsExecuted : Int64 := 0
  firstStartedMs : Int64 := 0
  lastEndedMs : Int64 := 0
  systemTimeMs : Int64 := 0
  userTimeMs : Int64 := 0
  deriving DecidableEq

structure RunnerCount where
  name : String := ""
  count : Int32 := 0
  execKind : String := ""
  deriving DecidableEq

structure MissDetail where
  reason : MissReason
  count : Int32
  deriving DecidableEq

structure ActionCacheStatistics where
  sizeInBytes : UInt64 := 0
  saveTimeInMs : UInt64 := 0
  hits : Int32 := 0
  misses : Int32 := 0
  missDetails : List MissDetail := []
  deriving DecidableEq

structure ActionSummary where
  actionsCreated : Int64 := 0
  actionsCreatedNotIncludingAspects : Int64 := 0
  actionsExecuted : Int64 := 0
  actionData : List ActionData := []
  runnerCount : List RunnerCount := []
  actionCacheStatistics : ActionCacheStatistics := {}
  deriving DecidableEq

structure GarbageMetrics where
  gcType : String := ""
  garbageCollected : Int64 := 0
  deriving DecidableEq

structure MemoryMetrics where
  usedHeapSizePostBuild : Int64 := 0
  peakPostGcHeapSize : Int64 := 0
  peakPostGcTenuredSpaceHeapSize : Int64 := 0
  garbageMetrics : List GarbageMetrics := []
  deriving DecidableEq

structure TargetMetrics where
  targetsLoaded : Int64 := 0
  targetsConfigured : Int64 := 0
  targetsConfiguredNotIncludingAspects : Int64 := 0
  deriving DecidableEq

structure PackageLoadMetrics where
  name : String := ""
  loadDurationMs : Int64 := 0
  numTargets : UInt64 := 0
  computationSteps : UInt64 := 0
  numTransitiveLoads : UInt64 := 0
  packageOverhead : UInt64 := 0
  deriving DecidableEq

structure PackageMetrics where
  packagesLoaded : Int64 := 0
  packageLoadMetrics : List PackageLoadMetrics := []
  deriving DecidableEq

structure TimingMetrics where
  cpuTimeInMs : Int64 := 0
  wallTimeInMs : Int64 := 0
  analysisPhaseTimeInMs : Int64 := 0
  executionPhaseTimeInMs : Int64 := 0
  deriving DecidableEq

structure FilesMetric where
  sizeInBytes : Int64 := 0
  count : Int32 := 0
  deriving DecidableEq

structure ArtifactMetrics where
  sourceArtifactsRead : FilesMetric := {}
  outputArtifactsSeen : FilesMetric := {}
  outputArtifactsFromActionCache : FilesMetric := {}
  topLevelArtifacts : FilesMetric := {}
  deriving DecidableEq

structure CumulativeMetrics where
  numAnalyses : Int32 := 0
  numBuilds : Int32 := 0
  deriving DecidableEq

structure NetworkMetrics where
  bytesSent : UInt64 := 0
  bytesRecv : UInt64 := 0
  packetsSent : UInt64 := 0
  packetsRecv : UInt64 := 0
  peakBytesSentPerSec : UInt64 := 0
  peakBytesRecvPerSec : UInt64 := 0
  peakPacketsSentPerSec : UInt64 := 0
  peakPacketsRecvPerSec : UInt64 := 0
  deriving DecidableEq

structure BuildGraphMetrics where
  actionLookupValueCount : Int32 := 0
  actionLookupValueCountNotIncludingAspects : Int32 := 0
  actionCount : Int32 := 0
  actionCountNotIncludingAspects : Int32 := 0
  inputFileConfiguredTargetCount : Int32 := 0
  outputFileConfiguredTargetCount : Int32 := 0
  otherConfiguredTargetCount : Int32 := 0
  outputArtifactCount : Int32 := 0
  postInvocationSkyframeNodeCount : Int32 := 0
  deriving DecidableEq

structure Metrics where
  actionSummary : ActionSummary := {}
  memoryMetrics : MemoryMetrics := {}
  targetMetrics : TargetMetrics := {}
  packageMetrics : PackageMetrics := {}
  timingMetrics : TimingMetrics := {}
  artifactMetrics : ArtifactMetrics := {}
  cumulativeMetrics : CumulativeMetrics := {}
  networkMetrics : NetworkMetrics := {}
  buildGraphMetrics : BuildGraphMetrics := {}
  deriving DecidableEq

def ActionData.of (m : Wire.ActionData) : ActionData where
  mnemonic := m.mnemonic
  actionsExecuted := m.actionsExecuted
  firstStartedMs := m.firstStartedMs
  lastEndedMs := m.lastEndedMs
  systemTimeMs := m.systemTime.millis
  userTimeMs := m.userTime.millis

def RunnerCount.of (m : Wire.RunnerCount) : RunnerCount where
  name := m.name
  count := m.count
  execKind := m.execKind

def MissDetail.of (m : Wire.MissDetail) : MissDetail where
  reason := m.reason
  count := m.count

def ActionCacheStatistics.of (m : Wire.ActionCacheStatistics) : ActionCacheStatistics where
  sizeInBytes := m.sizeInBytes
  saveTimeInMs := m.saveTimeInMs
  hits := m.hits
  misses := m.misses
  missDetails := m.missDetails.map MissDetail.of

def ActionSummary.of (m : Wire.ActionSummary) : ActionSummary where
  actionsCreated := m.actionsCreated
  actionsCreatedNotIncludingAspects := m.actionsCreatedNotIncludingAspects
  actionsExecuted := m.actionsExecuted
  actionData := m.actionData.map ActionData.of
  runnerCount := m.runnerCount.map RunnerCount.of
  actionCacheStatistics := (m.actionCacheStatistics.map ActionCacheStatistics.of).getD {}

def GarbageMetrics.of (m : Wire.GarbageMetrics) : GarbageMetrics where
  gcType := m.gcType
  garbageCollected := m.garbageCollected

def MemoryMetrics.of (m : Wire.MemoryMetrics) : MemoryMetrics where
  usedHeapSizePostBuild := m.usedHeapSizePostBuild
  peakPostGcHeapSize := m.peakPostGcHeapSize
  peakPostGcTenuredSpaceHeapSize := m.peakPostGcTenuredSpaceHeapSize
  garbageMetrics := m.garbageMetrics.map GarbageMetrics.of

def TargetMetrics.of (m : Wire.TargetMetrics) : TargetMetrics where
  targetsLoaded := m.targetsLoaded
  targetsConfigured := m.targetsConfigured
  targetsConfiguredNotIncludingAspects := m.targetsConfiguredNotIncludingAspects

def PackageLoadMetrics.of (m : Wire.PackageLoadMetrics) : PackageLoadMetrics where
  name := m.name.getD ""
  loadDurationMs := (m.loadDuration.map Duration.millis).getD 0
  numTargets := m.numTargets.getD 0
  computationSteps := m.computationSteps.getD 0
  numTransitiveLoads := m.numTransitiveLoads.getD 0
  packageOverhead := m.packageOverhead.getD 0

def PackageMetrics.of (m : Wire.PackageMetrics) : PackageMetrics where
  packagesLoaded := m.packagesLoaded
  packageLoadMetrics := m.packageLoadMetrics.map PackageLoadMetrics.of

def TimingMetrics.of (m : Wire.TimingMetrics) : TimingMetrics where
  cpuTimeInMs := m.cpuTimeInMs
  wallTimeInMs := m.wallTimeInMs
  analysisPhaseTimeInMs := m.analysisPhaseTimeInMs
  executionPhaseTimeInMs := m.executionPhaseTimeInMs

def FilesMetric.of (m : Wire.FilesMetric) : FilesMetric where
  sizeInBytes := m.sizeInBytes
  count := m.count

def ArtifactMetrics.of (m : Wire.ArtifactMetrics) : ArtifactMetrics where
  sourceArtifactsRead := (m.sourceArtifactsRead.map FilesMetric.of).getD {}
  outputArtifactsSeen := (m.outputArtifactsSeen.map FilesMetric.of).getD {}
  outputArtifactsFromActionCache := (m.outputArtifactsFromActionCache.map FilesMetric.of).getD {}
  topLevelArtifacts := (m.topLevelArtifacts.map FilesMetric.of).getD {}

def CumulativeMetrics.of (m : Wire.CumulativeMetrics) : CumulativeMetrics where
  numAnalyses := m.numAnalyses
  numBuilds := m.numBuilds

def NetworkMetrics.of (m : Wire.NetworkStats) : NetworkMetrics where
  bytesSent := m.bytesSent
  bytesRecv := m.bytesRecv
  packetsSent := m.packetsSent
  packetsRecv := m.packetsRecv
  peakBytesSentPerSec := m.peakBytesSentPerSec
  peakBytesRecvPerSec := m.peakBytesRecvPerSec
  peakPacketsSentPerSec := m.peakPacketsSentPerSec
  peakPacketsRecvPerSec := m.peakPacketsRecvPerSec

def BuildGraphMetrics.of (m : Wire.BuildGraphMetrics) : BuildGraphMetrics where
  actionLookupValueCount := m.actionLookupValueCount
  actionLookupValueCountNotIncludingAspects := m.actionLookupValueCountNotIncludingAspects
  actionCount := m.actionCount
  actionCountNotIncludingAspects := m.actionCountNotIncludingAspects
  inputFileConfiguredTargetCount := m.inputFileConfiguredTargetCount
  outputFileConfiguredTargetCount := m.outputFileConfiguredTargetCount
  otherConfiguredTargetCount := m.otherConfiguredTargetCount
  outputArtifactCount := m.outputArtifactCount
  postInvocationSkyframeNodeCount := m.postInvocationSkyframeNodeCount

def Metrics.of (m : Wire.Metrics) : Metrics where
  actionSummary := (m.actionSummary.map ActionSummary.of).getD {}
  memoryMetrics := (m.memoryMetrics.map MemoryMetrics.of).getD {}
  targetMetrics := (m.targetMetrics.map TargetMetrics.of).getD {}
  packageMetrics := (m.packageMetrics.map PackageMetrics.of).getD {}
  timingMetrics := (m.timingMetrics.map TimingMetrics.of).getD {}
  artifactMetrics := (m.artifactMetrics.map ArtifactMetrics.of).getD {}
  cumulativeMetrics := (m.cumulativeMetrics.map CumulativeMetrics.of).getD {}
  networkMetrics := ((m.networkMetrics.bind (·.systemNetworkStats)).map NetworkMetrics.of).getD {}
  buildGraphMetrics := (m.buildGraphMetrics.map BuildGraphMetrics.of).getD {}

def ActionData.json (m : ActionData) : Json :=
  .record [("mnemonic", .str m.mnemonic), ("actions_executed", .int m.actionsExecuted.toInt),
    ("first_started_ms", .int m.firstStartedMs.toInt),
    ("last_ended_ms", .int m.lastEndedMs.toInt),
    ("system_time_ms", .int m.systemTimeMs.toInt), ("user_time_ms", .int m.userTimeMs.toInt)]

def RunnerCount.json (m : RunnerCount) : Json :=
  .record [("name", .str m.name), ("count", .int m.count.toInt), ("exec_kind", .str m.execKind)]

def MissDetail.json (m : MissDetail) : Json :=
  .record [("reason", .str (Word.name m.reason)), ("count", .int m.count.toInt)]

def ActionCacheStatistics.json (m : ActionCacheStatistics) : Json :=
  .record [("size_in_bytes", .int m.sizeInBytes.toNat),
    ("save_time_in_ms", .int m.saveTimeInMs.toNat), ("hits", .int m.hits.toInt),
    ("misses", .int m.misses.toInt), ("miss_details", .list (m.missDetails.map MissDetail.json))]

def ActionSummary.json (m : ActionSummary) : Json :=
  .record [("actions_created", .int m.actionsCreated.toInt),
    ("actions_created_not_including_aspects", .int m.actionsCreatedNotIncludingAspects.toInt),
    ("actions_executed", .int m.actionsExecuted.toInt),
    ("action_data", .list (m.actionData.map ActionData.json)),
    ("runner_count", .list (m.runnerCount.map RunnerCount.json)),
    ("action_cache_statistics", m.actionCacheStatistics.json)]

def GarbageMetrics.json (m : GarbageMetrics) : Json :=
  .record [("type", .str m.gcType), ("garbage_collected", .int m.garbageCollected.toInt)]

def MemoryMetrics.json (m : MemoryMetrics) : Json :=
  .record [("used_heap_size_post_build", .int m.usedHeapSizePostBuild.toInt),
    ("peak_post_gc_heap_size", .int m.peakPostGcHeapSize.toInt),
    ("peak_post_gc_tenured_space_heap_size", .int m.peakPostGcTenuredSpaceHeapSize.toInt),
    ("garbage_metrics", .list (m.garbageMetrics.map GarbageMetrics.json))]

def TargetMetrics.json (m : TargetMetrics) : Json :=
  .record [("targets_loaded", .int m.targetsLoaded.toInt),
    ("targets_configured", .int m.targetsConfigured.toInt),
    ("targets_configured_not_including_aspects",
      .int m.targetsConfiguredNotIncludingAspects.toInt)]

def PackageLoadMetrics.json (m : PackageLoadMetrics) : Json :=
  .record [("name", .str m.name), ("load_duration_ms", .int m.loadDurationMs.toInt),
    ("num_targets", .int m.numTargets.toNat), ("computation_steps", .int m.computationSteps.toNat),
    ("num_transitive_loads", .int m.numTransitiveLoads.toNat),
    ("package_overhead", .int m.packageOverhead.toNat)]

def PackageMetrics.json (m : PackageMetrics) : Json :=
  .record [("packages_loaded", .int m.packagesLoaded.toInt),
    ("package_load_metrics", .list (m.packageLoadMetrics.map PackageLoadMetrics.json))]

def TimingMetrics.json (m : TimingMetrics) : Json :=
  .record [("cpu_time_in_ms", .int m.cpuTimeInMs.toInt),
    ("wall_time_in_ms", .int m.wallTimeInMs.toInt),
    ("analysis_phase_time_in_ms", .int m.analysisPhaseTimeInMs.toInt),
    ("execution_phase_time_in_ms", .int m.executionPhaseTimeInMs.toInt)]

def FilesMetric.json (m : FilesMetric) : Json :=
  .record [("size_in_bytes", .int m.sizeInBytes.toInt), ("count", .int m.count.toInt)]

def ArtifactMetrics.json (m : ArtifactMetrics) : Json :=
  .record [("source_artifacts_read", m.sourceArtifactsRead.json),
    ("output_artifacts_seen", m.outputArtifactsSeen.json),
    ("output_artifacts_from_action_cache", m.outputArtifactsFromActionCache.json),
    ("top_level_artifacts", m.topLevelArtifacts.json)]

def CumulativeMetrics.json (m : CumulativeMetrics) : Json :=
  .record [("num_analyses", .int m.numAnalyses.toInt), ("num_builds", .int m.numBuilds.toInt)]

def NetworkMetrics.json (m : NetworkMetrics) : Json :=
  .record [("bytes_sent", .int m.bytesSent.toNat), ("bytes_recv", .int m.bytesRecv.toNat),
    ("packets_sent", .int m.packetsSent.toNat), ("packets_recv", .int m.packetsRecv.toNat),
    ("peak_bytes_sent_per_sec", .int m.peakBytesSentPerSec.toNat),
    ("peak_bytes_recv_per_sec", .int m.peakBytesRecvPerSec.toNat),
    ("peak_packets_sent_per_sec", .int m.peakPacketsSentPerSec.toNat),
    ("peak_packets_recv_per_sec", .int m.peakPacketsRecvPerSec.toNat)]

def BuildGraphMetrics.json (m : BuildGraphMetrics) : Json :=
  .record [("action_lookup_value_count", .int m.actionLookupValueCount.toInt),
    ("action_lookup_value_count_not_including_aspects",
      .int m.actionLookupValueCountNotIncludingAspects.toInt),
    ("action_count", .int m.actionCount.toInt),
    ("action_count_not_including_aspects", .int m.actionCountNotIncludingAspects.toInt),
    ("input_file_configured_target_count", .int m.inputFileConfiguredTargetCount.toInt),
    ("output_file_configured_target_count", .int m.outputFileConfiguredTargetCount.toInt),
    ("other_configured_target_count", .int m.otherConfiguredTargetCount.toInt),
    ("output_artifact_count", .int m.outputArtifactCount.toInt),
    ("post_invocation_skyframe_node_count", .int m.postInvocationSkyframeNodeCount.toInt)]

def Metrics.json (m : Metrics) : Json :=
  .record [("action_summary", m.actionSummary.json), ("memory_metrics", m.memoryMetrics.json),
    ("target_metrics", m.targetMetrics.json), ("package_metrics", m.packageMetrics.json),
    ("timing_metrics", m.timingMetrics.json), ("artifact_metrics", m.artifactMetrics.json),
    ("cumulative_metrics", m.cumulativeMetrics.json), ("network_metrics", m.networkMetrics.json),
    ("build_graph_metrics", m.buildGraphMetrics.json)]

end BuildDigest.Summary
