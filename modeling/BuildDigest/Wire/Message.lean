import BuildDigest.KeyMap
import BuildDigest.Time.Duration
import BuildDigest.Time.Timestamp
import BuildDigest.Vocabulary

set_option autoImplicit false

namespace BuildDigest.Wire

structure File where
  name : String := ""
  uri : String := ""
  pathPrefix : List String := []
  digest : String := ""
  length : Int64 := 0
  deriving DecidableEq

structure Started where
  uuid : String := ""
  startTime : Option Timestamp := none
  -- Counts only when there is no `startTime`.
  startTimeMillis : Int64 := 0
  buildToolVersion : String := ""

structure Metadata where
  metadata : KeyMap String := ∅

structure ExitCode where
  name : String := ""
  code : Int32 := 0
  deriving DecidableEq

structure Finished where
  exitCode : Option ExitCode := none
  finishTime : Option Timestamp := none
  finishTimeMillis : Int64 := 0

structure Configuration where
  mnemonic : String := ""
  platformName : String := ""
  cpu : String := ""

structure Fetch where
  url : String := ""
  success : Bool := false

structure OptionsParsed where
  explicitCmdLine : List String := []

structure ToolLogs where
  log : List File := []

structure Progress where
  stdout : String := ""
  stderr : String := ""

structure ChunkList where
  chunk : List String := []

structure CommandOption where
  combinedForm : String := ""
  optionName : String := ""
  optionValue : String := ""

structure OptionList where
  option : List CommandOption := []

structure CommandSection where
  sectionLabel : String := ""
  chunkList : Option ChunkList := none
  optionList : Option OptionList := none

structure CommandLine where
  commandLineLabel : String := ""
  sections : List CommandSection := []

structure TargetConfigured where
  label : String := ""
  targetKind : String := ""
  testSize : TestSize := .unknown
  tag : List String := []

structure Aborted where
  reason : AbortReason := .unknown
  deriving DecidableEq

structure TargetCompleted where
  label : String := ""
  success : Bool := false
  tag : List String := []
  testTimeout : Option Duration := none
  aborted : Option Aborted := none

structure ActionExecuted where
  label : String := ""
  success : Bool := false
  actionType : String := ""
  stdout : Option File := none
  stderr : Option File := none

structure Timing where
  name : String := ""
  time : Duration := {}
  child : List Timing := []

structure Execution where
  strategy : String := ""
  cachedRemotely : Bool := false
  exitCode : Int32 := 0
  hostname : String := ""
  timingBreakdown : Option Timing := none

structure TestResult where
  label : String := ""
  run : Int32 := 0
  shard : Int32 := 0
  attempt : Int32 := 0
  status : TestStatus := .noStatus
  statusDetails : String := ""
  cachedLocally : Bool := false
  warning : List String := []
  testAttemptStart : Option Timestamp := none
  testAttemptDuration : Duration := {}
  executionInfo : Option Execution := none
  testActionOutput : List File := []

structure TestSummary where
  label : String := ""
  overallStatus : TestStatus := .noStatus
  totalRunCount : Int32 := 0
  runCount : Int32 := 0
  attemptCount : Int32 := 0
  shardCount : Int32 := 0
  totalNumCached : Int32 := 0
  firstStartTime : Option Timestamp := none
  lastStopTime : Option Timestamp := none
  totalRunDuration : Duration := {}

structure ActionData where
  mnemonic : String := ""
  actionsExecuted : Int64 := 0
  firstStartedMs : Int64 := 0
  lastEndedMs : Int64 := 0
  systemTime : Duration := {}
  userTime : Duration := {}

structure RunnerCount where
  name : String := ""
  count : Int32 := 0
  execKind : String := ""

structure MissDetail where
  reason : MissReason := .differentActionKey
  count : Int32 := 0

structure ActionCacheStatistics where
  sizeInBytes : UInt64 := 0
  saveTimeInMs : UInt64 := 0
  hits : Int32 := 0
  misses : Int32 := 0
  missDetails : List MissDetail := []

structure ActionSummary where
  actionsCreated : Int64 := 0
  actionsCreatedNotIncludingAspects : Int64 := 0
  actionsExecuted : Int64 := 0
  actionData : List ActionData := []
  runnerCount : List RunnerCount := []
  actionCacheStatistics : Option ActionCacheStatistics := none

structure GarbageMetrics where
  gcType : String := ""
  garbageCollected : Int64 := 0

structure MemoryMetrics where
  usedHeapSizePostBuild : Int64 := 0
  peakPostGcHeapSize : Int64 := 0
  peakPostGcTenuredSpaceHeapSize : Int64 := 0
  garbageMetrics : List GarbageMetrics := []

structure TargetMetrics where
  targetsLoaded : Int64 := 0
  targetsConfigured : Int64 := 0
  targetsConfiguredNotIncludingAspects : Int64 := 0

structure PackageLoadMetrics where
  name : Option String := none
  loadDuration : Option Duration := none
  numTargets : Option UInt64 := none
  computationSteps : Option UInt64 := none
  numTransitiveLoads : Option UInt64 := none
  packageOverhead : Option UInt64 := none

structure PackageMetrics where
  packagesLoaded : Int64 := 0
  packageLoadMetrics : List PackageLoadMetrics := []

structure TimingMetrics where
  cpuTimeInMs : Int64 := 0
  wallTimeInMs : Int64 := 0
  analysisPhaseTimeInMs : Int64 := 0
  executionPhaseTimeInMs : Int64 := 0

structure FilesMetric where
  sizeInBytes : Int64 := 0
  count : Int32 := 0

structure ArtifactMetrics where
  sourceArtifactsRead : Option FilesMetric := none
  outputArtifactsSeen : Option FilesMetric := none
  outputArtifactsFromActionCache : Option FilesMetric := none
  topLevelArtifacts : Option FilesMetric := none

structure CumulativeMetrics where
  numAnalyses : Int32 := 0
  numBuilds : Int32 := 0

structure NetworkStats where
  bytesSent : UInt64 := 0
  bytesRecv : UInt64 := 0
  packetsSent : UInt64 := 0
  packetsRecv : UInt64 := 0
  peakBytesSentPerSec : UInt64 := 0
  peakBytesRecvPerSec : UInt64 := 0
  peakPacketsSentPerSec : UInt64 := 0
  peakPacketsRecvPerSec : UInt64 := 0

structure NetworkMetrics where
  systemNetworkStats : Option NetworkStats := none

structure BuildGraphMetrics where
  actionLookupValueCount : Int32 := 0
  actionLookupValueCountNotIncludingAspects : Int32 := 0
  actionCount : Int32 := 0
  actionCountNotIncludingAspects : Int32 := 0
  inputFileConfiguredTargetCount : Int32 := 0
  outputFileConfiguredTargetCount : Int32 := 0
  otherConfiguredTargetCount : Int32 := 0
  outputArtifactCount : Int32 := 0
  postInvocationSkyframeNodeCount : Int32 := 0

structure Metrics where
  actionSummary : Option ActionSummary := none
  memoryMetrics : Option MemoryMetrics := none
  targetMetrics : Option TargetMetrics := none
  packageMetrics : Option PackageMetrics := none
  timingMetrics : Option TimingMetrics := none
  artifactMetrics : Option ArtifactMetrics := none
  cumulativeMetrics : Option CumulativeMetrics := none
  networkMetrics : Option NetworkMetrics := none
  buildGraphMetrics : Option BuildGraphMetrics := none

end BuildDigest.Wire
