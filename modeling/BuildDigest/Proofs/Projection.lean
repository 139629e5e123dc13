import BuildDigest.Proofs.Durations
import BuildDigest.Summary.Metrics
import Mathlib.Data.List.Forall2

set_option autoImplicit false

namespace BuildDigest

namespace Summary

def ActionData.message (m : ActionData) : Wire.ActionData where
  mnemonic := m.mnemonic
  actionsExecuted := m.actionsExecuted
  firstStartedMs := m.firstStartedMs
  lastEndedMs := m.lastEndedMs
  systemTime := .ofMillis m.systemTimeMs
  userTime := .ofMillis m.userTimeMs

theorem ActionData.of_message (m : ActionData) : of m.message = m := by
  simp only [of, message, Duration.millis_of_millis]

def RunnerCount.message (m : RunnerCount) : Wire.RunnerCount where
  name := m.name
  count := m.count
  execKind := m.execKind

theorem RunnerCount.of_message (m : RunnerCount) : of m.message = m := rfl

def MissDetail.message (m : MissDetail) : Wire.MissDetail where
  reason := m.reason
  count := m.count

theorem MissDetail.of_message (m : MissDetail) : of m.message = m := rfl

def ActionCacheStatistics.message (m : ActionCacheStatistics) : Wire.ActionCacheStatistics where
  sizeInBytes := m.sizeInBytes
  saveTimeInMs := m.saveTimeInMs
  hits := m.hits
  misses := m.misses
  missDetails := m.missDetails.map MissDetail.message

theorem ActionCacheStatistics.of_message (m : ActionCacheStatistics) : of m.message = m := by
  have details := Function.LeftInverse.list_map MissDetail.of_message m.missDetails
  simp only [of, message, details]

def ActionSummary.message (m : ActionSummary) : Wire.ActionSummary where
  actionsCreated := m.actionsCreated
  actionsCreatedNotIncludingAspects := m.actionsCreatedNotIncludingAspects
  actionsExecuted := m.actionsExecuted
  actionData := m.actionData.map ActionData.message
  runnerCount := m.runnerCount.map RunnerCount.message
  actionCacheStatistics := some m.actionCacheStatistics.message

theorem ActionSummary.of_message (m : ActionSummary) : of m.message = m := by
  have data := Function.LeftInverse.list_map ActionData.of_message m.actionData
  have counts := Function.LeftInverse.list_map RunnerCount.of_message m.runnerCount
  simp only [of, message, data, counts, Option.map_some, Option.getD_some,
    ActionCacheStatistics.of_message]

def GarbageMetrics.message (m : GarbageMetrics) : Wire.GarbageMetrics where
  gcType := m.gcType
  garbageCollected := m.garbageCollected

theorem GarbageMetrics.of_message (m : GarbageMetrics) : of m.message = m := rfl

def MemoryMetrics.message (m : MemoryMetrics) : Wire.MemoryMetrics where
  usedHeapSizePostBuild := m.usedHeapSizePostBuild
  peakPostGcHeapSize := m.peakPostGcHeapSize
  peakPostGcTenuredSpaceHeapSize := m.peakPostGcTenuredSpaceHeapSize
  garbageMetrics := m.garbageMetrics.map GarbageMetrics.message

theorem MemoryMetrics.of_message (m : MemoryMetrics) : of m.message = m := by
  have garbage := Function.LeftInverse.list_map GarbageMetrics.of_message m.garbageMetrics
  simp only [of, message, garbage]

def TargetMetrics.message (m : TargetMetrics) : Wire.TargetMetrics where
  targetsLoaded := m.targetsLoaded
  targetsConfigured := m.targetsConfigured
  targetsConfiguredNotIncludingAspects := m.targetsConfiguredNotIncludingAspects

def PackageLoadMetrics.message (m : PackageLoadMetrics) : Wire.PackageLoadMetrics where
  name := some m.name
  loadDuration := some (.ofMillis m.loadDurationMs)
  numTargets := some m.numTargets
  computationSteps := some m.computationSteps
  numTransitiveLoads := some m.numTransitiveLoads
  packageOverhead := some m.packageOverhead

theorem PackageLoadMetrics.of_message (m : PackageLoadMetrics) : of m.message = m := by
  simp only [of, message, Option.map_some, Option.getD_some, Duration.millis_of_millis]

def PackageMetrics.message (m : PackageMetrics) : Wire.PackageMetrics where
  packagesLoaded := m.packagesLoaded
  packageLoadMetrics := m.packageLoadMetrics.map PackageLoadMetrics.message

theorem PackageMetrics.of_message (m : PackageMetrics) : of m.message = m := by
  have loads := Function.LeftInverse.list_map PackageLoadMetrics.of_message m.packageLoadMetrics
  simp only [of, message, loads]

def TimingMetrics.message (m : TimingMetrics) : Wire.TimingMetrics where
  cpuTimeInMs := m.cpuTimeInMs
  wallTimeInMs := m.wallTimeInMs
  analysisPhaseTimeInMs := m.analysisPhaseTimeInMs
  executionPhaseTimeInMs := m.executionPhaseTimeInMs

def FilesMetric.message (m : FilesMetric) : Wire.FilesMetric where
  sizeInBytes := m.sizeInBytes
  count := m.count

def ArtifactMetrics.message (m : ArtifactMetrics) : Wire.ArtifactMetrics where
  sourceArtifactsRead := some m.sourceArtifactsRead.message
  outputArtifactsSeen := some m.outputArtifactsSeen.message
  outputArtifactsFromActionCache := some m.outputArtifactsFromActionCache.message
  topLevelArtifacts := some m.topLevelArtifacts.message

def CumulativeMetrics.message (m : CumulativeMetrics) : Wire.CumulativeMetrics where
  numAnalyses := m.numAnalyses
  numBuilds := m.numBuilds

def NetworkMetrics.message (m : NetworkMetrics) : Wire.NetworkStats where
  bytesSent := m.bytesSent
  bytesRecv := m.bytesRecv
  packetsSent := m.packetsSent
  packetsRecv := m.packetsRecv
  peakBytesSentPerSec := m.peakBytesSentPerSec
  peakBytesRecvPerSec := m.peakBytesRecvPerSec
  peakPacketsSentPerSec := m.peakPacketsSentPerSec
  peakPacketsRecvPerSec := m.peakPacketsRecvPerSec

def BuildGraphMetrics.message (m : BuildGraphMetrics) : Wire.BuildGraphMetrics where
  actionLookupValueCount := m.actionLookupValueCount
  actionLookupValueCountNotIncludingAspects := m.actionLookupValueCountNotIncludingAspects
  actionCount := m.actionCount
  actionCountNotIncludingAspects := m.actionCountNotIncludingAspects
  inputFileConfiguredTargetCount := m.inputFileConfiguredTargetCount
  outputFileConfiguredTargetCount := m.outputFileConfiguredTargetCount
  otherConfiguredTargetCount := m.otherConfiguredTargetCount
  outputArtifactCount := m.outputArtifactCount
  postInvocationSkyframeNodeCount := m.postInvocationSkyframeNodeCount

def Metrics.message (m : Metrics) : Wire.Metrics where
  actionSummary := some m.actionSummary.message
  memoryMetrics := some m.memoryMetrics.message
  targetMetrics := some m.targetMetrics.message
  packageMetrics := some m.packageMetrics.message
  timingMetrics := some m.timingMetrics.message
  artifactMetrics := some m.artifactMetrics.message
  cumulativeMetrics := some m.cumulativeMetrics.message
  networkMetrics := some { systemNetworkStats := some m.networkMetrics.message }
  buildGraphMetrics := some m.buildGraphMetrics.message

-- The sections without lists, durations or parts that can be left out come back field by field.
theorem Metrics.of_message (m : Metrics) : of m.message = m := by
  simp only [of, message, Option.bind_some, Option.map_some, Option.getD_some,
    ActionSummary.of_message, MemoryMetrics.of_message, PackageMetrics.of_message]
  rfl

end Summary

namespace Wire

-- A part that may be left out stays as it is, but for what is left out inside; or a zero is put in
-- where there is none.
inductive Filled {α : Type} (zero : α) (Inside : α → α → Prop) : Option α → Option α → Prop where
  | absent : Filled zero Inside none none
  | zero (z : α) (like : Inside zero z) : Filled zero Inside none (some z)
  | given (a b : α) (inside : Inside a b) : Filled zero Inside (some a) (some b)

theorem Filled.same {α β : Type} {zero : α} {Inside : α → α → Prop} {a b : Option α}
    (filled : Filled zero Inside a b) (view : α → β)
    (kept : ∀ x y, Inside x y → view x = view y) :
    (a.map view).getD (view zero) = (b.map view).getD (view zero) := by
  cases filled with
  | absent => rfl
  | zero z like => exact kept zero z like
  | given a b inside => exact kept a b inside

theorem Filled.same_plain {α β : Type} {zero : α} {a b : Option α} (filled : Filled zero Eq a b)
    (view : α → β) : (a.map view).getD (view zero) = (b.map view).getD (view zero) :=
  filled.same view fun _ _ same => congrArg view same

theorem Filled.same_value {α : Type} {zero : α} {a b : Option α} (filled : Filled zero Eq a b) :
    a.getD zero = b.getD zero := by
  simpa only [Option.map_id, id] using filled.same_plain id

structure ActionSummary.Filled (m n : ActionSummary) : Prop where
  others : n = { m with actionCacheStatistics := n.actionCacheStatistics }
  actionCacheStatistics : Wire.Filled {} Eq m.actionCacheStatistics n.actionCacheStatistics

structure PackageLoadMetrics.Filled (m n : PackageLoadMetrics) : Prop where
  name : Wire.Filled "" Eq m.name n.name
  loadDuration : Wire.Filled {} Eq m.loadDuration n.loadDuration
  numTargets : Wire.Filled 0 Eq m.numTargets n.numTargets
  computationSteps : Wire.Filled 0 Eq m.computationSteps n.computationSteps
  numTransitiveLoads : Wire.Filled 0 Eq m.numTransitiveLoads n.numTransitiveLoads
  packageOverhead : Wire.Filled 0 Eq m.packageOverhead n.packageOverhead

structure PackageMetrics.Filled (m n : PackageMetrics) : Prop where
  others : n = { m with packageLoadMetrics := n.packageLoadMetrics }
  packageLoadMetrics :
    List.Forall₂ PackageLoadMetrics.Filled m.packageLoadMetrics n.packageLoadMetrics

structure ArtifactMetrics.Filled (m n : ArtifactMetrics) : Prop where
  sourceArtifactsRead : Wire.Filled {} Eq m.sourceArtifactsRead n.sourceArtifactsRead
  outputArtifactsSeen : Wire.Filled {} Eq m.outputArtifactsSeen n.outputArtifactsSeen
  outputArtifactsFromActionCache :
    Wire.Filled {} Eq m.outputArtifactsFromActionCache n.outputArtifactsFromActionCache
  topLevelArtifacts : Wire.Filled {} Eq m.topLevelArtifacts n.topLevelArtifacts

structure NetworkMetrics.Filled (m n : NetworkMetrics) : Prop where
  systemNetworkStats : Wire.Filled {} Eq m.systemNetworkStats n.systemNetworkStats

structure Metrics.Filled (m n : Metrics) : Prop where
  actionSummary : Wire.Filled {} ActionSummary.Filled m.actionSummary n.actionSummary
  memoryMetrics : Wire.Filled {} Eq m.memoryMetrics n.memoryMetrics
  targetMetrics : Wire.Filled {} Eq m.targetMetrics n.targetMetrics
  packageMetrics : Wire.Filled {} PackageMetrics.Filled m.packageMetrics n.packageMetrics
  timingMetrics : Wire.Filled {} Eq m.timingMetrics n.timingMetrics
  artifactMetrics : Wire.Filled {} ArtifactMetrics.Filled m.artifactMetrics n.artifactMetrics
  cumulativeMetrics : Wire.Filled {} Eq m.cumulativeMetrics n.cumulativeMetrics
  networkMetrics : Wire.Filled {} NetworkMetrics.Filled m.networkMetrics n.networkMetrics
  buildGraphMetrics : Wire.Filled {} Eq m.buildGraphMetrics n.buildGraphMetrics

end Wire

namespace Summary

theorem ActionSummary.of_filled (m n : Wire.ActionSummary) (filled : m.Filled n) :
    of m = of n := by
  have statistics := filled.actionCacheStatistics.same_plain ActionCacheStatistics.of
  rw [filled.others]
  simp only [of, mk.injEq, true_and]
  exact statistics

theorem PackageLoadMetrics.of_filled (m n : Wire.PackageLoadMetrics) (filled : m.Filled n) :
    of m = of n := by
  have duration := filled.loadDuration.same_plain Duration.millis
  have none : Duration.millis {} = 0 := rfl
  rw [none] at duration
  simp only [of, mk.injEq]
  exact ⟨filled.name.same_value, duration, filled.numTargets.same_value,
    filled.computationSteps.same_value, filled.numTransitiveLoads.same_value,
    filled.packageOverhead.same_value⟩

theorem PackageMetrics.of_filled (m n : Wire.PackageMetrics) (filled : m.Filled n) :
    of m = of n := by
  have loads : m.packageLoadMetrics.map PackageLoadMetrics.of =
      n.packageLoadMetrics.map PackageLoadMetrics.of := by
    have each := filled.packageLoadMetrics.imp PackageLoadMetrics.of_filled
    rw [← List.forall₂_eq_eq_eq]
    exact List.forall₂_map_left_iff.2 (List.forall₂_map_right_iff.2 each)
  rw [filled.others]
  simp only [of, mk.injEq, true_and]
  exact loads

theorem ArtifactMetrics.of_filled (m n : Wire.ArtifactMetrics) (filled : m.Filled n) :
    of m = of n := by
  simp only [of, mk.injEq]
  exact ⟨filled.sourceArtifactsRead.same_plain FilesMetric.of,
    filled.outputArtifactsSeen.same_plain FilesMetric.of,
    filled.outputArtifactsFromActionCache.same_plain FilesMetric.of,
    filled.topLevelArtifacts.same_plain FilesMetric.of⟩

-- The numbers of the network stand one level deeper in the message than in the summary.
def NetworkMetrics.lifted (m : Wire.NetworkMetrics) : NetworkMetrics :=
  (m.systemNetworkStats.map of).getD {}

theorem NetworkMetrics.lifted_bind (m : Option Wire.NetworkMetrics) :
    ((m.bind (·.systemNetworkStats)).map of).getD {} = (m.map lifted).getD {} := by
  cases m <;> rfl

theorem NetworkMetrics.lifted_filled (m n : Wire.NetworkMetrics) (filled : m.Filled n) :
    lifted m = lifted n :=
  filled.systemNetworkStats.same_plain of

theorem Metrics.of_filled (m n : Wire.Metrics) (filled : m.Filled n) : of m = of n := by
  simp only [of, mk.injEq, NetworkMetrics.lifted_bind]
  exact ⟨filled.actionSummary.same _ ActionSummary.of_filled,
    filled.memoryMetrics.same_plain MemoryMetrics.of,
    filled.targetMetrics.same_plain TargetMetrics.of,
    filled.packageMetrics.same _ PackageMetrics.of_filled,
    filled.timingMetrics.same_plain TimingMetrics.of,
    filled.artifactMetrics.same _ ArtifactMetrics.of_filled,
    filled.cumulativeMetrics.same_plain CumulativeMetrics.of,
    filled.networkMetrics.same _ NetworkMetrics.lifted_filled,
    filled.buildGraphMetrics.same_plain BuildGraphMetrics.of⟩

namespace Metrics

structure AgreeBySection (m n : Wire.Metrics) : Prop where
  actionSummary : m.actionSummary = n.actionSummary →
    (of m).actionSummary = (of n).actionSummary
  memoryMetrics : m.memoryMetrics = n.memoryMetrics →
    (of m).memoryMetrics = (of n).memoryMetrics
  targetMetrics : m.targetMetrics = n.targetMetrics →
    (of m).targetMetrics = (of n).targetMetrics
  packageMetrics : m.packageMetrics = n.packageMetrics →
    (of m).packageMetrics = (of n).packageMetrics
  timingMetrics : m.timingMetrics = n.timingMetrics →
    (of m).timingMetrics = (of n).timingMetrics
  artifactMetrics : m.artifactMetrics = n.artifactMetrics →
    (of m).artifactMetrics = (of n).artifactMetrics
  cumulativeMetrics : m.cumulativeMetrics = n.cumulativeMetrics →
    (of m).cumulativeMetrics = (of n).cumulativeMetrics
  networkMetrics : m.networkMetrics = n.networkMetrics →
    (of m).networkMetrics = (of n).networkMetrics
  buildGraphMetrics : m.buildGraphMetrics = n.buildGraphMetrics →
    (of m).buildGraphMetrics = (of n).buildGraphMetrics

theorem agree_by_section (m n : Wire.Metrics) : AgreeBySection m n where
  actionSummary same := by simp only [of, same]
  memoryMetrics same := by simp only [of, same]
  targetMetrics same := by simp only [of, same]
  packageMetrics same := by simp only [of, same]
  timingMetrics same := by simp only [of, same]
  artifactMetrics same := by simp only [of, same]
  cumulativeMetrics same := by simp only [of, same]
  networkMetrics same := by simp only [of, same]
  buildGraphMetrics same := by simp only [of, same]

-- The projection gives a snapshot back from its message, takes what is left out for zero wherever
-- it is left out, and makes each section from the message of its name alone.
theorem projection_in_place :
    (∀ m : Metrics, of m.message = m) ∧
    (∀ m n : Wire.Metrics, m.Filled n → of m = of n) ∧
    ∀ m n : Wire.Metrics, AgreeBySection m n :=
  ⟨of_message, of_filled, agree_by_section⟩

theorem projection_of_filled :
    let loads : List Wire.PackageLoadMetrics := [{ name := some "//a" }, {}]
    let filledLoads : List Wire.PackageLoadMetrics :=
      [{ name := some "//a", numTargets := some 0 }, { name := some "", loadDuration := some {} }]
    let m : Wire.Metrics :=
      { packageMetrics := some { packagesLoaded := 2, packageLoadMetrics := loads }
        targetMetrics := some { targetsLoaded := 3 } }
    let n : Wire.Metrics :=
      { packageMetrics := some { packagesLoaded := 2, packageLoadMetrics := filledLoads }
        targetMetrics := some { targetsLoaded := 3 }
        actionSummary := some { actionCacheStatistics := some {} }
        networkMetrics := some { systemNetworkStats := some {} } }
    m.Filled n ∧ of m = of n ∧ of (of m).message = of m ∧
      (of { n with targetMetrics := none }).packageMetrics = (of n).packageMetrics := by
  intro loads filledLoads m n
  have first : loads[0].Filled filledLoads[0] :=
    ⟨.given _ _ rfl, .absent, .zero _ rfl, .absent, .absent, .absent⟩
  have second : loads[1].Filled filledLoads[1] :=
    ⟨.zero _ rfl, .zero _ rfl, .absent, .absent, .absent, .absent⟩
  have filled : m.Filled n :=
    { actionSummary := .zero _ ⟨rfl, .zero _ rfl⟩
      memoryMetrics := .absent
      targetMetrics := .given _ _ rfl
      packageMetrics := .given _ _ ⟨rfl, .cons first (.cons second .nil)⟩
      timingMetrics := .absent
      artifactMetrics := .absent
      cumulativeMetrics := .absent
      networkMetrics := .zero _ ⟨.zero _ rfl⟩
      buildGraphMetrics := .absent }
  obtain ⟨back, zeros, sections⟩ := projection_in_place
  exact ⟨filled, zeros m n filled, back (of m),
    (sections { n with targetMetrics := none } n).packageMetrics rfl⟩

end Metrics

end Summary

end BuildDigest
