import BuildDigest.Summary.Targets

set_option autoImplicit false

namespace BuildDigest.Summary

structure TimingChild where
  name : String
  timeMs : Int64
  deriving DecidableEq

-- Where the time of an attempt went; of a deeper breakdown two levels are kept.
structure Timing where
  name : String
  timeMs : Int64
  child : List TimingChild
  deriving DecidableEq

structure Execution where
  strategy : String := ""
  cachedRemotely : Bool := false
  exitCode : Int32 := 0
  hostname : String := ""
  timingBreakdown : Option Timing := none
  deriving DecidableEq

structure TestFile where
  name : String
  file : String
  digest : String
  length : Int64
  pathPrefix : List String
  deriving DecidableEq

structure TestResult where
  label : String := ""
  run : Int32 := 0
  shard : Int32 := 0
  attempt : Int32 := 0
  status : TestStatus := .noStatus
  statusDetails : String := ""
  warning : List String := []
  cachedLocally : Bool := false
  testAttemptStart : Option Timestamp := none
  testAttemptDurationMs : Int64 := 0
  executionInfo : Execution := {}
  testActionOutput : List TestFile := []
  deriving DecidableEq

structure TestSummary where
  label : String := ""
  status : TestStatus := .noStatus
  attemptCount : Int32 := 0
  runCount : Int32 := 0
  shardCount : Int32 := 0
  totalRunCount : Int32 := 0
  totalNumCached : Int32 := 0
  firstStartTime : Option Timestamp := none
  lastStopTime : Option Timestamp := none
  totalRunDurationMs : Int64 := 0
  deriving DecidableEq

namespace Strategy

-- The strategy while no attempt has told its own.
def unset : String := "INITIALIZED"

def mixed : String := "indeterminate"

def join (current next : String) : String :=
  if current = unset then next
  else if current ≠ next then mixed
  else current

end Strategy

-- The rollup of the attempts of a test.
structure Tally where
  cachedLocally : Bool := true
  cachedRemotely : Bool := true
  strategy : String := Strategy.unset
  deriving DecidableEq

namespace Tally

def add (t : Tally) (r : TestResult) : Tally :=
  if r.status = .noStatus then t
  else
    { cachedLocally := t.cachedLocally && r.cachedLocally
      cachedRemotely := t.cachedRemotely && r.executionInfo.cachedRemotely
      strategy := Strategy.join t.strategy r.executionInfo.strategy }

def ofResults (rs : List TestResult) : Tally :=
  rs.foldl add {}

def members (t : Tally) : List (String × Json) :=
  [("cached_locally", .bool t.cachedLocally), ("cached_remotely", .bool t.cachedRemotely),
    ("strategy", .str t.strategy)]

end Tally

def Timing.of (m : Wire.Timing) : Timing where
  name := m.name
  timeMs := m.time.millis
  child := m.child.map fun c => ⟨c.name, c.time.millis⟩

def Execution.of (m : Wire.Execution) : Execution where
  strategy := m.strategy
  cachedRemotely := m.cachedRemotely
  exitCode := m.exitCode
  hostname := m.hostname
  timingBreakdown := m.timingBreakdown.map Timing.of

def TestFile.of (m : Wire.File) : TestFile :=
  ⟨m.name, m.uri, m.digest, m.length, m.pathPrefix⟩

def TestResult.of (m : Wire.TestResult) : TestResult where
  label := m.label
  run := m.run
  shard := m.shard
  attempt := m.attempt
  status := m.status
  statusDetails := m.statusDetails
  warning := m.warning
  cachedLocally := m.cachedLocally
  testAttemptStart := m.testAttemptStart
  testAttemptDurationMs := m.testAttemptDuration.millis
  executionInfo := (m.executionInfo.map Execution.of).getD {}
  testActionOutput := m.testActionOutput.map TestFile.of

def TestSummary.of (m : Wire.TestSummary) : TestSummary where
  label := m.label
  status := m.overallStatus
  attemptCount := m.attemptCount
  runCount := m.runCount
  shardCount := m.shardCount
  totalRunCount := m.totalRunCount
  totalNumCached := m.totalNumCached
  firstStartTime := m.firstStartTime
  lastStopTime := m.lastStopTime
  totalRunDurationMs := m.totalRunDuration.millis

structure Test where
  summary : TestSummary := {}
  results : List TestResult := []
  tally : Tally := {}
  overallStatus : TestStatus := .noStatus
  durationMs : Int64 := 0
  deriving DecidableEq

namespace Test

def addResult (t : Test) (r : TestResult) : Test :=
  { t with results := t.results ++ [r], tally := t.tally.add r }

def summarize (t : Test) (s : TestSummary) : Test :=
  { t with summary := s, overallStatus := s.status, durationMs := s.totalRunDurationMs }

end Test

def timeJson (t : Timestamp) : Json :=
  .str t.text

def TimingChild.json (c : TimingChild) : Json :=
  .record [("name", .str c.name), ("time_ms", .int c.timeMs.toInt)]

def Timing.json (t : Timing) : Json :=
  .record [("name", .str t.name), ("time_ms", .int t.timeMs.toInt),
    ("child", .list (t.child.map TimingChild.json))]

def Execution.json (e : Execution) : Json :=
  .record ([("strategy", .str e.strategy), ("cached_remotely", .bool e.cachedRemotely),
      ("exit_code", .int e.exitCode.toInt), ("hostname", .str e.hostname)] ++
    Json.member? "timing_breakdown" Timing.json e.timingBreakdown)

def TestFile.json (f : TestFile) : Json :=
  .record [("name", .str f.name), ("file", .str f.file), ("digest", .str f.digest),
    ("length", .int f.length.toInt), ("prefix", texts f.pathPrefix)]

def TestResult.json (r : TestResult) : Json :=
  .record ([("label", .str r.label), ("run", .int r.run.toInt), ("shard", .int r.shard.toInt),
      ("attempt", .int r.attempt.toInt), ("status", .str (Word.name r.status)),
      ("status_details", .str r.statusDetails), ("warning", texts r.warning),
      ("cached_locally", .bool r.cachedLocally)] ++
    Json.member? "test_attempt_start" timeJson r.testAttemptStart ++
    [("test_attempt_duration_ms", .int r.testAttemptDurationMs.toInt),
      ("execution_info", r.executionInfo.json),
      ("test_action_output", .list (r.testActionOutput.map TestFile.json))])

def TestSummary.json (s : TestSummary) : Json :=
  .record ([("label", .str s.label), ("status", .str (Word.name s.status)),
      ("attempt_count", .int s.attemptCount.toInt), ("run_count", .int s.runCount.toInt),
      ("shard_count", .int s.shardCount.toInt),
      ("total_run_count", .int s.totalRunCount.toInt),
      ("total_num_cached", .int s.totalNumCached.toInt)] ++
    Json.member? "first_start_time" timeJson s.firstStartTime ++
    Json.member? "last_stop_time" timeJson s.lastStopTime ++
    [("total_run_duration_ms", .int s.totalRunDurationMs.toInt)])

def Test.json (t : Test) : Json :=
  .record ([("test_summary", t.summary.json), ("test_results", .list (t.results.map TestResult.json))] ++
    t.tally.members ++
    [("overall_status", .str (Word.name t.overallStatus)), ("duration_ms", .int t.durationMs.toInt)])

end BuildDigest.Summary
