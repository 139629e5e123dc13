import BuildDigest.Json.Basic
import BuildDigest.Wire.Message

set_option autoImplicit false

namespace BuildDigest.Summary

structure Configured where
  startTimeMs : Int64
  targetKind : String
  testSize : TestSize
  tag : List String
  deriving DecidableEq

structure Completed where
  success : Bool
  endTimeMs : Int64
  tag : List String
  testTimeoutSeconds : Option Int64
  abortReason : Option AbortReason
  deriving DecidableEq

structure Target where
  configuration : Configured
  completion : Option Completed
  durationMs : Int64
  success : Bool
  targetKind : String
  testSize : TestSize
  deriving DecidableEq

def Target.configured (now : Int64) (m : Wire.TargetConfigured) : Target where
  configuration := ⟨now, m.targetKind, m.testSize, m.tag⟩
  completion := none
  durationMs := 0
  success := false
  targetKind := m.targetKind
  testSize := m.testSize

-- Of an aborted target only the reason counts.
def Completed.of (now : Int64) (m : Wire.TargetCompleted) : Completed :=
  match m.aborted with
  | some a => ⟨false, now, [], none, some a.reason⟩
  | none => ⟨m.success, now, m.tag, m.testTimeout.map (·.seconds), none⟩

def Target.complete (t : Target) (c : Completed) : Target :=
  { t with
    completion := some c
    durationMs := c.endTimeMs - t.configuration.startTimeMs
    success := c.success }

def texts (ss : List String) : Json :=
  .list (ss.map .str)

def Configured.json (c : Configured) : Json :=
  .record [("start_time_ms", .int c.startTimeMs.toInt), ("target_kind", .str c.targetKind),
    ("test_size", .str (Word.name c.testSize)), ("tag", texts c.tag)]

def Completed.json (c : Completed) : Json :=
  .record ([("success", .bool c.success), ("end_time_ms", .int c.endTimeMs.toInt),
      ("tag", texts c.tag)] ++
    Json.member? "test_timeout_seconds" (fun n => .int n.toInt) c.testTimeoutSeconds ++
    Json.member? "abort_reason" (fun r => .str (Word.name r)) c.abortReason)

def Target.json (t : Target) : Json :=
  .record ([("configuration", t.configuration.json)] ++
    Json.member? "completion" Completed.json t.completion ++
    [("duration_ms", .int t.durationMs.toInt), ("success", .bool t.success),
      ("target_kind", .str t.targetKind), ("test_size", .str (Word.name t.testSize))])

end BuildDigest.Summary
