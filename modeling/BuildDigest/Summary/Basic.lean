import BuildDigest.Ident
import BuildDigest.Problem
import BuildDigest.Summary.Metrics
import BuildDigest.Summary.Tests

set_option autoImplicit false

namespace BuildDigest

namespace Summary

structure ExitCode where
  code : Int32
  name : String
  deriving DecidableEq

def ExitCode.suppressesProblems (e : ExitCode) : Bool :=
  e.code = 0 || e.code = 8

structure CommandLine where
  executable : String := ""
  command : String := ""
  residual : String := ""
  options : String := ""
  deriving DecidableEq

end Summary

structure Summary where
  invocationId : String := ""
  bazelVersion : String := ""
  startedAt : Option Timestamp := none
  endedAt : Option Timestamp := none
  exitCode : Option Summary.ExitCode := none
  envVars : KeyMap String := ∅
  commandLine : Summary.CommandLine := {}
  stepLabel : String := ""
  userEmail : String := ""
  userLdap : String := ""
  cpu : String := ""
  platformName : String := ""
  configurationMnemonic : String := ""
  numFetches : Int64 := 0
  changeNumber : Option Int64 := none
  patchsetNumber : Option Int64 := none
  buildUrl : String := ""
  buildUuid : Option Uuid := none
  targets : KeyMap Summary.Target := ∅
  tests : KeyMap Summary.Test := ∅
  metrics : Summary.Metrics := {}
  problems : List Problem := []
  eventFileUrl : String := ""
  relatedFiles : KeyMap String := ∅
  buildLogs : String := ""
  bepCompleted : Bool := false
  deriving DecidableEq

namespace Summary

def keyMapJson {α : Type} (value : α → Json) (m : KeyMap α) : Json :=
  .record (m.entries.map fun e => (e.1, value e.2))

def ExitCode.json (e : ExitCode) : Json :=
  .record [("code", .int e.code.toInt), ("name", .str e.name)]

def CommandLine.json (c : CommandLine) : Json :=
  .record [("executable", .str c.executable), ("command", .str c.command),
    ("residual", .str c.residual), ("options", .str c.options)]

def members (s : Summary) : List (String × Json) :=
  [("invocation_id", .str s.invocationId), ("bazel_version", .str s.bazelVersion)] ++
  Json.member? "started_at" timeJson s.startedAt ++
  Json.member? "ended_at" timeJson s.endedAt ++
  Json.member? "exit_code" ExitCode.json s.exitCode ++
  [("env_vars", keyMapJson .str s.envVars), ("command_line", s.commandLine.json),
    ("step_label", .str s.stepLabel), ("user_email", .str s.userEmail),
    ("user_ldap", .str s.userLdap), ("cpu", .str s.cpu), ("platform_name", .str s.platformName),
    ("configuration_mnemonic", .str s.configurationMnemonic),
    ("num_fetches", .int s.numFetches.toInt)] ++
  Json.member? "change_number" (fun n => .int n.toInt) s.changeNumber ++
  Json.member? "patchset_number" (fun n => .int n.toInt) s.patchsetNumber ++
  [("build_url", .str s.buildUrl)] ++
  Json.member? "build_uuid" (fun u => .str u.text) s.buildUuid ++
  [("targets", keyMapJson Target.json s.targets), ("tests", keyMapJson Test.json s.tests),
    ("metrics", s.metrics.json), ("problems", .list (s.problems.map Problem.json)),
    ("event_file_url", .str s.eventFileUrl), ("related_files", keyMapJson .str s.relatedFiles),
    ("build_logs", .str s.buildLogs), ("bep_completed", .bool s.bepCompleted)]

def json (s : Summary) : Json :=
  .record s.members

end Summary

end BuildDigest
