import BuildDigest.Ident
import BuildDigest.Json.Basic
import BuildDigest.Text.Blank
import BuildDigest.Wire.Message

set_option autoImplicit false

namespace BuildDigest

structure Blob where
  name : String
  uri : String
  sizeInBytes : Option Int64
  deriving DecidableEq

namespace Blob

def address (uri : String) : String :=
  Text.trim uri

def ofFile? (f : Wire.File) : Option Blob :=
  if f.uri.isEmpty then none
  else some ⟨f.name, address f.uri, if 0 < f.length then some f.length else none⟩

def json (b : Blob) : Json :=
  .record ([("name", .str b.name), ("uri", .str b.uri)] ++
    Json.member? "size_in_bytes" (fun n => .int n.toInt) b.sizeInBytes)

def ofOutputs? (files : List Wire.File) (names : List String) : Option Blob :=
  (names.findSome? fun name => files.find? fun f => f.name = name).bind ofFile?

end Blob

structure Attempt where
  id : String
  run : Int32
  shard : Int32
  attempt : Int32
  status : TestStatus
  actionLogOutput : Option Blob
  undeclaredTestOutputs : Option Blob
  deriving DecidableEq

namespace Attempt

def logNames : List String := ["test.log"]

def undeclaredNames : List String := ["test.outputs__outputs.zip", "test.outputs"]

def number (n : Int32) : String :=
  String.ofList (Json.decimal n.toInt)

def ofResult (r : Wire.TestResult) : Attempt where
  id := Ident.ofProblem "test_result" [r.label, number r.run, number r.shard, number r.attempt]
  run := r.run
  shard := r.shard
  attempt := r.attempt
  status := r.status
  actionLogOutput := Blob.ofOutputs? r.testActionOutput logNames
  undeclaredTestOutputs := Blob.ofOutputs? r.testActionOutput undeclaredNames

def json (a : Attempt) : Json :=
  .record ([("id", .str a.id), ("run", .int a.run.toInt), ("shard", .int a.shard.toInt),
      ("attempt", .int a.attempt.toInt), ("status", .str (Word.name a.status))] ++
    Json.member? "action_log_output" Blob.json a.actionLogOutput ++
    Json.member? "undeclared_test_outputs" Blob.json a.undeclaredTestOutputs)

end Attempt

inductive Problem where
  | action (id label actionType : String) (stdout stderr : Option Blob)
  | progress (id label output : String)
  | target (id label : String)
  | test (id label : String) (status : TestStatus) (results : List Attempt)
  deriving DecidableEq

namespace Problem

def id : Problem → String
  | action id .. => id
  | progress id .. => id
  | target id .. => id
  | test id .. => id

def label : Problem → String
  | action _ label .. => label
  | progress _ label .. => label
  | target _ label => label
  | test _ label .. => label

def json : Problem → Json
  | action id label actionType stdout stderr =>
      .record ([("kind", .str "action"), ("id", .str id), ("label", .str label),
          ("type", .str actionType)] ++
        Json.member? "stdout" Blob.json stdout ++ Json.member? "stderr" Blob.json stderr)
  | progress id label output =>
      .record [("kind", .str "progress"), ("id", .str id), ("label", .str label),
        ("output", .str output)]
  | target id label => .record [("kind", .str "target"), ("id", .str id), ("label", .str label)]
  | test id label status results =>
      .record [("kind", .str "test"), ("id", .str id), ("label", .str label),
        ("status", .str (Word.name status)), ("results", .list (results.map Attempt.json))]

end Problem

end BuildDigest
