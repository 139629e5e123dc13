import BuildDigest.Wire.Message

set_option autoImplicit false

namespace BuildDigest

-- What an event reports. An event of a kind that means nothing to a summary is `unknown`.
inductive Payload where
  | started (m : Wire.Started)
  | buildMetadata (m : Wire.Metadata)
  | buildFinished (m : Wire.Finished)
  | buildMetrics (m : Wire.Metrics)
  | structuredCommandLine (m : Wire.CommandLine)
  | configuration (m : Wire.Configuration)
  | targetConfigured (m : Wire.TargetConfigured)
  | targetCompleted (m : Wire.TargetCompleted)
  | fetch (m : Wire.Fetch)
  | actionExecuted (m : Wire.ActionExecuted)
  | testResult (m : Wire.TestResult)
  | testSummary (m : Wire.TestSummary)
  | optionsParsed (m : Wire.OptionsParsed)
  | buildToolLogs (m : Wire.ToolLogs)
  | progress (m : Wire.Progress)
  | unknown

structure Event where
  id : String := ""
  lastMessage : Bool := false
  payload : Payload

namespace Payload

def kind? : Payload → Option Kind
  | started _ => some .started
  | buildMetadata _ => some .buildMetadata
  | buildFinished _ => some .buildFinished
  | buildMetrics _ => some .buildMetrics
  | structuredCommandLine _ => some .structuredCommandLine
  | configuration _ => some .configuration
  | targetConfigured _ => some .targetConfigured
  | targetCompleted _ => some .targetCompleted
  | fetch _ => some .fetch
  | actionExecuted _ => some .actionExecuted
  | testResult _ => some .testResult
  | testSummary _ => some .testSummary
  | optionsParsed _ => some .optionsParsed
  | buildToolLogs _ => some .buildToolLogs
  | progress _ => some .progress
  | unknown => none

def kindName (p : Payload) : String :=
  match p.kind? with
  | some kind => Word.name kind
  | none => "unknown"

end Payload

def Event.displayId (e : Event) : String :=
  if e.id.isEmpty then e.payload.kindName else e.id

end BuildDigest
