import BuildDigest.Feed
import BuildDigest.Findings
import BuildDigest.Text.Decimal

set_option autoImplicit false

namespace BuildDigest

inductive Violation where
  | unlabelled (kind : Kind)
  | completedUnconfigured (label : String)
  | summarizedUntested (label : String)
  deriving DecidableEq

namespace Violation

def kind : Violation → Kind
  | unlabelled kind => kind
  | completedUnconfigured _ => .targetCompleted
  | summarizedUntested _ => .testSummary

def reason : Violation → String
  | unlabelled .testResult => "missing test label"
  | unlabelled .testSummary => "missing test label"
  | unlabelled _ => "missing target label"
  | completedUnconfigured label => "label " ++ label ++ " completed before it was configured"
  | summarizedUntested label => "summary for " ++ label ++ " arrived before any test result"

def message (v : Violation) : String :=
  "protocol violation: " ++ Word.name v.kind ++ ": " ++ v.reason

end Violation

inductive Refusal where
  | violation (v : Violation)
  | notNumber (name value : String) (fault : Text.NumberFault)
  deriving DecidableEq

namespace Refusal

def isViolation : Refusal → Bool
  | violation _ => true
  | notNumber .. => false

def message : Refusal → String
  | violation v => v.message
  | notNumber name value fault =>
      "failed to parse " ++ name ++ " (value: " ++ value ++ ") as an int: " ++ fault.message

end Refusal

inductive Failure where
  | unopened (location reason : String)
  | unfed (fault : Feed.Fault)
  | refused (eventId : String) (refusal : Refusal)
  | unlabelled (failure : UnlabelledFailure)
  deriving DecidableEq

namespace Failure

def message (words : String → String) : Failure → String
  | unopened location reason => "could not open " ++ location ++ ": " ++ reason
  | unfed fault => fault.message words
  | refused eventId refusal =>
      "failed to process event (with id: " ++ eventId ++ "): " ++ refusal.message
  | unlabelled failure => "problem detection: " ++ failure.message

def isViolation : Failure → Bool
  | refused _ refusal => refusal.isViolation
  | _ => false

def eventId? : Failure → Option String
  | refused eventId _ => some eventId
  | _ => none

end Failure

end BuildDigest
