import BuildDigest.Pattern.Reading

set_option autoImplicit false

namespace BuildDigest

inductive ViolationPolicy where
  | abort
  -- Log and continue.
  | goOn
  deriving DecidableEq

namespace ViolationPolicy

def ofText? (s : String) : Option ViolationPolicy :=
  let word := String.ofList ((Text.trim s).toList.map Char.toLower)
  if word = "abort" || word = "fail" then some abort
  else if word = "continue" || word = "log" || word = "log_and_continue" then some goOn
  else none

end ViolationPolicy

structure Settings where
  onViolation : ViolationPolicy
  patterns : List String
  deriving DecidableEq

namespace Settings

def default : Settings where
  onViolation := .abort
  patterns := ["(?m)^ERROR: ", "(?m)^FAILED: Build did NOT complete successfully",
    "(?m)^Target \\S+ failed to build"]

def policyVariable : String := "BEP_ON_PROTOCOL_VIOLATION"

def patternsVariable : String := "BEP_PROGRESS_ERROR_PATTERNS"

def patternsOf (s : String) : List String :=
  ((Text.pieces ';' s.toList).map fun p => Text.trim (String.ofList p)).filter fun p => !p.isEmpty

-- A list without patterns, and a policy that has no such name, say nothing.
def ofEnvironment (policy patterns : Option String) : Settings where
  onViolation := (policy.bind ViolationPolicy.ofText?).getD default.onViolation
  patterns :=
    match (patterns.map patternsOf).getD [] with
    | [] => default.patterns
    | found => found

def signatures (s : Settings) : List Pattern :=
  s.patterns.filterMap Pattern.ofText?

end Settings

end BuildDigest
