import BuildDigest.Run

set_option autoImplicit false

namespace BuildDigest

namespace Payload

def commandLine? : Payload → Option Wire.CommandLine
  | .structuredCommandLine c => some c
  | _ => none

theorem command_line_of_eq_some (p : Payload) (c : Wire.CommandLine)
    (line : p.commandLine? = some c) : p = .structuredCommandLine c := by
  cases p with
  | structuredCommandLine other =>
    cases line
    rfl
  | _ => cases line

-- What an event writes beside the tables and what a command line says.
def write (p : Payload) (s : Summary) : Summary :=
  match p with
  | .started m => Run.started m s
  | .buildMetadata m => Run.metadata m s
  | .buildFinished m => Run.finished m s
  | .buildMetrics m => { s with metrics := .of m }
  | .configuration m => Run.configuration m s
  | .fetch m => { s with numFetches := s.numFetches + if m.success then 1 else 0 }
  | .optionsParsed m => Run.optionsParsed m s
  | .buildToolLogs m => Run.toolLogs m s
  | .progress m => Run.progress m s
  | _ => s

@[simp] theorem write_environment (p : Payload) (s : Summary) : (p.write s).envVars = s.envVars := by
  cases p <;> rfl

end Payload

namespace Run

theorem fetch_counts (m : Wire.Fetch) (s : Summary) :
    fetch m s = { s with numFetches := s.numFetches + if m.success then 1 else 0 } := by
  unfold fetch
  by_cases success : m.success
  · rw [if_pos success, if_pos success]
  · rw [if_neg success, if_neg success, Int64.add_zero]

theorem payload_write (clock : Clock) (p : Payload) (r : Run) (other : p.commandLine? = none) :
    ∃ targets tests, (r.payload clock p).1.summary =
        { p.write r.summary with targets := targets, tests := tests } ∧
      (r.payload clock p).2.all (·.isViolation) := by
  have same : r.summary =
      { r.summary with targets := r.summary.targets, tests := r.summary.tests } := rfl
  cases p with
  | structuredCommandLine c => cases other
  | targetConfigured m =>
    simp only [payload, targetConfigured]
    split
    · exact ⟨_, _, same, rfl⟩
    · exact ⟨_, _, rfl, rfl⟩
  | targetCompleted m =>
    simp only [payload, targetCompleted]
    split
    · exact ⟨_, _, same, rfl⟩
    · split
      · exact ⟨_, _, same, rfl⟩
      · exact ⟨_, _, rfl, rfl⟩
  | testResult m =>
    simp only [payload, testResult]
    split
    · exact ⟨_, _, same, rfl⟩
    · exact ⟨_, _, rfl, rfl⟩
  | testSummary m =>
    simp only [payload, testSummary]
    split
    · exact ⟨_, _, same, rfl⟩
    · split
      · exact ⟨_, _, same, rfl⟩
      · exact ⟨_, _, rfl, rfl⟩
  | fetch m =>
    simp only [payload, accept, change, fetch_counts]
    exact ⟨_, _, rfl, rfl⟩
  | _ => exact ⟨r.summary.targets, r.summary.tests, rfl, rfl⟩

-- Nothing but a command line touches the environment, or is refused for anything but a violation.
theorem payload_environment (clock : Clock) (p : Payload) (r : Run)
    (other : p.commandLine? = none) :
    (r.payload clock p).1.summary.envVars = r.summary.envVars ∧
      (r.payload clock p).2.all (·.isViolation) := by
  obtain ⟨targets, tests, written, violations⟩ := payload_write clock p r other
  rw [written]
  exact ⟨Payload.write_environment p r.summary, violations⟩

end Run

end BuildDigest
