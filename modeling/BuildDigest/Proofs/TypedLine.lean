import BuildDigest.Proofs.Environment

set_option autoImplicit false

namespace BuildDigest

namespace Summary

-- The chunks that count under a label: those of its last section that has any.
def lastChunks? (parts : List Wire.CommandSection) (label : String) : Option Wire.ChunkList :=
  (parts.filterMap fun part =>
    if part.sectionLabel = label then part.chunkList else none).getLast?

def textOf (parts : List Wire.CommandSection) (label before : String) : String :=
  ((lastChunks? parts label).map joined).getD before

def CommandLine.typed (parts : List Wire.CommandSection) (old : CommandLine) : CommandLine :=
  { old with
    executable := textOf parts "executable" old.executable
    command := textOf parts "command" old.command
    residual := textOf parts "residual" old.residual }

def read (s : Summary) (c : Wire.CommandLine) : Summary :=
  { s with
    envVars := c.environment s.envVars
    commandLine := s.commandLine.typed c.sections }

end Summary

namespace Variable

end Variable

namespace Summary

end Summary

example :
    let env := ["GERRIT_CHANGE_NUMBER=7", "GERRIT_PATCHSET_NUMBER=x",
      "GERRIT_CHANGE_COMMIT_MESSAGE=YQ=="]
    let next := ({} : Summary).addCommandLine (.withVariables env)
    next.2 = some (.notNumber "GERRIT_PATCHSET_NUMBER" "x" .notDigit) ∧
      next.1.changeNumber = some 7 ∧
      next.1.envVars.get? "GERRIT_CHANGE_COMMIT_MESSAGE" = some "YQ==" := by
  decide +kernel

end BuildDigest
