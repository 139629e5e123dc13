import BuildDigest.Session

set_option autoImplicit false

namespace BuildDigest

namespace Failure

def json (words : String → String) (f : Failure) : Json :=
  .record ([("error", .bool true), ("message", .str (f.message words))] ++
    Json.member? "event_id" .str f.eventId?)

end Failure

namespace Program

structure Answer where
  line : Json
  status : UInt8

def Answer.text (a : Answer) : String :=
  a.line.text ++ "\n"

def answer (words : String → String) : Except Failure Outcome → Answer
  | .ok outcome => ⟨outcome.summary.json, 0⟩
  | .error failure => ⟨failure.json words, 1⟩

def run (words : String → String) (settings : Settings) (clock : Clock) (source : Source) :
    Answer :=
  answer words (settings.summarize clock source)

end Program

end BuildDigest
