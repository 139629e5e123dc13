import BuildDigest.Program
import Std.Time.DateTime.Timestamp

set_option autoImplicit false

namespace BuildDigest

def currentMillis : IO Int64 := do
  return Int64.ofInt (← Std.Time.Timestamp.now).toMillisecondsSinceUnixEpoch.val

def settingsOfProcess : IO Settings := do
  return Settings.ofEnvironment (← IO.getEnv Settings.policyVariable)
    (← IO.getEnv Settings.patternsVariable)

def reasonOf : IO.Error → String
  | .noFileOrDirectory _ code details | .permissionDenied _ code details
  | .inappropriateType _ code details | .hardwareFault code details
  | .invalidArgument _ code details | .resourceExhausted _ code details
  | .otherError code details => details ++ " (os error " ++ toString code ++ ")"
  | e => toString e

def contentOf (stream : IO.FS.Stream) : IO Feed.Content := do
  let mut bytes := ByteArray.empty
  -- No memory holds more pieces than that.
  for _ in [0:USize.size] do
    match ← (stream.read 65536).toBaseIO with
    | .ok piece =>
        if piece.isEmpty then break
        bytes := bytes ++ piece
    | .error e => return { bytes := bytes.data.toList, failure? := some (reasonOf e) }
  return { bytes := bytes.data.toList }

def sourceOf : List String → IO Source
  | location :: _ => do
      match ← (IO.FS.Handle.mk location .read).toBaseIO with
      | .ok handle => return .file location (.ok (← contentOf (.ofHandle handle)))
      | .error e => return .file location (.error (reasonOf e))
  | [] => return .input (← contentOf (← IO.getStdin))

-- What this program says of a line that is no event.
def ownWords (_ : String) : String := "the line is not an event"

def takeInTime (settings : Settings) (session : Session Findings) (items : List Feed.Item) :
    IO (Except Failure (Session Findings)) := do
  let mut session := session
  for item in items do
    let now ← currentMillis
    match session.takeItem settings.watcher settings.onViolation (fun _ => now) item with
    | .ok next => session := next
    | .error failure => return .error failure
  return .ok session

def answerOf (settings : Settings) (source : Source) : IO Program.Answer := do
  match settings.openSession source with
  | .error failure => return Program.answer ownWords (.error failure)
  | .ok (session, items) =>
      match ← takeInTime settings session items with
      | .error failure => return Program.answer ownWords (.error failure)
      | .ok session => return Program.answer ownWords (session.finish settings.watcher)

end BuildDigest

open BuildDigest in
def main (args : List String) : IO UInt32 := do
  let answer ← answerOf (← settingsOfProcess) (← sourceOf args)
  IO.print answer.text
  return answer.status.toUInt32
