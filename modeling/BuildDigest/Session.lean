import BuildDigest.Run

set_option autoImplicit false

namespace BuildDigest

structure Outcome where
  summary : Summary
  completed : Bool
  deriving DecidableEq

-- A summarizer with a detector that watches the same events.
structure Session (σ : Type) where
  run : Run := {}
  watch : σ

namespace Session

variable {σ : Type}

def start (w : Watcher σ) : Session σ :=
  { watch := w.start }

-- The watcher sees an event whether it is refused or not.
def take (w : Watcher σ) (policy : ViolationPolicy) (clock : Clock) (e : Event) (s : Session σ) :
    Session σ × Option Refusal :=
  let (run, refusal) := s.run.take policy clock e
  (⟨run, w.see e s.watch⟩, refusal)

-- The problems go into the summary, unless the exit code says that there is nothing to report.
def finish (w : Watcher σ) (s : Session σ) : Except Failure Outcome :=
  let summary := s.run.summary
  if summary.exitCode.any (·.suppressesProblems) then .ok ⟨summary, summary.bepCompleted⟩
  else
    match (w.report s.watch).1 with
    | .ok problems =>
        .ok ⟨{ summary with problems := summary.problems ++ problems }, summary.bepCompleted⟩
    | .error failure => .error (.unlabelled failure)

def takeItem (w : Watcher σ) (policy : ViolationPolicy) (clock : Clock) (item : Feed.Item)
    (s : Session σ) : Except Failure (Session σ) :=
  match item with
  | .error fault => .error (.unfed fault)
  | .ok e =>
      match s.take w policy clock e with
      | (s, none) => .ok s
      | (_, some refusal) => .error (.refused e.displayId refusal)

def takeAll (w : Watcher σ) (policy : ViolationPolicy) (clock : Clock) :
    List Feed.Item → Session σ → Except Failure (Session σ)
  | [], s => .ok s
  | item :: rest, s => do takeAll w policy clock rest (← s.takeItem w policy clock item)

def summarize (w : Watcher σ) (policy : ViolationPolicy) (clock : Clock) (items : List Feed.Item)
    (s : Session σ) : Except Failure Outcome := do
  (← s.takeAll w policy clock items).finish w

def fromFile (location : String) (s : Session σ) : Session σ :=
  { s with run := s.run.fromFile location }

end Session

inductive Source where
  | input (content : Feed.Content)
  -- A file by its location, or the reason why it could not be opened.
  | file (location : String) (content : Except String Feed.Content)

namespace Settings

def watcher (s : Settings) : Watcher Findings :=
  Findings.watcher s.signatures

def openSession (settings : Settings) : Source → Except Failure (Session Findings × List Feed.Item)
  | .input content => .ok (.start settings.watcher, content.items)
  | .file location (.error reason) => .error (.unopened location reason)
  | .file location (.ok content) =>
      .ok ((Session.start settings.watcher).fromFile location, content.items)

def summarize (settings : Settings) (clock : Clock) (source : Source) : Except Failure Outcome := do
  let (session, items) ← settings.openSession source
  session.summarize settings.watcher settings.onViolation clock items

end Settings

end BuildDigest
