import BuildDigest.Event
import BuildDigest.Label
import BuildDigest.Pattern.Basic
import BuildDigest.Problem

set_option autoImplicit false

namespace BuildDigest

structure UnlabelledFailure where
  kind : Kind
  deriving DecidableEq

def UnlabelledFailure.message (f : UnlabelledFailure) : String :=
  "unlabeled " ++ Word.name f.kind ++ " event reported a failure"

-- What a problem detector does with the events of an invocation.
structure Watcher (σ : Type) where
  start : σ
  see : Event → σ → σ
  report : σ → Except UnlabelledFailure (List Problem) × σ

namespace Problem

def ofAction? (a : Wire.ActionExecuted) : Option Problem :=
  let stdout := a.stdout.bind Blob.ofFile?
  let stderr := a.stderr.bind Blob.ofFile?
  if a.success || (stdout.isNone && stderr.isNone) then none
  else
    let address (b : Option Blob) := (b.map Blob.uri).getD ""
    let id := Ident.ofProblem "action" [a.label, a.actionType, address stdout, address stderr]
    some (action id a.label a.actionType stdout stderr)

def ofOutput? (signatures : List Pattern) (chunk : String) : Option Problem :=
  if chunk.isEmpty || !signatures.any fun p => p.occursIn chunk then none
  else
    let output := Text.trimRight chunk
    some (progress (Ident.ofProblem "progress" [output]) (Label.inText output) output)

def ofTarget (label : String) : Problem :=
  target (Ident.ofProblem "target" [label]) label

def ofTest (label : String) (status : TestStatus) (results : List Attempt) : Problem :=
  test (Ident.ofProblem "test" [label]) label status results

end Problem

def Wire.TargetCompleted.failed (t : Wire.TargetCompleted) : Bool :=
  match t.aborted with
  | none => !t.success
  | some a => a.reason ≠ .skipped

-- The problem detector: what it has found, and what it needs to know of the events so far.
structure Findings where
  -- The attempts of each test since its last summary.
  pending : KeyMap (List Attempt) := ∅
  problems : List Problem := []
  known : List String := []
  unlabelled : Option UnlabelledFailure := none

namespace Findings

def add (f : Findings) (p : Problem) : Findings :=
  if f.known.contains p.id then f
  else { f with problems := f.problems ++ [p], known := p.id :: f.known }

def addAll (f : Findings) (ps : List Problem) : Findings :=
  ps.foldl add f

def addUnlabelled (f : Findings) (kind : Kind) : Findings :=
  { f with unlabelled := f.unlabelled.or (some ⟨kind⟩) }

def seeTarget (t : Wire.TargetCompleted) (f : Findings) : Findings :=
  if !t.failed then f
  else if t.label.isEmpty then f.addUnlabelled .targetCompleted
  else f.add (.ofTarget t.label)

def seeResult (r : Wire.TestResult) (f : Findings) : Findings :=
  if r.label.isEmpty then f
  else
    let earlier := (f.pending.get? r.label).getD []
    { f with pending := f.pending.insert r.label (earlier ++ [.ofResult r]) }

def seeSummary (s : Wire.TestSummary) (f : Findings) : Findings :=
  let closed := { f with pending := f.pending.erase s.label }
  if s.overallStatus = .passed then closed
  else if s.label.isEmpty then f.addUnlabelled .testSummary
  else closed.add (.ofTest s.label s.overallStatus ((f.pending.get? s.label).getD []))

def see (signatures : List Pattern) (e : Event) (f : Findings) : Findings :=
  match e.payload with
  | .actionExecuted a => f.addAll (Problem.ofAction? a).toList
  | .progress p => f.addAll ([p.stdout, p.stderr].filterMap (Problem.ofOutput? signatures))
  | .targetCompleted t => f.seeTarget t
  | .testResult r => f.seeResult r
  | .testSummary s => f.seeSummary s
  | _ => f

-- Reports what has come up since the last report. A failure without a label
-- is reported alone; the problems then wait for the next report.
def report (f : Findings) : Except UnlabelledFailure (List Problem) × Findings :=
  match f.unlabelled with
  | some failure => (.error failure, { f with unlabelled := none })
  | none => (.ok f.problems, { f with problems := [] })

def watcher (signatures : List Pattern) : Watcher Findings where
  start := {}
  see := see signatures
  report := report

end Findings

end BuildDigest
