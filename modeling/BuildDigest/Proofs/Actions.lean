import BuildDigest.Proofs.Pieces
import BuildDigest.Proofs.Reports

set_option autoImplicit false

namespace BuildDigest

namespace Problem

def naming : Problem → String × List String
  | action _ label actionType stdout stderr =>
      let address (blob : Option Blob) := (blob.map Blob.uri).getD ""
      ("action", [label, actionType, address stdout, address stderr])
  | progress _ _ output => ("progress", [output])
  | target _ label => ("target", [label])
  | test _ label _ _ => ("test", [label])

def source (p : Problem) : String :=
  Ident.source p.naming.1 p.naming.2

-- The kinds have no bars, so that a source tells of which kind its problem is.
theorem source_told (p : Problem) (kind : String) (parts : List String) (single : '|' ∉ kind.toList)
    (same : p.source = Ident.source kind parts) :
    p.naming.1 = kind ∧ Ident.pieces p.naming.2 = Ident.pieces parts := by
  have plain : '|' ∉ p.naming.1.toList := by
    cases p <;> simp [naming]
  exact Ident.source_told p.naming.1 kind p.naming.2 parts plain single same

-- Of an action without bars a source tells all the parts, as it is known how many there are.
theorem plain_action_naming (p : Problem) (parts : List String) (plain : Ident.Plain parts)
    (four : parts.length = 4) (same : p.source = Ident.source "action" parts) :
    p.naming = ("action", parts) := by
  obtain ⟨kind, pieces⟩ := p.source_told "action" parts (by decide) same
  cases p with
  | action id label actionType stdout stderr =>
    have others : (action id label actionType stdout stderr).naming.2.length = 4 := rfl
    have told := Ident.plain_determined parts _ plain (four.trans others.symm) pieces.symm
    exact congrArg (Prod.mk "action") told.symm
  | _ => simp [naming] at kind

def ToldApart (ps : List Problem) : Prop :=
  ∀ p ∈ ps, ∀ q ∈ ps,
    Ident.ofProblem p.naming.1 p.naming.2 = Ident.ofProblem q.naming.1 q.naming.2 →
      p.source = q.source

theorem made_of_named (before : List Event) (payload : Payload) (p : Problem)
    (made : MadeOf before payload p) : p.id = Ident.ofProblem p.naming.1 p.naming.2 := by
  cases made <;> rfl

theorem candidate_named (signatures : List Pattern) (events : List Event) (p : Problem)
    (candidate : p ∈ candidates signatures events) :
    p.id = Ident.ofProblem p.naming.1 p.naming.2 := by
  obtain ⟨before, e, after, -, given⟩ := (mem_candidates_iff signatures events p).1 candidate
  exact made_of_named before e.payload p (made_of_event signatures before e p given)

theorem id_eq_iff (signatures : List Pattern) (events : List Event)
    (apart : ToldApart (candidates signatures events)) (p q : Problem)
    (one : p ∈ candidates signatures events) (other : q ∈ candidates signatures events) :
    p.id = q.id ↔ p.source = q.source := by
  rw [candidate_named signatures events p one, candidate_named signatures events q other]
  refine ⟨apart p one q other, fun same => ?_⟩
  unfold source at same
  rw [Ident.ofProblem, same, ← Ident.ofProblem]

end Problem

namespace Wire.ActionExecuted

def Failed (a : Wire.ActionExecuted) : Prop :=
  a.success = false ∧ (a.stdout.bind Blob.ofFile? ≠ none ∨ a.stderr.bind Blob.ofFile? ≠ none)

def FailedIn (events : List Event) (a : Wire.ActionExecuted) : Prop :=
  a.Failed ∧ ∃ e ∈ events, e.payload = .actionExecuted a

def hashed (a : Wire.ActionExecuted) : List UInt8 :=
  Hash.utf8 (Ident.source "action" a.parts)

def problem (a : Wire.ActionExecuted) : Problem :=
  .action (Ident.ofProblem "action" a.parts) a.label a.actionType (a.stdout.bind Blob.ofFile?)
    (a.stderr.bind Blob.ofFile?)

theorem hashed_eq_iff (a b : Wire.ActionExecuted) :
    a.hashed = b.hashed ↔ Ident.pieces a.parts = Ident.pieces b.parts :=
  (Ident.bytes_eq_iff _ _).trans (Ident.source_eq_iff "action" a.parts b.parts)

theorem failed_candidate (signatures : List Pattern) (events : List Event)
    (a : Wire.ActionExecuted) (failed : a.FailedIn events) :
    a.problem ∈ candidates signatures events := by
  obtain ⟨outcome, e, member, payload⟩ := failed
  obtain ⟨before, after, split⟩ := List.append_of_mem member
  refine (mem_candidates_iff signatures events _).2 ⟨before, e, after, split, ?_⟩
  have one : e.candidates signatures before = [a.problem] := by
    simp only [Event.candidates, payload]
    exact if_pos outcome
  rw [one]
  exact .head _

end Wire.ActionExecuted

-- A failed action is reported by the first candidate with its source, so that two failed actions
-- are merged if and only if the pieces between all bars of their parts agree.
theorem Settings.actions_of_history (settings : Settings) :
    (∀ a b : Wire.ActionExecuted,
      a.hashed = b.hashed ↔ Ident.pieces a.parts = Ident.pieces b.parts) ∧
    (∀ a b : Wire.ActionExecuted, Ident.Plain a.parts → a.parts ≠ b.parts → a.hashed ≠ b.hashed) ∧
    ∀ events, events.findSome? Event.unlabelledFailure? = none →
      Problem.ToldApart (candidates settings.signatures events) →
      ∃ problems, settings.watcher.firstReport events = .ok problems ∧
        ∀ a : Wire.ActionExecuted, a.FailedIn events →
          (∃ p ∈ problems, p.id = a.problem.id ∧ p.naming.1 = "action" ∧
            Ident.pieces p.naming.2 = Ident.pieces a.parts ∧
            (Ident.Plain a.parts → p.naming.2 = a.parts)) ∧
          ∀ b : Wire.ActionExecuted, b.FailedIn events →
            (a.problem.id = b.problem.id ↔ Ident.pieces a.parts = Ident.pieces b.parts) := by
  refine ⟨Wire.ActionExecuted.hashed_eq_iff, ?_, ?_⟩
  · intro a b plain different same
    have pieces := (a.hashed_eq_iff b).1 same
    exact different (Ident.plain_determined a.parts b.parts plain rfl pieces)
  · intro events labelled apart
    have report := Findings.first_report settings.signatures events
    rw [labelled] at report
    refine ⟨_, report, fun a failed => ?_⟩
    have named := Problem.id_eq_iff settings.signatures events apart
    have known := a.failed_candidate settings.signatures events failed
    constructor
    · obtain ⟨p, reported, first, id⟩ := distinct_namesake _ a.problem known
      have same := (named p a.problem first known).1 id
      obtain ⟨kind, pieces⟩ := p.source_told "action" a.parts (by decide) same
      exact ⟨p, reported, id, kind, pieces, fun plain =>
        congrArg Prod.snd (p.plain_action_naming a.parts plain rfl same)⟩
    · intro b other
      have alsoKnown := b.failed_candidate settings.signatures events other
      exact (named a.problem b.problem known alsoKnown).trans
        (Ident.source_eq_iff "action" a.parts b.parts)

theorem Settings.shifted_actions_reported :
    let output : Option Wire.File := some { uri := "x" }
    let a : Wire.ActionExecuted := { label := "//a", actionType := "bc", stdout := output }
    let b : Wire.ActionExecuted := { label := "//ab", actionType := "c", stdout := output }
    let events : List Event := [{ payload := .actionExecuted a }, { payload := .actionExecuted b }]
    ∃ problems, Settings.default.watcher.firstReport events = .ok problems ∧
      (∃ p ∈ problems, p.naming.2 = a.parts) ∧ ∃ p ∈ problems, p.naming.2 = b.parts := by
  intro output a b events
  have apart : Problem.ToldApart (candidates Settings.default.signatures events) := by
    have both : candidates Settings.default.signatures events = [a.problem, b.problem] := rfl
    have different : a.problem.id ≠ b.problem.id := by decide +kernel
    rw [both]
    intro p first q second id
    rcases List.mem_pair.1 first with rfl | rfl <;> rcases List.mem_pair.1 second with rfl | rfl
    · rfl
    · exact absurd id different
    · exact absurd id.symm different
    · rfl
  obtain ⟨problems, report, reported⟩ :=
    (Settings.actions_of_history Settings.default).2.2 events rfl apart
  obtain ⟨⟨p, first, -, -, -, ofA⟩, -⟩ :=
    reported a ⟨⟨rfl, .inl (by decide)⟩, _, .head _, rfl⟩
  obtain ⟨⟨q, second, -, -, -, ofB⟩, -⟩ :=
    reported b ⟨⟨rfl, .inl (by decide)⟩, _, .tail _ (.head _), rfl⟩
  exact ⟨problems, report, ⟨p, first, ofA (by decide)⟩, q, second, ofB (by decide)⟩

-- A bar of the label or of the type of an action may stand for the one between them: the second of
-- the two actions is taken for the first.
theorem Settings.barred_actions_merged :
    let output : Option Wire.File := some { uri := "x" }
    let a : Wire.ActionExecuted := { label := "//a|b", actionType := "c", stdout := output }
    let b : Wire.ActionExecuted := { label := "//a", actionType := "b|c", stdout := output }
    let events : List Event := [{ payload := .actionExecuted a }, { payload := .actionExecuted b }]
    a.FailedIn events ∧ b.FailedIn events ∧ a.label ≠ b.label ∧ a.hashed = b.hashed ∧
      Settings.default.watcher.firstReport events = .ok [a.problem] := by
  intro output a b events
  have source : Ident.source "action" a.parts = Ident.source "action" b.parts := by decide
  have id : b.problem.id = a.problem.id := by
    change Ident.ofProblem "action" b.parts = Ident.ofProblem "action" a.parts
    rw [Ident.ofProblem, ← source, ← Ident.ofProblem]
  refine ⟨⟨⟨rfl, .inl (by decide)⟩, _, .head _, rfl⟩,
    ⟨⟨rfl, .inl (by decide)⟩, _, .tail _ (.head _), rfl⟩, by decide, congrArg Hash.utf8 source, ?_⟩
  have both : candidates Settings.default.signatures events = [a.problem, b.problem] := rfl
  rw [show Settings.default.watcher.firstReport events = _ from Findings.first_report _ _]
  change Except.ok (distinct (candidates Settings.default.signatures events)) = _
  rw [both, distinct_cons]
  simp [id, distinct]

end BuildDigest
