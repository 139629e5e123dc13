import BuildDigest.Proofs.TestTable

set_option autoImplicit false

namespace BuildDigest

/-! ### The first of each id -/

def distinct (ps : List Problem) : List Problem :=
  ps.eraseDupsBy fun p q => p.id == q.id

theorem distinct_cons (p : Problem) (ps : List Problem) :
    distinct (p :: ps) = p :: distinct (ps.filter fun q => q.id ≠ p.id) := by
  have others : (fun q : Problem => decide ((q.id == p.id) = false)) = fun q => decide (q.id ≠ p.id) := by
    funext q
    simp
  rw [distinct, List.eraseDupsBy_cons, others]
  rfl

theorem distinct_concat (ps : List Problem) (p : Problem) :
    distinct (ps ++ [p]) = if p.id ∈ ps.map (·.id) then distinct ps else distinct ps ++ [p] := by
  -- The first problem takes others out of the rest: the induction is on the length.
  match ps with
  | [] => rfl
  | first :: rest =>
    rw [List.cons_append, distinct_cons, distinct_cons, List.filter_append]
    by_cases same : p.id = first.id
    · have gone : [p].filter (fun q => q.id ≠ first.id) = [] := by simp [same]
      have known : p.id ∈ (first :: rest).map (·.id) := by simp [same]
      rw [gone, List.append_nil, if_pos known]
    · have kept : [p].filter (fun q => q.id ≠ first.id) = [p] := by simp [same]
      have known : p.id ∈ (rest.filter fun q => q.id ≠ first.id).map (·.id) ↔
          p.id ∈ (first :: rest).map (·.id) := by
        simp only [List.mem_map, List.mem_filter, List.mem_cons, decide_eq_true_eq]
        constructor
        · rintro ⟨q, ⟨member, -⟩, id⟩
          exact ⟨q, .inr member, id⟩
        · rintro ⟨q, rfl | member, id⟩
          · exact absurd id.symm same
          · exact ⟨q, ⟨member, id ▸ same⟩, id⟩
      have shorter := List.length_filter_le (fun q : Problem => decide (q.id ≠ first.id)) rest
      rw [kept, distinct_concat (rest.filter fun q => q.id ≠ first.id) p, if_congr known rfl rfl]
      split <;> rfl
termination_by ps.length
decreasing_by
  simp only [List.length_cons]
  omega

theorem mem_distinct_ids (ps : List Problem) (name : String) :
    name ∈ (distinct ps).map (·.id) ↔ name ∈ ps.map (·.id) := by
  induction ps using List.reverseRecOn with
  | nil => rfl
  | append_singleton ps p ih =>
    rw [distinct_concat]
    by_cases known : p.id ∈ ps.map (·.id)
    · rw [if_pos known, ih, List.map_append, List.mem_append]
      refine ⟨.inl, fun member => member.elim id fun last => ?_⟩
      rw [List.mem_singleton.1 last]
      exact known
    · rw [if_neg known, List.map_append, List.map_append, List.mem_append, List.mem_append, ih]

theorem distinct_ids_nodup (ps : List Problem) : ((distinct ps).map (·.id)).Nodup := by
  induction ps using List.reverseRecOn with
  | nil => exact List.nodup_nil
  | append_singleton ps p ih =>
    rw [distinct_concat]
    by_cases known : p.id ∈ ps.map (·.id)
    · rw [if_pos known]
      exact ih
    · rw [if_neg known, List.map_append, List.nodup_append]
      refine ⟨ih, by simp, fun name member last single same => known ?_⟩
      have new : last = p.id := List.mem_singleton.1 single
      rw [← new, ← same]
      exact (mem_distinct_ids ps name).1 member

theorem distinct_prefix (ps more : List Problem) : distinct ps <+: distinct (ps ++ more) := by
  induction more using List.reverseRecOn with
  | nil => simp
  | append_singleton more p ih =>
    rw [← List.append_assoc, distinct_concat]
    split
    · exact ih
    · exact ih.trans (List.prefix_append _ _)

theorem mem_distinct_append (ps more : List Problem) (p : Problem)
    (member : p ∈ distinct (ps ++ more)) : p ∈ distinct ps ∨ p ∈ more ∧ p.id ∉ ps.map (·.id) := by
  induction more using List.reverseRecOn with
  | nil => exact .inl (by simpa using member)
  | append_singleton more q ih =>
    rw [← List.append_assoc, distinct_concat] at member
    by_cases known : q.id ∈ (ps ++ more).map (·.id)
    · rw [if_pos known] at member
      exact (ih member).imp_right fun ⟨later, new⟩ => ⟨List.mem_append_left [q] later, new⟩
    · rw [if_neg known] at member
      rcases List.mem_append.1 member with earlier | last
      · exact (ih earlier).imp_right fun ⟨later, new⟩ => ⟨List.mem_append_left [q] later, new⟩
      · rw [List.mem_singleton.1 last]
        refine .inr ⟨List.mem_append_right more (.head _), fun old => known ?_⟩
        rw [List.map_append]
        exact List.mem_append_left _ old

theorem distinct_namesake (ps : List Problem) (p : Problem) (member : p ∈ ps) :
    ∃ q ∈ distinct ps, q ∈ ps ∧ q.id = p.id := by
  obtain ⟨q, kept, id⟩ := List.mem_map.1 ((mem_distinct_ids ps p.id).2 (List.mem_map_of_mem member))
  rcases mem_distinct_append [] ps q kept with nothing | ⟨known, -⟩
  · cases nothing
  · exact ⟨q, kept, known, id⟩

/-! ### Candidates -/

def Wire.TargetCompleted.Failing (t : Wire.TargetCompleted) : Prop :=
  (t.success = false ∨ t.aborted ≠ none) ∧ t.aborted.map (·.reason) ≠ some .skipped

theorem Wire.TargetCompleted.failed_iff (t : Wire.TargetCompleted) : t.failed ↔ t.Failing := by
  unfold failed Failing
  cases aborted : t.aborted <;> simp

instance (t : Wire.TargetCompleted) : Decidable t.Failing :=
  decidable_of_iff _ t.failed_iff

-- What tells a failed action from others. An output that is not there has an empty address.
def Wire.ActionExecuted.parts (a : Wire.ActionExecuted) : List String :=
  let address (file : Option Wire.File) := ((file.bind Blob.ofFile?).map Blob.uri).getD ""
  [a.label, a.actionType, address a.stdout, address a.stderr]

def attemptsOf (label : String) (events : List Event) : List Attempt :=
  (events.reverse.takeWhile fun e => !e.concerns .testSummary label).reverse.filterMap fun e =>
    (e.payload.resultOf? label).map .ofResult

namespace Event

def candidates (signatures : List Pattern) (before : List Event) (e : Event) : List Problem :=
  match e.payload with
  | .actionExecuted a =>
      let stdout := a.stdout.bind Blob.ofFile?
      let stderr := a.stderr.bind Blob.ofFile?
      let address (blob : Option Blob) := (blob.map Blob.uri).getD ""
      let id := Ident.ofProblem "action" [a.label, a.actionType, address stdout, address stderr]
      if a.success = false ∧ (stdout ≠ none ∨ stderr ≠ none) then
        [.action id a.label a.actionType stdout stderr]
      else []
  | .progress p =>
      let erring := [p.stdout, p.stderr].filter fun chunk =>
        chunk ≠ "" ∧ ∃ signature ∈ signatures, signature.occursIn chunk
      erring.map fun chunk =>
        let output := Text.trimRight chunk
        .progress (Ident.ofProblem "progress" [output]) (Label.inText output) output
  | .targetCompleted t =>
      if t.label ≠ "" ∧ t.Failing then [.target (Ident.ofProblem "target" [t.label]) t.label] else []
  | .testSummary s =>
      let id := Ident.ofProblem "test" [s.label]
      if s.label ≠ "" ∧ s.overallStatus ≠ .passed then
        [.test id s.label s.overallStatus (attemptsOf s.label before)]
      else []
  | _ => []

def unlabelledFailure? (e : Event) : Option UnlabelledFailure :=
  match e.payload with
  | .targetCompleted t => if t.label = "" ∧ t.Failing then some ⟨.targetCompleted⟩ else none
  | .testSummary s =>
      if s.label = "" ∧ s.overallStatus ≠ .passed then some ⟨.testSummary⟩ else none
  | _ => none

end Event

def candidatesBehind (signatures : List Pattern) (before : List Event) :
    List Event → List Problem
  | [] => []
  | e :: rest => e.candidates signatures before ++ candidatesBehind signatures (before ++ [e]) rest

def candidates (signatures : List Pattern) (events : List Event) : List Problem :=
  candidatesBehind signatures [] events

theorem candidates_behind_append (signatures : List Pattern) (before events more : List Event) :
    candidatesBehind signatures before (events ++ more) =
      candidatesBehind signatures before events ++
        candidatesBehind signatures (before ++ events) more := by
  induction events generalizing before with
  | nil => simp [candidatesBehind]
  | cons e rest ih => simp [candidatesBehind, ih]

theorem candidates_append (signatures : List Pattern) (events more : List Event) :
    candidates signatures (events ++ more) =
      candidates signatures events ++ candidatesBehind signatures events more :=
  candidates_behind_append signatures [] events more

@[simp] theorem candidates_concat (signatures : List Pattern) (events : List Event) (e : Event) :
    candidates signatures (events ++ [e]) =
      candidates signatures events ++ e.candidates signatures events := by
  rw [candidates_append, candidatesBehind, candidatesBehind, List.append_nil]

theorem mem_candidates_iff (signatures : List Pattern) (events : List Event) (p : Problem) :
    p ∈ candidates signatures events ↔
      ∃ before e after, events = before ++ e :: after ∧ p ∈ e.candidates signatures before := by
  constructor
  · intro member
    induction events using List.reverseRecOn with
    | nil => cases member
    | append_singleton events e ih =>
      rw [candidates_concat] at member
      rcases List.mem_append.1 member with earlier | last
      · obtain ⟨before, x, after, split, given⟩ := ih earlier
        exact ⟨before, x, after ++ [e], by simp [split], given⟩
      · exact ⟨events, e, [], rfl, last⟩
  · rintro ⟨before, e, after, rfl, given⟩
    rw [candidates_append, candidatesBehind]
    exact List.mem_append_right _ (List.mem_append_left _ given)

theorem reported_candidate (signatures : List Pattern) (events : List Event) (p : Problem)
    (reported : p ∈ distinct (candidates signatures events)) :
    ∃ before e after, events = before ++ e :: after ∧ p ∈ e.candidates signatures before ∧
      p.id ∉ (candidates signatures before).map (·.id) := by
  induction events using List.reverseRecOn with
  | nil => cases reported
  | append_singleton events e ih =>
    rw [candidates_concat] at reported
    rcases mem_distinct_append _ _ p reported with earlier | ⟨last, new⟩
    · obtain ⟨before, x, after, split, member, first⟩ := ih earlier
      exact ⟨before, x, after ++ [e], by simp [split], member, first⟩
    · exact ⟨events, e, [], rfl, last, new⟩

theorem candidate_known (signatures : List Pattern) (before : List Event) (e : Event)
    (after : List Event) (p : Problem) (member : p ∈ e.candidates signatures before) :
    p.id ∈ (candidates signatures (before ++ e :: after)).map (·.id) :=
  List.mem_map_of_mem ((mem_candidates_iff signatures _ p).2 ⟨before, e, after, rfl, member⟩)

theorem candidate_reported (signatures : List Pattern) (events before : List Event) (e : Event)
    (after : List Event) (p : Problem) (split : events = before ++ e :: after)
    (member : p ∈ e.candidates signatures before) :
    ∃ q ∈ distinct (candidates signatures events), q.id = p.id := by
  have known := (mem_candidates_iff signatures events p).2 ⟨before, e, after, split, member⟩
  obtain ⟨q, kept, -, id⟩ := distinct_namesake (candidates signatures events) p known
  exact ⟨q, kept, id⟩

@[simp] theorem attempts_concat (label : String) (events : List Event) (e : Event) :
    attemptsOf label (events ++ [e]) =
      if e.concerns .testSummary label then []
      else attemptsOf label events ++ ((e.payload.resultOf? label).map .ofResult).toList := by
  rw [attemptsOf, List.reverse_append, List.reverse_singleton, List.singleton_append,
    List.takeWhile_cons]
  cases summary : e.concerns .testSummary label with
  | true => rfl
  | false =>
    cases result : e.payload.resultOf? label <;> simp [attemptsOf, result]

/-! ### One event -/

namespace Problem

theorem of_action_candidate (signatures : List Pattern) (before : List Event) (e : Event)
    (a : Wire.ActionExecuted) (payload : e.payload = .actionExecuted a) :
    e.candidates signatures before = (ofAction? a).toList := by
  rw [Event.candidates, payload, ofAction?]
  simp only
  generalize a.stdout.bind Blob.ofFile? = stdout
  generalize a.stderr.bind Blob.ofFile? = stderr
  by_cases succeeded : a.success = true
  · simp [succeeded]
  · cases stdout <;> cases stderr <;> simp [succeeded]

theorem of_output_candidates (signatures : List Pattern) (before : List Event) (e : Event)
    (p : Wire.Progress) (payload : e.payload = .progress p) :
    e.candidates signatures before =
      [p.stdout, p.stderr].filterMap (ofOutput? signatures) := by
  rw [Event.candidates, payload]
  simp only
  induction [p.stdout, p.stderr] with
  | nil => rfl
  | cons chunk rest ih =>
    rw [List.filter_cons, List.filterMap_cons, ofOutput?]
    by_cases erring : chunk ≠ "" ∧ ∃ signature ∈ signatures, signature.occursIn chunk
    · have some : ¬(chunk.isEmpty || !signatures.any fun p => p.occursIn chunk) := by
        simpa [String.isEmpty_iff] using erring
      rw [if_pos (decide_eq_true erring), if_neg some, List.map_cons, ih]
    · have none : (chunk.isEmpty || !signatures.any fun p => p.occursIn chunk) := by
        simpa [String.isEmpty_iff, Decidable.or_iff_not_imp_left] using erring
      rw [if_neg (fun holds => erring (of_decide_eq_true holds)), if_pos none, ih]

inductive MadeOf (before : List Event) : Payload → Problem → Prop
  | action (a : Wire.ActionExecuted) :
      MadeOf before (.actionExecuted a)
        (.action (Ident.ofProblem "action" a.parts) a.label a.actionType
          (a.stdout.bind Blob.ofFile?) (a.stderr.bind Blob.ofFile?))
  | progress (m : Wire.Progress) (output : String) :
      MadeOf before (.progress m)
        (.progress (Ident.ofProblem "progress" [output]) (Label.inText output) output)
  | target (t : Wire.TargetCompleted) : MadeOf before (.targetCompleted t) (.ofTarget t.label)
  | test (s : Wire.TestSummary) :
      MadeOf before (.testSummary s) (.ofTest s.label s.overallStatus (attemptsOf s.label before))

theorem made_of_event (signatures : List Pattern) (before : List Event) (e : Event) (p : Problem)
    (candidate : p ∈ e.candidates signatures before) : MadeOf before e.payload p := by
  cases payload : e.payload with
  | actionExecuted a =>
    simp only [Event.candidates, payload] at candidate
    split at candidate
    · rw [List.mem_singleton.1 candidate]
      exact .action a
    · cases candidate
  | progress m =>
    simp only [Event.candidates, payload, List.mem_map] at candidate
    obtain ⟨chunk, -, rfl⟩ := candidate
    exact .progress m (Text.trimRight chunk)
  | targetCompleted t =>
    simp only [Event.candidates, payload] at candidate
    split at candidate
    · rw [List.mem_singleton.1 candidate]
      exact .target t
    · cases candidate
  | testSummary s =>
    simp only [Event.candidates, payload] at candidate
    split at candidate
    · rw [List.mem_singleton.1 candidate]
      exact .test s
    · cases candidate
  | _ =>
    simp only [Event.candidates, payload] at candidate
    cases candidate

end Problem

namespace Findings

-- The findings have reported the problems, each id once.
structure Holds (ps : List Problem) (f : Findings) : Prop where
  problems : f.problems = distinct ps
  known : ∀ name, name ∈ f.known ↔ name ∈ ps.map (·.id)

theorem add_holds (ps : List Problem) (f : Findings) (p : Problem) (holds : f.Holds ps) :
    (f.add p).Holds (ps ++ [p]) := by
  unfold add
  by_cases known : p.id ∈ ps.map (·.id)
  · rw [if_pos (List.contains_iff_mem.2 ((holds.known p.id).2 known))]
    refine ⟨?_, fun name => ?_⟩
    · rw [holds.problems, distinct_concat, if_pos known]
    · rw [holds.known, List.map_append, List.mem_append]
      refine ⟨.inl, fun member => member.elim id fun last => ?_⟩
      rw [List.mem_singleton.1 last]
      exact known
  · rw [if_neg (fun found => known ((holds.known p.id).1 (List.contains_iff_mem.1 found)))]
    refine ⟨?_, fun name => ?_⟩
    · rw [distinct_concat, if_neg known, holds.problems]
    · rw [List.mem_cons, holds.known, List.map_append, List.mem_append, Or.comm]
      simp

theorem add_all_holds (ps more : List Problem) (f : Findings) (holds : f.Holds ps) :
    (f.addAll more).Holds (ps ++ more) := by
  induction more generalizing ps f with
  | nil =>
    rw [List.append_nil]
    exact holds
  | cons p rest ih =>
    rw [List.append_cons]
    exact ih (ps ++ [p]) (f.add p) (add_holds ps f p holds)

@[simp] theorem add_pending (f : Findings) (p : Problem) : (f.add p).pending = f.pending := by
  unfold add
  split <;> rfl

@[simp] theorem add_all_pending (f : Findings) (ps : List Problem) :
    (f.addAll ps).pending = f.pending := by
  induction ps generalizing f with
  | nil => rfl
  | cons p rest ih => exact (ih (f.add p)).trans (add_pending f p)

@[simp] theorem add_unlabelled_of_add (f : Findings) (p : Problem) :
    (f.add p).unlabelled = f.unlabelled := by
  unfold add
  split <;> rfl

@[simp] theorem add_all_unlabelled (f : Findings) (ps : List Problem) :
    (f.addAll ps).unlabelled = f.unlabelled := by
  induction ps generalizing f with
  | nil => rfl
  | cons p rest ih => exact (ih (f.add p)).trans (add_unlabelled_of_add f p)

theorem see_target_eq (t : Wire.TargetCompleted) (f : Findings) :
    f.seeTarget t =
      if t.Failing then
        if t.label = "" then f.addUnlabelled .targetCompleted else f.add (.ofTarget t.label)
      else f := by
  unfold seeTarget
  by_cases failing : t.Failing
  · have failed : ¬(!t.failed) = true := by simp [t.failed_iff.2 failing]
    rw [if_neg failed, if_pos failing]
    exact if_congr String.isEmpty_iff rfl rfl
  · have passed : (!t.failed) = true := by
      simpa using fun failed => failing (t.failed_iff.1 failed)
    rw [if_pos passed, if_neg failing]

/-! What each handler does to the attempts that wait for a label. -/

@[simp] theorem see_target_pending (t : Wire.TargetCompleted) (f : Findings) :
    (f.seeTarget t).pending = f.pending := by
  rw [see_target_eq]
  split
  · split
    · rfl
    · exact add_pending f _
  · rfl

theorem see_result_pending (r : Wire.TestResult) (f : Findings) (label : String)
    (labelled : label ≠ "") :
    ((f.seeResult r).pending.get? label).getD [] =
      (f.pending.get? label).getD [] ++ if r.label = label then [.ofResult r] else [] := by
  unfold seeResult
  by_cases same : r.label = label
  · subst same
    rw [if_neg (not_isEmpty r.label labelled), if_pos rfl]
    simp [KeyMap.get?_insert]
  · rw [if_neg same, List.append_nil]
    split
    · rfl
    · simp [KeyMap.get?_insert, Ne.symm same]

theorem see_summary_pending (s : Wire.TestSummary) (f : Findings) (label : String)
    (labelled : label ≠ "") :
    ((f.seeSummary s).pending.get? label).getD [] =
      if s.label = label then [] else (f.pending.get? label).getD [] := by
  have erased : ((f.pending.erase s.label).get? label).getD [] =
      if s.label = label then [] else (f.pending.get? label).getD [] := by
    rw [KeyMap.get?_erase]
    by_cases same : s.label = label
    · rw [if_pos same, if_pos same.symm]
      rfl
    · rw [if_neg same, if_neg (Ne.symm same)]
  simp only [seeSummary]
  split
  · exact erased
  · split
    · next empty =>
      have other : s.label ≠ label := fun same =>
        labelled (same.symm.trans (String.isEmpty_iff.1 empty))
      rw [if_neg other]
      rfl
    · rw [add_pending]
      exact erased

theorem see_pending (signatures : List Pattern) (e : Event) (f : Findings) (label : String)
    (labelled : label ≠ "") :
    ((f.see signatures e).pending.get? label).getD [] =
      if e.concerns .testSummary label then []
      else (f.pending.get? label).getD [] ++
        ((e.payload.resultOf? label).map Attempt.ofResult).toList := by
  cases payload : e.payload with
  | testResult r =>
    simp only [see, payload, see_result_pending r f label labelled, Event.concerns, Payload.kind?,
      Payload.resultOf?]
    split <;> simp
  | testSummary s =>
    simp only [see, payload, see_summary_pending s f label labelled, Event.concerns, Payload.kind?,
      Payload.resultOf?, Payload.subject?]
    split <;> simp [*]
  | targetCompleted t =>
    simp [Event.concerns, see, payload, Payload.kind?, Payload.resultOf?, see_target_pending]
  | _ => simp [Event.concerns, see, payload, Payload.kind?, Payload.resultOf?]

/-! What each handler makes of a failure without a label. -/

theorem see_target_unlabelled (t : Wire.TargetCompleted) (f : Findings) :
    (f.seeTarget t).unlabelled =
      f.unlabelled.or (if t.label = "" ∧ t.Failing then some ⟨.targetCompleted⟩ else none) := by
  rw [see_target_eq]
  by_cases failing : t.Failing
  · rw [if_pos failing]
    by_cases empty : t.label = ""
    · rw [if_pos empty, if_pos ⟨empty, failing⟩]
      rfl
    · rw [if_neg empty, if_neg (fun both => empty both.1), add_unlabelled_of_add, Option.or_none]
  · rw [if_neg failing, if_neg (fun both => failing both.2), Option.or_none]

theorem see_summary_unlabelled (s : Wire.TestSummary) (f : Findings) :
    (f.seeSummary s).unlabelled =
      f.unlabelled.or
        (if s.label = "" ∧ s.overallStatus ≠ .passed then some ⟨.testSummary⟩ else none) := by
  simp only [seeSummary]
  by_cases passed : s.overallStatus = .passed
  · rw [if_pos passed, if_neg (fun both => both.2 passed), Option.or_none]
  · rw [if_neg passed]
    by_cases empty : s.label = ""
    · rw [if_pos (String.isEmpty_iff.2 empty), if_pos ⟨empty, passed⟩]
      rfl
    · rw [if_neg (not_isEmpty s.label empty), if_neg (fun both => empty both.1),
        add_unlabelled_of_add, Option.or_none]

@[simp] theorem see_unlabelled (signatures : List Pattern) (e : Event) (f : Findings) :
    (f.see signatures e).unlabelled = f.unlabelled.or e.unlabelledFailure? := by
  cases payload : e.payload with
  | targetCompleted t =>
    simp only [see, payload, Event.unlabelledFailure?]
    exact see_target_unlabelled t f
  | testSummary s =>
    simp only [see, payload, Event.unlabelledFailure?]
    exact see_summary_unlabelled s f
  | testResult r =>
    simp only [see, payload, seeResult, Event.unlabelledFailure?, Option.or_none]
    split <;> rfl
  | _ => simp [see, payload, Event.unlabelledFailure?]

/-! What each handler reports. -/

theorem see_target_holds (t : Wire.TargetCompleted) (f : Findings) (ps : List Problem)
    (holds : f.Holds ps) :
    (f.seeTarget t).Holds (ps ++ if t.label ≠ "" ∧ t.Failing then [.ofTarget t.label] else []) := by
  rw [see_target_eq]
  by_cases failing : t.Failing
  · rw [if_pos failing]
    by_cases empty : t.label = ""
    · rw [if_pos empty, if_neg (fun both => both.1 empty), List.append_nil]
      exact ⟨holds.problems, holds.known⟩
    · rw [if_neg empty, if_pos ⟨empty, failing⟩]
      exact add_holds ps f _ holds
  · rw [if_neg failing, if_neg (fun both => failing both.2), List.append_nil]
    exact holds

theorem see_summary_holds (s : Wire.TestSummary) (f : Findings) (ps : List Problem)
    (attempts : List Attempt) (holds : f.Holds ps)
    (pending : s.label ≠ "" → (f.pending.get? s.label).getD [] = attempts) :
    (f.seeSummary s).Holds (ps ++
      if s.label ≠ "" ∧ s.overallStatus ≠ .passed then [.ofTest s.label s.overallStatus attempts]
      else []) := by
  have closed : Holds ps { f with pending := f.pending.erase s.label } :=
    ⟨holds.problems, holds.known⟩
  simp only [seeSummary]
  by_cases passed : s.overallStatus = .passed
  · rw [if_pos passed, if_neg (fun both => both.2 passed), List.append_nil]
    exact closed
  · rw [if_neg passed]
    by_cases empty : s.label = ""
    · rw [if_pos (String.isEmpty_iff.2 empty), if_neg (fun both => both.1 empty), List.append_nil]
      exact ⟨holds.problems, holds.known⟩
    · rw [if_neg (not_isEmpty s.label empty), if_pos ⟨empty, passed⟩, pending empty]
      exact add_holds ps _ _ closed

theorem see_holds (signatures : List Pattern) (before : List Event) (e : Event) (f : Findings)
    (ps : List Problem) (holds : f.Holds ps)
    (pending : ∀ label, label ≠ "" → (f.pending.get? label).getD [] = attemptsOf label before) :
    (f.see signatures e).Holds (ps ++ e.candidates signatures before) := by
  cases payload : e.payload with
  | actionExecuted a =>
    rw [Problem.of_action_candidate signatures before e a payload, see, payload]
    exact add_all_holds ps _ f holds
  | progress p =>
    rw [Problem.of_output_candidates signatures before e p payload, see, payload]
    exact add_all_holds ps _ f holds
  | targetCompleted t =>
    simp only [see, payload, Event.candidates]
    exact see_target_holds t f ps holds
  | testSummary s =>
    simp only [see, payload, Event.candidates]
    exact see_summary_holds s f ps _ holds (pending s.label)
  | testResult r =>
    simp only [see, payload, seeResult, Event.candidates, List.append_nil]
    split
    · exact holds
    · exact ⟨holds.problems, holds.known⟩
  | _ =>
    simp only [see, payload, Event.candidates, List.append_nil]
    exact holds

/-! ### A history -/

structure Follows (signatures : List Pattern) (events : List Event) (f : Findings) : Prop where
  pending : ∀ label, label ≠ "" → (f.pending.get? label).getD [] = attemptsOf label events
  holds : f.Holds (candidates signatures events)
  unlabelled : f.unlabelled = events.findSome? Event.unlabelledFailure?

theorem follows_nothing (signatures : List Pattern) : Follows signatures [] {} where
  pending _ _ := rfl
  holds := ⟨rfl, fun _ => Iff.rfl⟩
  unlabelled := rfl

theorem follows_concat (signatures : List Pattern) (events : List Event) (e : Event) (f : Findings)
    (follows : f.Follows signatures events) :
    (f.see signatures e).Follows signatures (events ++ [e]) where
  pending label labelled := by
    rw [see_pending signatures e f label labelled, follows.pending label labelled, attempts_concat]
  holds := by
    rw [candidates_concat]
    exact see_holds signatures events e f _ follows.holds follows.pending
  unlabelled := by
    rw [see_unlabelled, follows.unlabelled, List.findSome?_append, List.findSome?_singleton]

theorem after_follows (signatures : List Pattern) (events : List Event) :
    ((watcher signatures).after events (watcher signatures).start).Follows signatures events := by
  induction events using List.reverseRecOn with
  | nil => exact follows_nothing signatures
  | append_singleton events e ih =>
    rw [Watcher.after_concat]
    exact follows_concat signatures events e _ ih

theorem report_first (f : Findings) :
    f.report.1 =
      match f.unlabelled with
      | some failure => .error failure
      | none => .ok f.problems := by
  unfold report
  cases f.unlabelled <;> rfl

end Findings

def Watcher.firstReport {σ : Type} (w : Watcher σ) (events : List Event) :
    Except UnlabelledFailure (List Problem) :=
  (w.report (w.after events w.start)).1

theorem Findings.first_report (signatures : List Pattern) (events : List Event) :
    (watcher signatures).firstReport events =
      match events.findSome? Event.unlabelledFailure? with
      | some failure => .error failure
      | none => .ok (distinct (candidates signatures events)) := by
  have follows := after_follows signatures events
  rw [← follows.unlabelled, ← follows.holds.problems]
  exact report_first _

theorem Findings.first_report_ok (signatures : List Pattern) (events : List Event)
    (problems : List Problem) (reported : (watcher signatures).firstReport events = .ok problems) :
    problems = distinct (candidates signatures events) := by
  rw [first_report] at reported
  split at reported
  · cases reported
  · exact (Except.ok.inj reported).symm

-- The report is the first failure without a label, or the first candidate of each id. It grows at
-- its end as the history does.
theorem Settings.report_of_history (settings : Settings) (events : List Event) :
    (settings.watcher.firstReport events =
      match events.findSome? Event.unlabelledFailure? with
      | some failure => .error failure
      | none => .ok (distinct (candidates settings.signatures events))) ∧
    ∀ problems, settings.watcher.firstReport events = .ok problems →
      (problems.map (·.id)).Nodup ∧
      ∀ more later, settings.watcher.firstReport (events ++ more) = .ok later →
        problems <+: later := by
  refine ⟨Findings.first_report settings.signatures events, fun problems reported => ?_⟩
  have whole := Findings.first_report_ok settings.signatures events problems reported
  subst whole
  refine ⟨distinct_ids_nodup _, fun more later extended => ?_⟩
  rw [Findings.first_report_ok settings.signatures _ later extended, candidates_append]
  exact distinct_prefix _ _

theorem Settings.empty_output_unreported :
    let settings : Settings := { Settings.default with patterns := ["x*"] }
    let events : List Event := [{ payload := .progress { stdout := "", stderr := "" } }]
    (∃ signature ∈ settings.signatures, signature.occursIn "") ∧
      settings.watcher.firstReport events ≠
        .ok [.progress (Ident.ofProblem "progress" [""]) "" ""] := by
  refine ⟨by decide, fun reported => ?_⟩
  cases reported

end BuildDigest
