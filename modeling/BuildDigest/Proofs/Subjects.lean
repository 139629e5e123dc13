import BuildDigest.Proofs.Actions

set_option autoImplicit false

namespace BuildDigest

theorem Json.digits_injective (m n : Nat) (same : Nat.toDigits 10 m = Nat.toDigits 10 n) :
    m = n := by
  have value := congrArg (Nat.ofDigitChars 10 · 0) same
  simpa only [Nat.ofDigitChars_ten_toDigits] using value

theorem Json.decimal_chars (n : Int) (c : Char) (member : c ∈ decimal n) :
    c = '-' ∨ c.isDigit := by
  have digit (k : Nat) (inside : c ∈ Nat.toDigits 10 k) : c.isDigit :=
    Nat.isDigit_of_mem_toDigits (by decide) (by decide) inside
  cases n with
  | ofNat k => exact .inr (digit k member)
  | negSucc k => exact (List.mem_cons.1 member).imp_right (digit (k + 1))

theorem Json.decimal_injective (m n : Int) (same : decimal m = decimal n) : m = n := by
  -- A number below zero begins with a sign, and the others have digits only.
  have unsigned (k l : Nat) (signed : '-' :: Nat.toDigits 10 l = Nat.toDigits 10 k) : False := by
    have digit := Nat.isDigit_of_mem_toDigits (b := 10) (by decide) (by decide)
      (signed ▸ List.mem_cons_self)
    exact absurd digit (by decide)
  cases m with
  | ofNat k =>
    cases n with
    | ofNat l => rw [digits_injective k l same]
    | negSucc l => exact (unsigned k (l + 1) same.symm).elim
  | negSucc k =>
    cases n with
    | ofNat l => exact (unsigned l (k + 1) same).elim
    | negSucc l => rw [Nat.succ.inj (digits_injective (k + 1) (l + 1) (List.cons.inj same).2)]

namespace Attempt

theorem number_injective (m n : Int32) (same : number m = number n) : m = n :=
  Int32.toInt_inj.1 (Json.decimal_injective _ _ (String.ofList_injective same))

theorem number_plain (n : Int32) : '|' ∉ (number n).toList := by
  rw [number, String.toList_ofList]
  intro member
  exact absurd (Json.decimal_chars n.toInt '|' member) (by decide)

end Attempt

inductive Subject where
  | action (label actionType stdout stderr : String)
  | progress (output : String)
  | target (label : String)
  | test (label : String)
  | attempt (label : String) (run shard number : Int32)

namespace Subject

def kind : Subject → String
  | action .. => "action"
  | progress .. => "progress"
  | target .. => "target"
  | test .. => "test"
  | attempt .. => "test_result"

def parts : Subject → List String
  | action label actionType stdout stderr => [label, actionType, stdout, stderr]
  | progress output => [output]
  | target label => [label]
  | test label => [label]
  | attempt label run shard number =>
      [label, Attempt.number run, Attempt.number shard, Attempt.number number]

def hashed (s : Subject) : List UInt8 :=
  Hash.utf8 (Ident.source s.kind s.parts)

def name (s : Subject) : String :=
  "prb-" ++ String.ofList (Hash.hex ((Hash.Blake3.digest s.hashed).take 12))

theorem kind_plain (s : Subject) : '|' ∉ s.kind.toList := by
  cases s <;> simp [kind]

theorem parts_injective (a b : Subject) (alike : a.kind = b.kind) (same : a.parts = b.parts) :
    a = b := by
  cases a with
  | attempt label run shard number =>
    cases b with
    | attempt other otherRun otherShard otherNumber =>
      simp only [parts, List.cons.injEq, and_true] at same
      obtain ⟨labels, runs, shards, numbers⟩ := same
      rw [labels, Attempt.number_injective _ _ runs, Attempt.number_injective _ _ shards,
        Attempt.number_injective _ _ numbers]
    | _ => simp [kind] at alike
  | _ => cases b <;> simp_all [kind, parts]

-- Behind the first part of a subject that is no action there are only numbers, or nothing.
theorem parts_behind (s : Subject) (noAction : s.kind ≠ "action") :
    ∃ first rest, s.parts = first :: rest ∧ Ident.Plain rest ∧
      rest.length = if s.kind = "test_result" then 3 else 0 := by
  cases s with
  | action => exact absurd rfl noAction
  | progress output => exact ⟨output, [], rfl, nofun, rfl⟩
  | target label => exact ⟨label, [], rfl, nofun, rfl⟩
  | test label => exact ⟨label, [], rfl, nofun, rfl⟩
  | attempt label run shard number =>
    refine ⟨label, _, rfl, ?_, rfl⟩
    simp [Ident.Plain, Attempt.number_plain]

theorem hashed_alike (a b : Subject) (same : a.hashed = b.hashed) :
    a.kind = b.kind ∧ Ident.pieces a.parts = Ident.pieces b.parts :=
  Ident.source_told a.kind b.kind a.parts b.parts a.kind_plain b.kind_plain
    ((Ident.bytes_eq_iff _ _).1 same)

theorem hashed_same (a b : Subject) (noAction : a.kind ≠ "action") (same : a.hashed = b.hashed) :
    a = b := by
  obtain ⟨alike, pieces⟩ := hashed_alike a b same
  obtain ⟨first, rest, parts, plain, length⟩ := a.parts_behind noAction
  obtain ⟨other, others, otherParts, otherPlain, otherLength⟩ := b.parts_behind (alike ▸ noAction)
  rw [parts, otherParts] at pieces
  have lengths : rest.length = others.length := by rw [length, otherLength, alike]
  apply parts_injective a b alike
  rw [parts, otherParts]
  exact Ident.first_determined first other rest others plain otherPlain lengths pieces

end Subject

def Problem.subject : Problem → Subject
  | action _ label actionType stdout stderr =>
      let address (blob : Option Blob) := (blob.map Blob.uri).getD ""
      .action label actionType (address stdout) (address stderr)
  | progress _ _ output => .progress output
  | target _ label => .target label
  | test _ label _ _ => .test label

def Wire.TestResult.subject (r : Wire.TestResult) : Subject :=
  .attempt r.label r.run r.shard r.attempt

def Problem.names (p : Problem) : List (String × Subject) :=
  (p.id, p.subject) ::
    match p with
    | test _ label _ results => results.map fun a => (a.id, .attempt label a.run a.shard a.attempt)
    | _ => []

theorem attempt_named (label : String) (events : List Event) (a : Attempt)
    (attempt : a ∈ attemptsOf label events) :
    a.id = (Subject.attempt label a.run a.shard a.attempt).name := by
  obtain ⟨e, -, result⟩ := List.mem_filterMap.1 attempt
  obtain ⟨r, found, rfl⟩ := Option.map_eq_some_iff.1 result
  obtain ⟨-, rfl⟩ := (Payload.result_view.eq_some_iff label e.payload r).1 found
  rfl

theorem Problem.names_made (signatures : List Pattern) (events : List Event) (p : Problem)
    (candidate : p ∈ candidates signatures events) : ∀ n ∈ p.names, n.1 = n.2.name := by
  obtain ⟨before, e, after, -, given⟩ := (mem_candidates_iff signatures events p).1 candidate
  have made := made_of_event signatures before e p given
  generalize e.payload = payload at made
  refine List.forall_mem_cons.2 ⟨?_, ?_⟩
  · cases made <;> rfl
  · cases made with
    | test s =>
      refine List.forall_mem_map.2 fun a attempt => ?_
      exact attempt_named s.label before a attempt
    | _ => exact nofun

-- What a name is a hash of tells its kind, and all parts of what goes by it but for an action.
theorem Subject.told_apart :
    (∀ a b : Subject, a.hashed = b.hashed → a.kind = b.kind ∧ (a.kind ≠ "action" → a = b)) ∧
    (∀ r q : Wire.TestResult, r.subject.hashed = q.subject.hashed ↔
      r.label = q.label ∧ r.run = q.run ∧ r.shard = q.shard ∧ r.attempt = q.attempt) ∧
    (∀ r : Wire.TestResult, (Attempt.ofResult r).id = r.subject.name) ∧
    ∀ signatures events, ∀ p ∈ candidates signatures events, ∀ n ∈ p.names, n.1 = n.2.name := by
  refine ⟨fun a b same => ⟨(hashed_alike a b same).1, (hashed_same a b · same)⟩, fun r q => ?_,
    fun _ => rfl, Problem.names_made⟩
  have noAction : r.subject.kind ≠ "action" := by simp [Wire.TestResult.subject, kind]
  rw [← attempt.injEq]
  exact ⟨hashed_same r.subject q.subject noAction, congrArg hashed⟩

theorem Subject.barred_told_apart :
    (Subject.test "//t|1|0|2").hashed ≠ (Subject.attempt "//t" 1 0 2).hashed ∧
      (Subject.attempt "//t|1" 2 3 4).hashed ≠ (Subject.attempt "//t" 1 2 3).hashed := by
  constructor
  · intro same
    exact absurd (told_apart.1 _ _ same).1 (by decide)
  · intro same
    have one := (told_apart.1 _ _ same).2 (by decide)
    exact absurd (attempt.inj one).1 (by decide)

end BuildDigest
