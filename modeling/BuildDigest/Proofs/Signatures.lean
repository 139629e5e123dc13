import BuildDigest.Proofs.Agreement
import BuildDigest.Proofs.Occurrence
import BuildDigest.Proofs.Pieces

set_option autoImplicit false

namespace BuildDigest

namespace Text

def Opens (separator : Char) (front : List Char) : Prop :=
  front = [] ∨ ∃ earlier, front = earlier ++ [separator]

theorem opens_append (separator : Char) (piece front : List Char) (opens : Opens separator front) :
    Opens separator (piece ++ [separator] ++ front) := by
  rcases opens with empty | ⟨earlier, split⟩
  · exact .inr ⟨piece, by rw [empty, List.append_nil]⟩
  · exact .inr ⟨piece ++ [separator] ++ earlier, by rw [split, List.append_assoc _ earlier]⟩

theorem joined_piece (separator : Char) (before : List (List Char)) (piece : List Char)
    (after : List (List Char)) :
    ∃ front rest, [separator].intercalate (before ++ piece :: after) = front ++ (piece ++ rest) ∧
      Opens separator front := by
  induction before with
  | nil =>
    cases after with
    | nil => exact ⟨[], [], by simp, .inl rfl⟩
    | cons next more =>
      refine ⟨[], [separator] ++ [separator].intercalate (next :: more), ?_, .inl rfl⟩
      simp [List.intercalate_cons_cons]
  | cons first before ih =>
    obtain ⟨front, rest, joined, opens⟩ := ih
    obtain ⟨next, more, some⟩ : ∃ next more, before ++ piece :: after = next :: more :=
      List.exists_cons_of_ne_nil (by simp)
    refine ⟨first ++ [separator] ++ front, rest, ?_, opens_append separator first front opens⟩
    rw [List.cons_append, some, List.intercalate_cons_cons, ← some, joined,
      List.append_assoc _ front]

theorem pieces_behind (separator : Char) (front rest : List Char) (opens : Opens separator front) :
    pieces separator rest <:+ pieces separator (front ++ rest) := by
  rcases opens with empty | ⟨earlier, split⟩
  · subst empty
    exact List.suffix_rfl
  · rw [split, List.append_assoc, List.singleton_append, pieces_append]
    exact List.suffix_append _ _

theorem pieces_word (separator : Char) (word rest : List Char) (plain : separator ∉ word) :
    ∃ first more, pieces separator (word ++ rest) = (word ++ first) :: more := by
  induction word with
  | nil => exact List.exists_cons_of_ne_nil (pieces_some separator rest)
  | cons c word ih =>
    have different : c ≠ separator := fun same => plain (same ▸ .head _)
    obtain ⟨first, more, split⟩ := ih fun member => plain (.tail c member)
    refine ⟨first, more, ?_⟩
    rw [List.cons_append, pieces, if_neg different, split]
    rfl

theorem piece_begins_iff (separator : Char) (word text : List Char) (plain : separator ∉ word) :
    (∃ piece ∈ pieces separator text, word <+: piece) ↔
      ∃ front rest, text = front ++ rest ∧ Opens separator front ∧ word <+: rest := by
  constructor
  · intro ⟨piece, member, begins⟩
    obtain ⟨before, after, split⟩ := List.append_of_mem member
    obtain ⟨front, rest, joined, opens⟩ := joined_piece separator before piece after
    rw [← split, pieces_joined] at joined
    exact ⟨front, piece ++ rest, joined, opens, begins.trans (List.prefix_append piece rest)⟩
  · intro ⟨front, rest, split, opens, begins⟩
    obtain ⟨behind, follows⟩ := begins
    obtain ⟨first, more, found⟩ := pieces_word separator word behind plain
    subst split
    refine ⟨word ++ first, (pieces_behind separator front rest opens).subset ?_,
      List.prefix_append word first⟩
    rw [← follows, found]
    exact .head more

end Text

namespace Pattern

-- The characters in their order, with `next` behind them.
def literal (word : List Char) (next : Pattern) : Pattern :=
  word.foldr (fun c p => .seq (charAtom (.single c)) p) next

def headed (p : Pattern) : Pattern :=
  .seq (lookAtom .lineStart) p

def solid : Pattern :=
  .times 1 none (charAtom (.compl .blank))

theorem single_mem_iff (c d : Char) : (CharSet.single c).mem d ↔ d = c := by
  rw [CharSet.single, CharSet.mem, Bool.and_eq_true, decide_eq_true_eq, decide_eq_true_eq]
  constructor
  · intro ⟨low, high⟩
    exact Char.le_antisymm high low
  · intro same
    subst same
    exact ⟨Char.le_refl d, Char.le_refl d⟩

theorem literal_spells (word : List Char) (next : Pattern) (words : List Char → Prop)
    (spells : next.Spells words) :
    (literal word next).Spells fun whole => ∃ more, words more ∧ whole = word ++ more := by
  induction word with
  | nil => exact spells.congr _ _ _ fun whole => by simp
  | cons c word ih =>
    refine (seq_spells _ _ _ _ (char_spells (.single c)) ih).congr _ _ _ fun whole => ?_
    constructor
    · intro ⟨first, rest, ⟨d, same, single⟩, ⟨more, spelled, behind⟩, split⟩
      rw [single_mem_iff] at same
      subst same single behind
      exact ⟨more, spelled, split⟩
    · intro ⟨more, spelled, split⟩
      exact ⟨[c], word ++ more, ⟨c, (single_mem_iff c c).2 rfl, rfl⟩, ⟨more, spelled, rfl⟩, split⟩

theorem run_spells (set : CharSet) (low : Nat) :
    Spells (.times low none (charAtom set)) fun word =>
      low ≤ word.length ∧ ∀ c ∈ word, set.mem c := by
  refine (times_spells _ _ (char_spells set) low).congr _ _ _ fun word => ?_
  constructor
  · intro ⟨parts, enough, all, same⟩
    subst same
    have single : ∀ part ∈ parts, part.length = 1 := fun part member => by
      obtain ⟨c, -, single⟩ := all part member
      rw [single, List.length_singleton]
    constructor
    · rw [List.length_flatten, List.map_congr_left single, List.map_const', List.sum_replicate_nat,
        Nat.mul_one]
      exact enough
    · intro c member
      obtain ⟨part, inside, member⟩ := List.mem_flatten.1 member
      obtain ⟨d, seen, single⟩ := all part inside
      rw [single, List.mem_singleton] at member
      rw [member]
      exact seen
  · intro ⟨enough, all⟩
    refine ⟨word.map ([·]), ?_, ?_, ?_⟩
    · rwa [List.length_map]
    · intro part member
      obtain ⟨c, inside, same⟩ := List.mem_map.1 member
      exact ⟨c, all c inside, same.symm⟩
    · rw [← List.flatMap_def, List.flatMap_singleton']

theorem solid_spells :
    solid.Spells fun word => word ≠ [] ∧ ∀ c ∈ word, Text.isBlank c = false := by
  refine (run_spells (.compl .blank) 1).congr _ _ _ fun word => ?_
  rw [Nat.succ_le_iff, List.length_pos_iff]
  simp [CharSet.mem]

theorem word_spells (word : List Char) : (literal word .empty).Spells (· = word) :=
  (literal_spells word .empty _ empty_spells).congr _ _ _ fun whole => by simp

theorem solid_between_spells (word more : List Char) :
    (literal word (.seq solid (literal more .empty))).Spells fun whole =>
      ∃ name : List Char, (name ≠ [] ∧ ∀ c ∈ name, Text.isBlank c = false) ∧
        whole = word ++ (name ++ more) := by
  have behind := seq_spells _ _ _ _ solid_spells (word_spells more)
  refine (literal_spells word _ _ behind).congr _ _ _ fun whole => ?_
  constructor
  · intro ⟨rest, ⟨name, last, solid, same, split⟩, whole⟩
    subst same split
    exact ⟨name, solid, whole⟩
  · intro ⟨name, solid, whole⟩
    exact ⟨name ++ more, ⟨name, more, solid, rfl, rfl⟩, whole⟩

theorem line_start_iff (text : List Char) (i : Nat) :
    Look.lineStart.holds (text.take i).getLast? text[i]? ↔ Text.Opens '\n' (text.take i) := by
  rw [Look.holds, Bool.or_eq_true, decide_eq_true_eq, List.getLast?_eq_some_iff,
    Option.isNone_iff_eq_none, List.getLast?_eq_none_iff]
  rfl

theorem headed_occurs_iff (p : Pattern) (words : List Char → Prop) (spells : p.Spells words)
    (plain : ∀ word, words word → '\n' ∉ word) (chunk : String) :
    (headed p).occursIn chunk ↔
      ∃ line ∈ Text.pieces '\n' chunk.toList, ∃ word, words word ∧ word <+: line := by
  rw [occurs_in_iff]
  constructor
  · intro ⟨i, k, _, j, ⟨stays, within, start⟩, rest⟩
    subst stays
    obtain ⟨word, spelled, begins, -⟩ := (spells chunk.toList j k).1 rest
    have opens := (line_start_iff chunk.toList j).1 start
    obtain ⟨line, member, front⟩ := (Text.piece_begins_iff '\n' word _ (plain word spelled)).2
      ⟨_, _, (List.take_append_drop j chunk.toList).symm, opens, begins⟩
    exact ⟨line, member, word, spelled, front⟩
  · intro ⟨line, member, word, spelled, front⟩
    obtain ⟨front, rest, split, opens, begins⟩ :=
      (Text.piece_begins_iff '\n' word _ (plain word spelled)).1 ⟨line, member, front⟩
    have before : chunk.toList.take front.length = front := by rw [split, List.take_left]
    have behind : chunk.toList.drop front.length = rest := by rw [split, List.drop_left]
    have within : front.length ≤ chunk.toList.length := by simp [split]
    have start := (line_start_iff chunk.toList front.length).2 (before.symm ▸ opens)
    have found := (spells chunk.toList front.length _).2 ⟨word, spelled, behind.symm ▸ begins, rfl⟩
    exact ⟨front.length, _, within, front.length, ⟨rfl, within, start⟩, found⟩

end Pattern

namespace Text

-- What a line of console output begins with that reports an error.
inductive ErrorMark : List Char → Prop
  | error : ErrorMark "ERROR: ".toList
  | build : ErrorMark "FAILED: Build did NOT complete successfully".toList
  | target (name : List Char) (given : name ≠ []) (visible : ∀ c ∈ name, isBlank c = false) :
      ErrorMark ("Target ".toList ++ (name ++ " failed to build".toList))

def ReportsError (chunk : String) : Prop :=
  ∃ line ∈ pieces '\n' chunk.toList, ∃ mark, ErrorMark mark ∧ mark <+: line

theorem error_mark_iff (mark : List Char) :
    ErrorMark mark ↔ mark = "ERROR: ".toList ∨
      mark = "FAILED: Build did NOT complete successfully".toList ∨
      ∃ name : List Char, (name ≠ [] ∧ ∀ c ∈ name, isBlank c = false) ∧
        mark = "Target ".toList ++ (name ++ " failed to build".toList) := by
  constructor
  · intro marked
    cases marked with
    | error => exact .inl rfl
    | build => exact .inr (.inl rfl)
    | target name given visible => exact .inr (.inr ⟨name, ⟨given, visible⟩, rfl⟩)
  · intro cases
    rcases cases with error | build | ⟨name, ⟨given, visible⟩, target⟩
    · rw [error]
      exact .error
    · rw [build]
      exact .build
    · rw [target]
      exact .target name given visible

theorem error_mark_plain (mark : List Char) (marked : ErrorMark mark) : '\n' ∉ mark := by
  cases marked with
  | error => decide
  | build => decide
  | target name given visible =>
    intro member
    rcases List.mem_append.1 member with start | later
    · exact absurd start (by decide)
    · rcases List.mem_append.1 later with inside | finish
      · exact absurd (visible '\n' inside) (by decide)
      · exact absurd finish (by decide)

theorem reports_error_not_empty (chunk : String) (reports : ReportsError chunk) : chunk ≠ "" := by
  intro empty
  subst empty
  obtain ⟨line, member, mark, marked, begins⟩ := reports
  rw [List.mem_singleton.1 member, List.prefix_nil] at begins
  cases marked <;> cases begins

end Text

namespace Pattern

def errorSignature : Pattern :=
  headed (literal "ERROR: ".toList .empty)

def buildSignature : Pattern :=
  headed (literal "FAILED: Build did NOT complete successfully".toList .empty)

def targetSignature : Pattern :=
  headed (literal "Target ".toList (.seq solid (literal " failed to build".toList .empty)))

end Pattern

theorem Settings.default_signatures :
    default.signatures =
      [Pattern.errorSignature, Pattern.buildSignature, Pattern.targetSignature] := by
  rfl

theorem Settings.default_signatures_occur (chunk : String) :
    (default.signatures.any fun p => p.occursIn chunk) ↔ Text.ReportsError chunk := by
  have plain (mark : List Char) (marked : Text.ErrorMark mark) := Text.error_mark_plain mark marked
  have error := Pattern.headed_occurs_iff _ _ (Pattern.word_spells "ERROR: ".toList)
    (fun word spelled => spelled ▸ plain _ .error) chunk
  have build := Pattern.headed_occurs_iff _ _
    (Pattern.word_spells "FAILED: Build did NOT complete successfully".toList)
    (fun word spelled => spelled ▸ plain _ .build) chunk
  have target := Pattern.headed_occurs_iff _ _
    (Pattern.solid_between_spells "Target ".toList " failed to build".toList)
    (fun word ⟨name, solid, spelled⟩ => spelled ▸ plain _ (.target name solid.1 solid.2)) chunk
  simp only [default_signatures, Pattern.errorSignature, Pattern.buildSignature,
    Pattern.targetSignature, List.any_cons, List.any_nil, Bool.or_eq_true, error, build, target,
    Bool.false_eq_true, or_false, Text.ReportsError, Text.error_mark_iff, or_and_right, exists_or,
    and_or_left]

instance (chunk : String) : Decidable (Text.ReportsError chunk) :=
  decidable_of_iff _ (Settings.default_signatures_occur chunk)

namespace Problem

def ofConsole (chunk : String) : Problem :=
  let output := Text.trimRight chunk
  progress (Ident.ofProblem "progress" [output]) (Label.inText output) output

theorem of_output_default (chunk : String) :
    ofOutput? Settings.default.signatures chunk =
      if Text.ReportsError chunk then some (ofConsole chunk) else none := by
  have occurs := Settings.default_signatures_occur chunk
  rw [ofOutput?]
  by_cases reports : Text.ReportsError chunk
  · have given : chunk.isEmpty = false :=
      eq_false_of_ne_true (not_isEmpty chunk (Text.reports_error_not_empty chunk reports))
    rw [if_pos reports, given, occurs.2 reports]
    rfl
  · rw [if_neg reports, eq_false_of_ne_true (fun found => reports (occurs.1 found)), Bool.not_false,
      Bool.or_true, if_pos rfl]

theorem of_outputs_default (chunks : List String) :
    chunks.filterMap (ofOutput? Settings.default.signatures) =
      (chunks.filter Text.ReportsError).map ofConsole := by
  induction chunks with
  | nil => rfl
  | cons chunk rest ih =>
    rw [List.filterMap_cons, List.filter_cons, of_output_default, ih]
    by_cases reports : Text.ReportsError chunk
    · simp [reports]
    · simp [reports]

end Problem

def Payload.console : Payload → List String
  | progress m => [m.stdout, m.stderr]
  | _ => []

theorem mem_console (payload : Payload) (chunk : String) (member : chunk ∈ payload.console) :
    ∃ m, payload = .progress m ∧ chunk ∈ [m.stdout, m.stderr] := by
  cases payload with
  | progress m => exact ⟨m, rfl, member⟩
  | _ => cases member

theorem console_candidates (before : List Event) (e : Event) (m : Wire.Progress)
    (payload : e.payload = .progress m) :
    e.candidates Settings.default.signatures before =
      (e.payload.console.filter Text.ReportsError).map .ofConsole := by
  rw [Problem.of_output_candidates _ before e m payload, Problem.of_outputs_default, payload]
  rfl

theorem progress_candidate_console (before : List Event) (e : Event) (id label output : String)
    (candidate : .progress id label output ∈ e.candidates Settings.default.signatures before) :
    ∃ chunk ∈ e.payload.console, Text.ReportsError chunk ∧
      .progress id label output = Problem.ofConsole chunk := by
  have made := Problem.made_of_event Settings.default.signatures before e _ candidate
  generalize payload : e.payload = given at made
  cases made with
  | progress m =>
    rw [console_candidates before e m payload, payload] at candidate
    obtain ⟨chunk, kept, same⟩ := List.mem_map.1 candidate
    obtain ⟨member, reports⟩ := List.mem_filter.1 kept
    exact ⟨chunk, member, of_decide_eq_true reports, same.symm⟩

-- Under the default settings an output is reported if and only if one of its lines begins as one
-- does that reports an error.
theorem Settings.default_errors_reported (events : List Event) :
    let found := Settings.default.watcher.after events Settings.default.watcher.start
    (∀ chunk p, Problem.ofOutput? Settings.default.signatures chunk = some p ↔
      Text.ReportsError chunk ∧ p = .ofConsole chunk) ∧
    (∀ (f : Findings) (e : Event) (m : Wire.Progress), e.payload = .progress m →
      Settings.default.watcher.see e f =
        f.addAll (([m.stdout, m.stderr].filter Text.ReportsError).map .ofConsole)) ∧
    (∀ id label output, .progress id label output ∈ found.problems →
      ∃ e ∈ events, ∃ chunk ∈ e.payload.console, Text.ReportsError chunk ∧
        .progress id label output = Problem.ofConsole chunk) ∧
    ∀ e ∈ events, ∀ chunk ∈ e.payload.console, Text.ReportsError chunk →
      ∃ p ∈ found.problems, p.id = (Problem.ofConsole chunk).id := by
  intro found
  have problems : found.problems = distinct (candidates Settings.default.signatures events) :=
    (Findings.after_follows Settings.default.signatures events).holds.problems
  rw [problems]
  refine ⟨fun chunk p => ?_, fun f e m payload => ?_, fun id label output reported => ?_,
    fun e member chunk brought reports => ?_⟩
  · rw [Problem.of_output_default, Option.ite_none_right_eq_some, Option.some.injEq,
      eq_comm (a := p)]
  · change f.see Settings.default.signatures e = _
    rw [Findings.see, payload]
    exact congrArg f.addAll (Problem.of_outputs_default _)
  · obtain ⟨before, e, after, split, candidate, -⟩ := reported_candidate _ events _ reported
    exact ⟨e, by simp [split], progress_candidate_console before e id label output candidate⟩
  · obtain ⟨m, payload, -⟩ := mem_console e.payload chunk brought
    obtain ⟨before, after, split⟩ := List.append_of_mem member
    apply candidate_reported _ events before e after _ split
    rw [console_candidates before e m payload]
    exact List.mem_map_of_mem (List.mem_filter.2 ⟨brought, decide_eq_true reports⟩)

-- The mark has to be at the start of a line, though not of the first.
example :
    Text.ReportsError "INFO: 2 targets\nTarget //a failed to build" ∧
      ¬Text.ReportsError "See ERROR: //a" := by
  decide +kernel

end BuildDigest
