import BuildDigest.Pattern.Reading
import Mathlib.Data.Nat.Bitwise

set_option autoImplicit false

namespace BuildDigest

namespace Regular

/-! ### Steps in a row -/

inductive Steps (R : Nat → Nat → Prop) : Nat → Nat → Nat → Prop
  | nothing (i : Nat) : Steps R 0 i i
  | step (n i j k : Nat) (first : R i j) (rest : Steps R n j k) : Steps R (n + 1) i k

theorem steps_zero_iff (R : Nat → Nat → Prop) (i j : Nat) : Steps R 0 i j ↔ i = j := by
  constructor
  · intro steps
    cases steps
    rfl
  · intro same
    subst same
    exact .nothing i

theorem steps_succ_iff (R : Nat → Nat → Prop) (n i k : Nat) :
    Steps R (n + 1) i k ↔ ∃ j, R i j ∧ Steps R n j k := by
  constructor
  · intro steps
    cases steps with
    | step n i j k first rest => exact ⟨j, first, rest⟩
  · intro ⟨j, first, rest⟩
    exact .step n i j k first rest

theorem steps_add_iff (R : Nat → Nat → Prop) (m n i k : Nat) :
    Steps R (m + n) i k ↔ ∃ j, Steps R m i j ∧ Steps R n j k := by
  induction m generalizing i with
  | zero => simp [steps_zero_iff]
  | succ m ih =>
    rw [Nat.succ_add_eq_add_succ, Nat.add_succ, steps_succ_iff]
    simp only [ih, steps_succ_iff]
    constructor
    · intro ⟨h, first, j, front, back⟩
      exact ⟨j, ⟨h, first, front⟩, back⟩
    · intro ⟨j, ⟨h, first, front⟩, back⟩
      exact ⟨h, first, j, front, back⟩

-- What changes a position leads further on, and not out of a text of `size` characters.
def Onward (size : Nat) (R : Nat → Nat → Prop) : Prop :=
  ∀ i j, R i j → i = j ∨ i < j ∧ j ≤ size

theorem Onward.steps (size : Nat) (R : Nat → Nat → Prop) (onward : Onward size R) (n : Nat) :
    Onward size (Steps R n) := by
  intro i j steps
  induction steps with
  | nothing i => exact .inl rfl
  | step n i j k first rest ih =>
    have next := onward i j first
    omega

-- A step that changes nothing can be left out. Each of the others takes a character at least.
theorem Onward.shortened (size : Nat) (R : Nat → Nat → Prop) (onward : Onward size R) (n i k : Nat)
    (steps : Steps R n i k) : ∃ m ≤ n, m ≤ size ∧ Steps R m i k := by
  suffices short : ∃ m ≤ n, m ≤ k - i ∧ Steps R m i k by
    obtain ⟨m, fewer, least, kept⟩ := short
    have whole := onward.steps size R n i k steps
    exact ⟨m, fewer, by omega, kept⟩
  induction steps with
  | nothing i => exact ⟨0, Nat.le_refl 0, Nat.zero_le _, .nothing i⟩
  | step n i j k first rest ih =>
    obtain ⟨m, fewer, least, kept⟩ := ih
    have tail := onward.steps size R n j k rest
    rcases onward i j first with same | ⟨further, -⟩
    · subst same
      exact ⟨m, Nat.le_succ_of_le fewer, least, kept⟩
    · exact ⟨m + 1, Nat.succ_le_succ fewer, by omega, .step m i j k first kept⟩

/-! ### Moves of sets -/

-- The move takes a set to the positions that the relation leads to from one of the set.
def Moves (move : Nat → Nat) (R : Nat → Nat → Prop) : Prop :=
  ∀ s j, (move s).testBit j ↔ ∃ i, s.testBit i ∧ R i j

theorem exactly_succ (move : Nat → Nat) (n s : Nat) :
    exactly move (n + 1) s = exactly move n (move s) := by
  rw [exactly]
  by_cases same : move s = s
  · simp only [same, if_true]
    cases n with
    | zero => rfl
    | succ n => rw [exactly, if_pos same]
  · exact if_neg same

theorem up_to_succ (move : Nat → Nat) (n s : Nat) :
    upTo move (n + 1) s = upTo move n (s ||| move s) := by
  rw [upTo]
  by_cases same : s ||| move s = s
  · simp only [same, if_true]
    cases n with
    | zero => rfl
    | succ n => rw [upTo, if_pos same]
  · exact if_neg same

theorem exactly_moves (move : Nat → Nat) (R : Nat → Nat → Prop) (moves : Moves move R) (n : Nat) :
    Moves (exactly move n) (Steps R n) := by
  induction n with
  | zero =>
    intro s j
    simp [exactly, steps_zero_iff]
  | succ n ih =>
    intro s k
    rw [exactly_succ, ih (move s) k]
    simp only [moves s, steps_succ_iff]
    constructor
    · intro ⟨j, ⟨i, start, first⟩, rest⟩
      exact ⟨i, start, j, first, rest⟩
    · intro ⟨i, start, j, first, rest⟩
      exact ⟨j, ⟨i, start, first⟩, rest⟩

theorem up_to_moves (move : Nat → Nat) (R : Nat → Nat → Prop) (moves : Moves move R) (n : Nat) :
    Moves (upTo move n) fun i j => ∃ m ≤ n, Steps R m i j := by
  induction n with
  | zero =>
    intro s j
    simp [upTo, steps_zero_iff]
  | succ n ih =>
    intro s k
    rw [up_to_succ, ih (s ||| move s) k]
    simp only [Nat.testBit_or, Bool.or_eq_true, moves s]
    constructor
    · intro ⟨j, start, m, fewer, rest⟩
      rcases start with start | ⟨i, start, first⟩
      · exact ⟨j, start, m, Nat.le_succ_of_le fewer, rest⟩
      · exact ⟨i, start, m + 1, Nat.succ_le_succ fewer, .step m i j k first rest⟩
    · intro ⟨i, start, m, fewer, steps⟩
      cases m with
      | zero => exact ⟨i, .inl start, 0, Nat.zero_le n, steps⟩
      | succ m =>
        obtain ⟨j, first, rest⟩ := (steps_succ_iff R m i k).1 steps
        exact ⟨j, .inr ⟨i, start, first⟩, m, Nat.le_of_succ_le_succ fewer, rest⟩

theorem repeated_moves (move : Nat → Nat) (R : Nat → Nat → Prop) (moves : Moves move R)
    (low most : Nat) :
    Moves (fun s => upTo move most (exactly move low s)) fun i k =>
      ∃ m ≤ most, Steps R (low + m) i k := by
  intro s k
  rw [up_to_moves move R moves most _ k]
  simp only [exactly_moves move R moves low s, steps_add_iff]
  constructor
  · intro ⟨j, ⟨i, start, front⟩, m, fewer, back⟩
    exact ⟨i, start, m, fewer, j, front, back⟩
  · intro ⟨i, start, m, fewer, j, front, back⟩
    exact ⟨j, ⟨i, start, front⟩, m, fewer, back⟩

theorem limited_steps (R : Nat → Nat → Prop) (low high i k : Nat) :
    (∃ m ≤ high - low, Steps R (low + m) i k) ↔
      ∃ n, low ≤ n ∧ (∀ most, some high = some most → n ≤ max low most) ∧ Steps R n i k := by
  constructor
  · intro ⟨m, fewer, steps⟩
    refine ⟨low + m, Nat.le_add_right low m, fun most limit => ?_, steps⟩
    have same := Option.some.inj limit
    omega
  · intro ⟨n, enough, limit, steps⟩
    have most := limit high rfl
    rw [← Nat.add_sub_cancel' enough] at steps
    exact ⟨n - low, by omega, steps⟩

-- Within a text there are only so many steps onward, so that it is enough to try as many.
theorem unlimited_steps (size : Nat) (R : Nat → Nat → Prop) (onward : Onward size R)
    (low i k : Nat) :
    (∃ m ≤ size + 1, Steps R (low + m) i k) ↔
      ∃ n, low ≤ n ∧ (∀ most, none = some most → n ≤ max low most) ∧ Steps R n i k := by
  constructor
  · intro ⟨m, _, steps⟩
    refine ⟨low + m, Nat.le_add_right low m, fun most limit => ?_, steps⟩
    cases limit
  · intro ⟨n, enough, _, steps⟩
    rw [← Nat.add_sub_cancel' enough] at steps
    obtain ⟨j, front, back⟩ := (steps_add_iff R low (n - low) i k).1 steps
    obtain ⟨m, -, fewer, kept⟩ := onward.shortened size R (n - low) j k back
    exact ⟨m, Nat.le_succ_of_le fewer, (steps_add_iff R low m i k).2 ⟨j, front, kept⟩⟩

/-! ### Whole expressions -/

variable {α β : Type}

-- From where a match begins to where it ends, for atoms that lead as `step` says.
-- A limit below `low` is as good as `low`.
def Leads (step : α → Nat → Nat → Prop) : Regular α → Nat → Nat → Prop
  | empty, i, j => i = j
  | atom a, i, j => step a i j
  | seq p q, i, k => ∃ j, p.Leads step i j ∧ q.Leads step j k
  | alt p q, i, j => p.Leads step i j ∨ q.Leads step i j
  | times low high p, i, j =>
      ∃ n, low ≤ n ∧ (∀ most, high = some most → n ≤ max low most) ∧ Steps (p.Leads step) n i j

theorem Onward.leads (size : Nat) (step : α → Nat → Nat → Prop) (onward : ∀ a, Onward size (step a))
    (p : Regular α) : Onward size (p.Leads step) := by
  induction p with
  | empty => exact fun i j same => .inl same
  | atom a => exact onward a
  | seq p q first second =>
    intro i k ⟨j, front, back⟩
    have start := first i j front
    have finish := second j k back
    omega
  | alt p q first second => exact fun i j leads => leads.elim (first i j) (second i j)
  | times low high p ih =>
    intro i j ⟨n, _, _, steps⟩
    exact ih.steps size (p.Leads step) n i j steps

theorem reach_moves (size : Nat) (move : α → Nat → Nat) (step : α → Nat → Nat → Prop)
    (moves : ∀ a, Moves (move a) (step a)) (onward : ∀ a, Onward size (step a)) (p : Regular α) :
    Moves (p.reach size move) (p.Leads step) := by
  induction p with
  | empty => exact fun s j => by simp [reach, Leads]
  | atom a => exact moves a
  | seq p q first second =>
    intro s k
    rw [reach, second _ k]
    simp only [first s, Leads]
    constructor
    · intro ⟨j, ⟨i, start, front⟩, back⟩
      exact ⟨i, start, j, front, back⟩
    · intro ⟨i, start, j, front, back⟩
      exact ⟨j, ⟨i, start, front⟩, back⟩
  | alt p q first second =>
    intro s j
    rw [reach, Nat.testBit_or, Bool.or_eq_true, first s j, second s j, ← exists_or]
    simp only [Leads, and_or_left]
  | times low high p ih =>
    intro s k
    cases high with
    | some high =>
      exact (repeated_moves _ _ ih low (high - low) s k).trans
        (exists_congr fun i => and_congr_right fun _ => limited_steps _ low high i k)
    | none =>
      have whole := Onward.leads size step onward p
      exact (repeated_moves _ _ ih low (size + 1) s k).trans
        (exists_congr fun i => and_congr_right fun _ => unlimited_steps size _ whole low i k)

theorem reach_map (size : Nat) (move : β → Nat → Nat) (f : α → β) (p : Regular α) :
    (p.map f).reach size move = p.reach size fun a => move (f a) := by
  induction p with
  | empty => rfl
  | atom a => rfl
  | seq p q first second =>
    funext s
    rw [map, reach, reach, first, second]
  | alt p q first second =>
    funext s
    rw [map, reach, reach, first, second]
  | times low high p ih =>
    funext s
    cases high <;> rw [map, reach, reach, ih]

end Regular

/-! ### Patterns in a text -/

namespace Pattern

-- What an atom matches at a position: a character of its set, or nothing
-- where the characters on the two sides are as it asks.
def Atom.Step (text : List Char) : Atom → Nat → Nat → Prop
  | char set, i, j => j = i + 1 ∧ ∃ c, text[i]? = some c ∧ set.mem c
  | look l, i, j => j = i ∧ i ≤ text.length ∧ l.holds (text.take i).getLast? text[i]?

def Matches (p : Pattern) (text : List Char) (i j : Nat) : Prop :=
  p.Leads (Atom.Step text) i j

theorem positions_bit (holds : Option Char → Option Char → Bool) (before : Option Char)
    (text : List Char) (i : Nat) :
    (positions holds before text).testBit i ↔
      i ≤ text.length ∧ holds ((text.take i).getLast?.or before) text[i]? := by
  induction text generalizing before i with
  | nil =>
    cases i with
    | zero => cases held : holds before none <;> simp [positions, held]
    | succ i => cases held : holds before none <;> simp [positions, held, Nat.testBit_succ]
  | cons c rest ih =>
    rw [positions, ← Nat.bit_val]
    cases i with
    | zero => simp
    | succ i =>
      rw [Nat.testBit_bit_succ, ih, List.take_succ_cons, List.getLast?_cons]
      cases (rest.take i).getLast? <;> simp

theorem Marked.move_moves (m : Marked) :
    Regular.Moves m.move fun i j => j = i + m.width ∧ m.places.testBit i := by
  intro s j
  rw [move, Nat.testBit_shiftLeft, Nat.testBit_and]
  simp only [Bool.and_eq_true, decide_eq_true_eq]
  constructor
  · intro ⟨wide, start, place⟩
    exact ⟨j - m.width, start, (Nat.sub_add_cancel wide).symm, place⟩
  · intro ⟨i, start, shifted, place⟩
    subst shifted
    rw [Nat.add_sub_cancel]
    exact ⟨Nat.le_add_left m.width i, start, place⟩

theorem Atom.mark_step (text : List Char) (a : Atom) (i j : Nat) :
    (j = i + (a.mark text).width ∧ (a.mark text).places.testBit i) ↔ a.Step text i j := by
  cases a with
  | char set =>
    rw [mark, Step, positions_bit, Option.any_eq_true]
    refine and_congr_right fun _ => and_iff_right_of_imp fun ⟨c, here, _⟩ => ?_
    exact Nat.le_of_lt (List.getElem?_eq_some_iff.1 here).1
  | look l =>
    rw [mark, Step, positions_bit, Option.or_none]
    rfl

theorem Atom.mark_moves (text : List Char) (a : Atom) :
    Regular.Moves (a.mark text).move (a.Step text) := by
  intro s j
  rw [Marked.move_moves]
  simp only [mark_step]

theorem Atom.step_onward (text : List Char) (a : Atom) :
    Regular.Onward text.length (a.Step text) := by
  intro i j step
  cases a with
  | char set =>
    obtain ⟨next, c, here, -⟩ := step
    obtain ⟨within, -⟩ := List.getElem?_eq_some_iff.1 here
    omega
  | look l => exact .inl step.1.symm

theorem everywhere_bit (n i : Nat) : (1 <<< (n + 1) - 1).testBit i ↔ i ≤ n := by
  rw [Nat.one_shiftLeft, Nat.testBit_two_pow_sub_one, decide_eq_true_eq, Nat.lt_succ_iff]

theorem nonzero_iff_bit (s : Nat) : s ≠ 0 ↔ ∃ i, s.testBit i := by
  constructor
  · exact Nat.exists_testBit_of_ne_zero
  · intro ⟨i, bit⟩ zero
    simp [zero] at bit

theorem occurs_in_iff (p : Pattern) (text : String) :
    p.occursIn text ↔ ∃ i j, i ≤ text.toList.length ∧ p.Matches text.toList i j := by
  have moves := Regular.reach_moves text.toList.length (fun a => (Atom.mark text.toList a).move)
    (Atom.Step text.toList) (Atom.mark_moves text.toList) (Atom.step_onward text.toList) p
  rw [occursIn, Regular.reach_map, decide_eq_true_eq, nonzero_iff_bit]
  simp only [moves _, everywhere_bit]
  exact exists_comm

/-! ### What patterns spell -/

theorem begins_cons_iff (text : List Char) (i : Nat) (c : Char) (word : List Char) :
    c :: word <+: text.drop i ↔ text[i]? = some c ∧ word <+: text.drop (i + 1) := by
  by_cases within : i < text.length
  · rw [List.drop_eq_getElem_cons within, List.cons_prefix_cons, List.getElem?_eq_getElem within,
      Option.some.injEq, eq_comm]
  · rw [List.drop_eq_nil_of_le (Nat.le_of_not_lt within),
      List.getElem?_eq_none (Nat.le_of_not_lt within)]
    simp

theorem begins_append_iff (text : List Char) (i : Nat) (word more : List Char) :
    word ++ more <+: text.drop i ↔
      word <+: text.drop i ∧ more <+: text.drop (i + word.length) := by
  induction word generalizing i with
  | nil => simp
  | cons c word ih =>
    rw [List.cons_append, begins_cons_iff, begins_cons_iff, ih, and_assoc, List.length_cons,
      Nat.add_assoc, Nat.add_comm 1]

def Stands (word text : List Char) (i j : Nat) : Prop :=
  word <+: text.drop i ∧ j = i + word.length

theorem stands_append_iff (word more text : List Char) (i k : Nat) :
    Stands (word ++ more) text i k ↔ ∃ j, Stands word text i j ∧ Stands more text j k := by
  constructor
  · intro ⟨begins, finish⟩
    obtain ⟨front, back⟩ := (begins_append_iff text i word more).1 begins
    rw [List.length_append, ← Nat.add_assoc] at finish
    exact ⟨i + word.length, ⟨front, rfl⟩, back, finish⟩
  · intro ⟨j, ⟨front, stop⟩, back, finish⟩
    subst stop
    refine ⟨(begins_append_iff text i word more).2 ⟨front, back⟩, ?_⟩
    rw [finish, List.length_append, Nat.add_assoc]

-- The pattern matches these words, wherever they stand, and nothing else.
def Spells (p : Pattern) (words : List Char → Prop) : Prop :=
  ∀ text i j, p.Matches text i j ↔ ∃ word, words word ∧ Stands word text i j

theorem Spells.congr (p : Pattern) (words others : List Char → Prop) (spells : p.Spells words)
    (same : ∀ word, words word ↔ others word) : p.Spells others := by
  intro text i j
  rw [spells text i j]
  simp only [same]

theorem empty_spells : Spells .empty (· = []) := by
  intro text i j
  constructor
  · intro stays
    exact ⟨[], rfl, List.nil_prefix, stays.symm⟩
  · intro ⟨word, nothing, _, finish⟩
    subst nothing
    exact finish.symm

theorem char_spells (set : CharSet) :
    (charAtom set).Spells fun word => ∃ c, set.mem c ∧ word = [c] := by
  intro text i j
  constructor
  · intro ⟨finish, c, here, member⟩
    have begins := (begins_cons_iff text i c []).2 ⟨here, List.nil_prefix⟩
    exact ⟨[c], ⟨c, member, rfl⟩, begins, finish⟩
  · intro ⟨word, ⟨c, member, single⟩, begins, finish⟩
    subst single
    exact ⟨finish, c, ((begins_cons_iff text i c []).1 begins).1, member⟩

theorem seq_spells (p q : Pattern) (words others : List Char → Prop) (first : p.Spells words)
    (second : q.Spells others) :
    Spells (.seq p q) fun whole =>
      ∃ word more, words word ∧ others more ∧ whole = word ++ more := by
  intro text i k
  constructor
  · intro ⟨j, front, back⟩
    obtain ⟨word, spelled, stands⟩ := (first text i j).1 front
    obtain ⟨more, spelledMore, goesOn⟩ := (second text j k).1 back
    exact ⟨word ++ more, ⟨word, more, spelled, spelledMore, rfl⟩,
      (stands_append_iff word more text i k).2 ⟨j, stands, goesOn⟩⟩
  · intro ⟨whole, ⟨word, more, spelled, spelledMore, same⟩, stands⟩
    subst same
    obtain ⟨j, front, back⟩ := (stands_append_iff word more text i k).1 stands
    exact ⟨j, (first text i j).2 ⟨word, spelled, front⟩,
      (second text j k).2 ⟨more, spelledMore, back⟩⟩

theorem steps_spell (p : Pattern) (words : List Char → Prop) (spells : p.Spells words)
    (text : List Char) (n i k : Nat) :
    Regular.Steps (p.Matches text) n i k ↔
      ∃ parts : List (List Char), parts.length = n ∧ (∀ part ∈ parts, words part) ∧
        Stands parts.flatten text i k := by
  induction n generalizing i with
  | zero =>
    rw [Regular.steps_zero_iff]
    constructor
    · intro stays
      exact ⟨[], rfl, by simp, List.nil_prefix, stays.symm⟩
    · intro ⟨parts, empty, _, _, finish⟩
      rw [List.eq_nil_of_length_eq_zero empty] at finish
      exact finish.symm
  | succ n ih =>
    rw [Regular.steps_succ_iff]
    constructor
    · intro ⟨j, first, rest⟩
      obtain ⟨part, spelled, stands⟩ := (spells text i j).1 first
      obtain ⟨parts, length, others, goesOn⟩ := (ih j).1 rest
      exact ⟨part :: parts, by rw [List.length_cons, length],
        List.forall_mem_cons.2 ⟨spelled, others⟩,
        (stands_append_iff part parts.flatten text i k).2 ⟨j, stands, goesOn⟩⟩
    · intro ⟨parts, length, all, stands⟩
      cases parts with
      | nil => cases length
      | cons part parts =>
        obtain ⟨spelled, others⟩ := List.forall_mem_cons.1 all
        obtain ⟨j, front, back⟩ := (stands_append_iff part parts.flatten text i k).1 stands
        exact ⟨j, (spells text i j).2 ⟨part, spelled, front⟩,
          (ih j).2 ⟨parts, Nat.succ.inj length, others, back⟩⟩

theorem times_spells (p : Pattern) (words : List Char → Prop) (spells : p.Spells words)
    (low : Nat) :
    Spells (.times low none p) fun whole => ∃ parts : List (List Char),
      low ≤ parts.length ∧ (∀ part ∈ parts, words part) ∧ whole = parts.flatten := by
  intro text i j
  constructor
  · intro ⟨n, enough, _, steps⟩
    obtain ⟨parts, length, all, stands⟩ := (steps_spell p words spells text n i j).1 steps
    subst length
    exact ⟨parts.flatten, ⟨parts, enough, all, rfl⟩, stands⟩
  · intro ⟨whole, ⟨parts, enough, all, same⟩, stands⟩
    subst same
    refine ⟨parts.length, enough, ?_, ?_⟩
    · intro most limit
      cases limit
    · exact (steps_spell p words spells text _ i j).2 ⟨parts, rfl, all, stands⟩

theorem option_spells (p : Pattern) (words : List Char → Prop) (spells : p.Spells words) :
    Spells (.times 0 (some 1) p) fun whole => whole = [] ∨ words whole := by
  intro text i j
  constructor
  · intro ⟨n, _, limit, steps⟩
    have most := limit 1 rfl
    obtain ⟨parts, length, all, stands⟩ := (steps_spell p words spells text n i j).1 steps
    subst length
    match parts with
    | [] => exact ⟨[], .inl rfl, stands⟩
    | [part] =>
      rw [List.flatten_singleton] at stands
      exact ⟨part, .inr (all part (.head _)), stands⟩
    | _ :: _ :: _ => simp at most
  · intro ⟨whole, either, stands⟩
    rcases either with empty | spelled
    · subst empty
      exact ⟨0, Nat.zero_le _, fun _ _ => Nat.zero_le _,
        (steps_spell p words spells text 0 i j).2 ⟨[], rfl, by simp, stands⟩⟩
    · refine ⟨1, Nat.zero_le _, fun most limit => ?_,
        (steps_spell p words spells text 1 i j).2 ⟨[whole], rfl, by simpa using spelled, ?_⟩⟩
      · cases limit
        exact Nat.le_max_right 0 1
      · rwa [List.flatten_singleton]

end Pattern

end BuildDigest
