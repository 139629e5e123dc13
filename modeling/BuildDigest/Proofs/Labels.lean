import BuildDigest.Proofs.Links
import BuildDigest.Proofs.Signatures
import Mathlib

set_option autoImplicit false

namespace BuildDigest

namespace Label

/-! ### Written labels -/

inductive Repository : List Char → Prop
  | own : Repository []
  | named (name : List Char) (plain : ∀ c ∈ name, isRepositoryChar c) : Repository ('@' :: name)
  | canonical (name : List Char) (plain : ∀ c ∈ name, isRepositoryChar c) :
      Repository ('@' :: '@' :: name)

inductive Local : List Char → Prop
  | mk (package target : List Char) (inPackage : ∀ c ∈ package, isPackageChar c)
      (given : target ≠ []) (inTarget : ∀ c ∈ target, isTargetChar c) :
      Local ('/' :: '/' :: (package ++ ':' :: target))

inductive Written : List Char → Prop
  | mk (repository word : List Char) (inRepository : Repository repository) (inside : Local word) :
      Written (repository ++ word)

-- No label goes on into such a text.
def Ends (after : List Char) : Prop :=
  ∀ c ∈ after.head?, isTargetChar c = false

/-! ### The label at the head of a text -/

def Begins (words : List Char → Prop) (text found : List Char) : Prop :=
  words found ∧ ∃ after, text = found ++ after ∧ Ends after

theorem local_iff (text found : List Char) :
    local? text = some found ↔ Begins Local text found := by
  constructor
  · intro result
    unfold local? at result
    split at result
    · next cs =>
      obtain ⟨package, behind, rfl, inPackage, stop⟩ := Text.run_split isPackageChar cs
      rw [(Text.run_taken _ package behind inPackage stop).1,
        (Text.run_taken _ package behind inPackage stop).2] at result
      split at result
      · next rest =>
        obtain ⟨target, after, rfl, inTarget, ends⟩ := Text.run_split isTargetChar rest
        rw [(Text.run_taken _ target after inTarget ends).1] at result
        simp only [List.isEmpty_iff, Option.ite_none_left_eq_some, Option.some.injEq] at result
        obtain ⟨given, rfl⟩ := result
        exact ⟨.mk package target inPackage given inTarget, after, by simp, ends⟩
      · cases result
    · cases result
  · rintro ⟨⟨package, target, inPackage, given, inTarget⟩, after, rfl, ends⟩
    have colon : ∀ c ∈ (':' :: (target ++ after)).head?, isPackageChar c = false := by
      intro c head
      cases head
      decide
    have packageTaken :=
      Text.run_taken isPackageChar package (':' :: (target ++ after)) inPackage colon
    have targetTaken := Text.run_taken isTargetChar target after inTarget ends
    have parts : '/' :: '/' :: (package ++ ':' :: target) ++ after =
        '/' :: '/' :: (package ++ ':' :: (target ++ after)) := by simp
    rw [parts]
    simp only [local?, packageTaken, targetTaken, List.isEmpty_iff, if_neg given]
    rfl

theorem in_repository_iff (text found : List Char) :
    inRepository? text = some found ↔
      ∃ name word, (∀ c ∈ name, isRepositoryChar c) ∧ found = name ++ word ∧ Local word ∧
        ∃ after, text = found ++ after ∧ Ends after := by
  rw [inRepository?, Option.map_eq_some_iff]
  constructor
  · rintro ⟨word, result, rfl⟩
    obtain ⟨name, behind, rfl, plain, stop⟩ := Text.run_split isRepositoryChar text
    rw [(Text.run_taken _ name behind plain stop).2] at result
    rw [(Text.run_taken _ name behind plain stop).1]
    obtain ⟨inside, after, rfl, ends⟩ := (local_iff behind word).1 result
    exact ⟨name, word, plain, rfl, inside, after, (List.append_assoc _ _ _).symm, ends⟩
  · rintro ⟨name, word, plain, rfl, inside, after, rfl, ends⟩
    have slash : ∀ c ∈ (word ++ after).head?, isRepositoryChar c = false := by
      intro c head
      cases inside
      cases head
      decide
    have taken := Text.run_taken isRepositoryChar name (word ++ after) plain slash
    refine ⟨word, ?_, ?_⟩
    · rw [List.append_assoc, taken.2]
      exact (local_iff _ word).2 ⟨inside, after, rfl, ends⟩
    · rw [List.append_assoc, taken.1]

theorem head_without_repository (text : List Char) (other : text.head? ≠ some '@') :
    head? text = local? text := by
  unfold head?
  split
  · exact absurd rfl other
  · exact absurd rfl other
  · rfl

theorem head_of_repository (text : List Char) (other : text.head? ≠ some '@') :
    head? ('@' :: text) = (inRepository? text).map ('@' :: ·) := by
  unfold head?
  split
  · next cs same =>
    cases same
    exact absurd rfl other
  · next cs _ same =>
    cases same
    rfl
  · next plain => exact absurd rfl (plain text)

theorem head_iff (text found : List Char) :
    head? text = some found ↔ Begins Written text found := by
  constructor
  · intro result
    unfold head? at result
    split at result
    · next cs =>
      obtain ⟨label, inside, rfl⟩ := Option.map_eq_some_iff.1 result
      obtain ⟨name, word, plain, rfl, isLocal, after, rfl, ends⟩ := (in_repository_iff _ _).1 inside
      exact ⟨.mk ('@' :: '@' :: name) word (.canonical name plain) isLocal, after, rfl, ends⟩
    · next cs _ =>
      obtain ⟨label, inside, rfl⟩ := Option.map_eq_some_iff.1 result
      obtain ⟨name, word, plain, rfl, isLocal, after, rfl, ends⟩ := (in_repository_iff _ _).1 inside
      exact ⟨.mk ('@' :: name) word (.named name plain) isLocal, after, rfl, ends⟩
    · obtain ⟨isLocal, after, same, ends⟩ := (local_iff _ _).1 result
      exact ⟨.mk [] found .own isLocal, after, same, ends⟩
  · rintro ⟨⟨repository, word, inRepository, inside⟩, after, rfl, ends⟩
    cases inRepository with
    | own =>
      rw [head_without_repository]
      · exact (local_iff _ _).2 ⟨inside, after, rfl, ends⟩
      · cases inside
        simp
    | named name plain =>
      have found := (in_repository_iff (name ++ word ++ after) (name ++ word)).2
        ⟨name, word, plain, rfl, inside, after, rfl, ends⟩
      rw [List.cons_append, List.cons_append, head_of_repository, found]
      · rfl
      · cases name with
        | nil =>
          cases inside
          simp
        | cons c name =>
          intro same
          cases same
          exact absurd (plain '@' (.head _)) (by decide)
    | canonical name plain =>
      have found := (in_repository_iff (name ++ word ++ after) (name ++ word)).2
        ⟨name, word, plain, rfl, inside, after, rfl, ends⟩
      simp only [List.cons_append, head?, found]
      rfl

theorem Written.extended (word back : List Char) (written : Written word) :
    ∃ more after, back = more ++ after ∧ Written (word ++ more) ∧ Ends after := by
  obtain ⟨more, after, split, inTarget, ends⟩ := Text.run_split isTargetChar back
  refine ⟨more, after, split, ?_, ends⟩
  obtain ⟨repository, _, inRepository, ⟨package, target, inPackage, given, inOld⟩⟩ := written
  have whole := Local.mk package (target ++ more) inPackage (by simp [given])
    (List.forall_mem_append.2 ⟨inOld, inTarget⟩)
  simpa using Written.mk repository _ inRepository whole

theorem head_none (text word back : List Char) (none : head? text = none) (written : Written word) :
    text ≠ word ++ back := by
  rintro rfl
  obtain ⟨more, after, rfl, longer, ends⟩ := written.extended word back
  have found := (head_iff _ _).2 ⟨longer, after, (List.append_assoc _ _ _).symm, ends⟩
  rw [none] at found
  cases found

/-! ### The first label of a text -/

-- The label stands in the text and goes on as far as it can, and none begins before it.
structure First (text before label after : List Char) : Prop where
  split : text = before ++ (label ++ after)
  written : Written label
  whole : Ends after
  earliest : ∀ front word back, text = front ++ (word ++ back) → Written word →
    before.length ≤ front.length

theorem find_iff (text label : List Char) :
    find? text = some label ↔ ∃ before after, First text before label after := by
  induction text with
  | nil =>
    refine iff_of_false nofun fun ⟨before, after, first⟩ => ?_
    obtain ⟨repository, _, _, ⟨package, target, _, _, _⟩⟩ := first.written
    simpa using first.split
  | cons c cs ih =>
    rw [find?]
    cases head : head? (c :: cs) with
    | some found =>
      obtain ⟨written, after, split, ends⟩ := (head_iff _ _).1 head
      constructor
      · rintro ⟨⟩
        exact ⟨[], after, split, written, ends, fun _ _ _ _ _ => Nat.zero_le _⟩
      · rintro ⟨before, behind, first⟩
        have least := first.earliest [] found after split written
        have same := first.split
        rw [List.length_eq_zero_iff.1 (Nat.le_zero.1 least), List.nil_append] at same
        rw [← head, (head_iff _ _).2 ⟨first.written, behind, same, first.whole⟩]
    | none =>
      refine ih.trans ⟨fun ⟨before, after, first⟩ => ?_, fun ⟨before, after, first⟩ => ?_⟩
      · refine ⟨c :: before, after, congrArg _ first.split, first.written, first.whole, ?_⟩
        intro front word back same written
        cases front with
        | nil => exact absurd same (head_none _ word back head written)
        | cons d front =>
          exact Nat.succ_le_succ (first.earliest front word back (List.cons.inj same).2 written)
      · cases before with
        | nil => exact absurd first.split (head_none _ label after head first.written)
        | cons d before =>
          refine ⟨before, after, (List.cons.inj first.split).2, first.written, first.whole, ?_⟩
          intro front word back same written
          exact Nat.le_of_succ_le_succ
            (first.earliest (c :: front) word back (congrArg _ same) written)

theorem find_none_iff (text : List Char) :
    find? text = none ↔ ∀ front word back, text = front ++ (word ++ back) → ¬Written word := by
  induction text with
  | nil =>
    refine iff_of_true rfl fun front word back same written => ?_
    obtain ⟨repository, _, _, ⟨package, target, _, _, _⟩⟩ := written
    simp at same
  | cons c cs ih =>
    rw [find?]
    cases head : head? (c :: cs) with
    | some found =>
      obtain ⟨written, after, split, -⟩ := (head_iff _ _).1 head
      exact iff_of_false nofun fun nowhere => nowhere [] found after split written
    | none =>
      refine ih.trans ⟨fun nowhere front word back same written => ?_,
        fun nowhere front word back same => nowhere (c :: front) word back (congrArg _ same)⟩
      cases front with
      | nil => exact head_none _ word back head written same
      | cons d front => exact nowhere front word back (List.cons.inj same).2 written

/-! ### Labels as matches of a pattern -/

open Pattern (literal charAtom Spells)

def wordOr (cs : List Char) : CharSet :=
  (cs.map .single).foldl .union (.union .none .word)

def pattern : Pattern :=
  .seq (.times 0 (some 1) (literal ['@'] (.seq (.times 0 (some 1) (charAtom (.single '@')))
      (.seq (.times 0 none (charAtom (wordOr ['.', '~', '+', '-']))) .empty))))
    (literal ['/', '/'] (.seq (.times 0 none (charAtom (wordOr ['.', '/', '+', '-'])))
      (literal [':'] (.seq (.times 1 none
        (charAtom (wordOr ['.', '/', '+', '=', ',', '@', '~', '-']))) .empty))))

theorem pattern_read :
    Pattern.ofText? "(?:@@?[\\w.~+-]*)?//[\\w./+-]*:[\\w./+=,@~-]+" = some pattern := by
  rfl

theorem word_or_mem (cs : List Char) (c : Char) :
    (wordOr cs).mem c ↔ Pattern.isWord c ∨ c ∈ cs := by
  suffices any : ∀ set : CharSet, ((cs.map .single).foldl .union set).mem c ↔ set.mem c ∨ c ∈ cs by
    refine (any _).trans ?_
    simp [CharSet.mem]
  induction cs with
  | nil => simp
  | cons d cs ih =>
    intro set
    rw [List.map_cons, List.foldl_cons, ih, CharSet.mem, Bool.or_eq_true, Pattern.single_mem_iff,
      List.mem_cons, or_assoc]

theorem run_then_spells (cs : List Char) (char : Char → Bool) (low : Nat) (next : Pattern)
    (words : List Char → Prop) (same : ∀ c, char c ↔ Pattern.isWord c ∨ c ∈ cs)
    (spells : next.Spells words) :
    Spells (.seq (.times low none (charAtom (wordOr cs))) next) fun whole =>
      ∃ run more, (low ≤ run.length ∧ ∀ c ∈ run, char c) ∧ words more ∧ whole = run ++ more := by
  refine (Pattern.seq_spells _ _ _ _ (Pattern.run_spells (wordOr cs) low) spells).congr _ _ _
    fun whole => ?_
  simp only [word_or_mem, same]

theorem repository_spells :
    Spells (.times 0 (some 1) (literal ['@'] (.seq (.times 0 (some 1) (charAtom (.single '@')))
      (.seq (.times 0 none (charAtom (wordOr ['.', '~', '+', '-']))) .empty)))) Repository := by
  have name := run_then_spells ['.', '~', '+', '-'] isRepositoryChar 0 .empty _
    (by simp [isRepositoryChar, or_assoc]) Pattern.empty_spells
  have second := Pattern.seq_spells _ _ _ _
    (Pattern.option_spells _ _ (Pattern.char_spells (.single '@'))) name
  refine (Pattern.option_spells _ _ (Pattern.literal_spells ['@'] _ _ second)).congr _ _ _
    fun word => ?_
  constructor
  · rintro (rfl | ⟨_, ⟨at_, _, rfl | ⟨c, same, rfl⟩, ⟨name, _, ⟨-, plain⟩, rfl, rfl⟩, rfl⟩, rfl⟩)
    · exact .own
    · simpa using Repository.named name plain
    · rw [Pattern.single_mem_iff] at same
      subst same
      simpa using Repository.canonical name plain
  · intro repository
    cases repository with
    | own => exact .inl rfl
    | named name plain =>
      exact .inr ⟨name, ⟨[], name, .inl rfl, ⟨name, [], ⟨Nat.zero_le _, plain⟩, rfl, by simp⟩, rfl⟩,
        rfl⟩
    | canonical name plain =>
      exact .inr ⟨'@' :: name, ⟨['@'], name, .inr ⟨'@', (Pattern.single_mem_iff _ _).2 rfl, rfl⟩,
        ⟨name, [], ⟨Nat.zero_le _, plain⟩, rfl, by simp⟩, rfl⟩, rfl⟩

theorem pattern_spells : pattern.Spells Written := by
  have target := run_then_spells ['.', '/', '+', '=', ',', '@', '~', '-'] isTargetChar 1 .empty _
    (by simp [isTargetChar, or_assoc]) Pattern.empty_spells
  have package := run_then_spells ['.', '/', '+', '-'] isPackageChar 0 _ _
    (by simp [isPackageChar, or_assoc]) (Pattern.literal_spells [':'] _ _ target)
  refine (Pattern.seq_spells _ _ _ _ repository_spells
    (Pattern.literal_spells ['/', '/'] _ _ package)).congr _ _ _ fun word => ?_
  constructor
  · rintro ⟨repository, _, inRepository, ⟨_, ⟨package, _, ⟨-, inPackage⟩,
      ⟨_, ⟨target, _, ⟨some, inTarget⟩, rfl, rfl⟩, rfl⟩, rfl⟩, rfl⟩, rfl⟩
    have given : target ≠ [] := List.length_pos_iff.1 some
    simpa using Written.mk repository _ inRepository (.mk package target inPackage given inTarget)
  · rintro ⟨repository, _, inRepository, ⟨package, target, inPackage, given, inTarget⟩⟩
    exact ⟨repository, _, inRepository, ⟨_, ⟨package, _, ⟨Nat.zero_le _, inPackage⟩,
      ⟨target, ⟨target, [], ⟨List.length_pos_iff.2 given, inTarget⟩, rfl, by simp⟩, rfl⟩, rfl⟩,
      rfl⟩, rfl⟩

theorem Written.no_longer (label after word : List Char) (written : Written label)
    (ends : Ends after) (other : Written word) (begins : word <+: label ++ after) :
    word.length ≤ label.length := by
  obtain ⟨back, same⟩ := begins
  obtain ⟨more, behind, rfl, longer, stop⟩ := other.extended word back
  have found := (head_iff _ _).2 ⟨written, after, rfl, ends⟩
  rw [← same, (head_iff _ _).2 ⟨longer, behind, (List.append_assoc _ _ _).symm, stop⟩] at found
  cases found
  rw [List.length_append]
  exact Nat.le_add_right _ _

-- A match of the pattern that begins before all others, or where they do, and then is no shorter.
structure FirstMatch (text : List Char) (i j : Nat) : Prop where
  found : pattern.Matches text i j
  earliest : ∀ k l, pattern.Matches text k l → i ≤ k
  longest : ∀ l, pattern.Matches text i l → l ≤ j

theorem First.match (text before label after : List Char) (first : First text before label after) :
    FirstMatch text before.length (before.length + label.length) := by
  have behind : text.drop before.length = label ++ after := by rw [first.split, List.drop_left]
  refine ⟨(pattern_spells _ _ _).2 ⟨label, first.written, ?_, rfl⟩, fun k l found => ?_,
    fun l found => ?_⟩
  · rw [behind]
    exact List.prefix_append label after
  · obtain ⟨word, written, ⟨back, same⟩, -⟩ := (pattern_spells _ _ _).1 found
    have least := first.earliest (text.take k) word back
      ((List.take_append_drop k text).symm.trans (congrArg _ same.symm)) written
    exact least.trans (List.length_take_le k text)
  · obtain ⟨word, written, begins, rfl⟩ := (pattern_spells _ _ _).1 found
    rw [behind] at begins
    have short := first.written.no_longer label after word first.whole written begins
    exact Nat.add_le_add_left short _

theorem find_match_iff (text label : List Char) :
    find? text = some label ↔ ∃ i j, FirstMatch text i j ∧ label = (text.take j).drop i := by
  have place (before label after : List Char) (first : First text before label after) :
      label = (text.take (before.length + label.length)).drop before.length := by
    rw [first.split, List.take_length_add_append, List.take_left, List.drop_left]
  constructor
  · intro result
    obtain ⟨before, after, first⟩ := (find_iff text label).1 result
    exact ⟨_, _, first.match, place before label after first⟩
  · rintro ⟨i, j, ⟨found, earliest, longest⟩, rfl⟩
    cases result : find? text with
    | none =>
      obtain ⟨word, written, ⟨back, same⟩, -⟩ := (pattern_spells _ _ _).1 found
      exact absurd written ((find_none_iff text).1 result (text.take i) word back
        ((List.take_append_drop i text).symm.trans (congrArg _ same.symm)))
    | some other =>
      obtain ⟨before, after, first⟩ := (find_iff text other).1 result
      obtain ⟨also, least, most⟩ := first.match
      have start : i = before.length := Nat.le_antisymm (earliest _ _ also) (least _ _ found)
      subst start
      have finish := Nat.le_antisymm (longest _ also) (most _ found)
      rw [← finish, ← place before other after first]

/-! ### Labels between blanks -/

theorem blank_codes (c : Char) (blank : Text.isBlank c) :
    c.toNat ∈ List.range' 9 5 ++ [0x20, 0x85, 0xa0, 0x1680] ++ List.range' 0x2000 11 ++
      [0x2028, 0x2029, 0x202f, 0x205f, 0x3000] := by
  simp only [Text.isBlank, Bool.or_eq_true, Bool.and_eq_true, decide_eq_true_eq, or_assoc] at blank
  rcases blank with ⟨low, high⟩ | rfl | rfl | rfl | rfl | ⟨low, high⟩ | rfl | rfl | rfl | rfl | rfl
  · have bounds : 9 ≤ c.toNat ∧ c.toNat ≤ 13 := ⟨low, high⟩
    simp only [List.mem_append, List.mem_range'_1]
    omega
  all_goals try decide
  · have bounds : 0x2000 ≤ c.toNat ∧ c.toNat ≤ 0x200a := ⟨low, high⟩
    simp only [List.mem_append, List.mem_range'_1]
    omega

theorem blank_outside (c : Char) (blank : Text.isBlank c) :
    isRepositoryChar c = false ∧ isTargetChar c = false ∧ c ≠ '@' ∧ c ≠ '/' := by
  have table : ∀ n ∈ List.range' 9 5 ++ [0x20, 0x85, 0xa0, 0x1680] ++ List.range' 0x2000 11 ++
      [0x2028, 0x2029, 0x202f, 0x205f, 0x3000], isRepositoryChar (Char.ofNat n) = false ∧
        isTargetChar (Char.ofNat n) = false ∧ Char.ofNat n ≠ '@' ∧ Char.ofNat n ≠ '/' := by
    decide +kernel
  have known := table c.toNat (blank_codes c blank)
  rwa [Char.ofNat_toNat] at known

theorem Repository.no_blank (repository : List Char) (inRepository : Repository repository) :
    ∀ c ∈ repository, Text.isBlank c = false := by
  have plain (c : Char) (member : c = '@' ∨ isRepositoryChar c) : Text.isBlank c = false := by
    by_contra blank
    obtain ⟨outside, -, noSign, -⟩ := blank_outside c (by simpa using blank)
    rcases member with sign | inside
    · exact noSign sign
    · rw [outside] at inside
      cases inside
  intro c member
  cases inRepository with
  | own => cases member
  | named name inName =>
    exact plain c ((List.mem_cons.1 member).imp_right (inName c))
  | canonical name inName =>
    exact plain c ((List.mem_cons.1 member).elim .inl fun later =>
      (List.mem_cons.1 later).imp_right (inName c))

theorem Written.last (label : List Char) (written : Written label) :
    ∃ c ∈ label.getLast?, Text.isBlank c = false := by
  obtain ⟨repository, _, _, ⟨package, target, _, given, inTarget⟩⟩ := written
  refine ⟨target.getLast given, ?_, ?_⟩
  · simp [List.getLast?_append, List.getLast?_cons, List.getLast?_eq_some_getLast given]
  · by_contra blank
    obtain ⟨-, outside, -⟩ := blank_outside _ (by simpa using blank)
    rw [inTarget _ (List.getLast_mem given)] at outside
    cases outside

-- Behind a text without a double slash, and with a blank at its end, a label is the first.
theorem first_behind_blank (before label after : List Char) (written : Written label)
    (ahead : ∀ c ∈ before.getLast?, Text.isBlank c) (single : ¬['/', '/'] <:+: before)
    (behind : ∀ c ∈ after.head?, Text.isBlank c) :
    First (before ++ (label ++ after)) before label after := by
  refine ⟨rfl, written, fun c head => (blank_outside c (behind c head)).2.1, ?_⟩
  rintro front _ back same ⟨repository, _, inRepository, ⟨package, target, _, _, _⟩⟩
  by_contra short
  -- Another label that begins earlier would have no way past the last blank.
  rw [List.append_assoc] at same
  rcases List.append_eq_append_iff.1 same with ⟨more, rfl, -⟩ | ⟨passed, rfl, rest⟩
  · exact short (by simp)
  rcases List.eq_nil_or_concat passed with rfl | ⟨start, c, rfl⟩
  · exact short (by simp)
  have blank := ahead c (by simp)
  obtain ⟨-, -, -, noSlash⟩ := blank_outside c blank
  have notIn : c ∉ repository := fun member => by
    rw [inRepository.no_blank repository c member] at blank
    cases blank
  rcases List.append_eq_append_iff.1 rest with ⟨slashes, passed, double⟩ | ⟨more, whole, -⟩
  · match slashes with
    | [] =>
      rw [List.append_nil] at passed
      exact notIn (passed ▸ by simp)
    | [slash] =>
      obtain ⟨rfl, -⟩ : '/' = slash ∧ _ := List.cons.inj double
      rw [List.concat_eq_append] at passed
      exact noSlash (List.cons.inj (List.append_inj_right' passed rfl)).1
    | slash :: other :: later =>
      obtain ⟨rfl, tail⟩ : '/' = slash ∧ _ := List.cons.inj double
      obtain ⟨rfl, -⟩ : '/' = other ∧ _ := List.cons.inj tail
      refine single ⟨front ++ repository, later, ?_⟩
      rw [passed]
      simp
  · exact notIn (whole ▸ by simp)

/-! ### Addresses -/

-- Every double slash is that of an address: a colon stands before it.
def Addresses (text : List Char) : Prop :=
  ∀ front back, text = front ++ '/' :: '/' :: back → front.getLast? = some ':'

theorem addresses_iff (text : List Char) :
    Addresses text ↔ ∀ i < text.length, ['/', '/'] <+: text.drop i →
      (text.take i).getLast? = some ':' := by
  constructor
  · rintro addresses i - ⟨back, same⟩
    exact addresses (text.take i) back
      ((List.take_append_drop i text).symm.trans (congrArg (text.take i ++ ·) same.symm))
  · rintro every front back rfl
    have place := every front.length (by simp) (by simp)
    rwa [List.take_left] at place

instance (text : List Char) : Decidable (Addresses text) :=
  decidable_of_iff _ (addresses_iff text).symm

-- A colon ends no repository, so that the label is what follows it.
theorem Addresses.label (front word back : List Char)
    (addresses : Addresses (front ++ (word ++ back))) (written : Written word) :
    Local word ∧ front.getLast? = some ':' := by
  obtain ⟨repository, _, inRepository, inside⟩ := written
  have colon : (front ++ repository).getLast? = some ':' := by
    obtain ⟨package, target, -, -, -⟩ := inside
    exact addresses (front ++ repository) (package ++ ':' :: target ++ back) (by simp)
  have plain (name : List Char) (inName : ∀ c ∈ name, isRepositoryChar c) : ':' ∉ name :=
    fun member => absurd (inName ':' member) (by decide)
  have noColon : ':' ∉ repository := by
    cases inRepository with
    | own => exact List.not_mem_nil
    | named name inName => simpa using plain name inName
    | canonical name inName => simpa using plain name inName
  cases repository.eq_nil_or_concat with
  | inl own =>
    subst own
    exact ⟨inside, by simpa using colon⟩
  | inr named =>
    obtain ⟨start, c, rfl⟩ := named
    have last : c = ':' := by simpa using colon
    exact absurd (by simp [last]) noColon

end Label

/-! ### What is reported of an output -/

namespace Text

theorem trim_end_append (front back : List Char) (last : ∀ c ∈ front.getLast?, isBlank c = false) :
    trimEnd (front ++ back) = front ++ trimEnd back := by
  have kept : front.reverse.dropWhile isBlank = front.reverse := by
    cases ending : front.reverse with
    | nil => rfl
    | cons c rest =>
      have noBlank := last c (by rw [← List.head?_reverse, ending]; rfl)
      exact List.dropWhile_cons_of_neg (by simp [noBlank])
  rw [trimEnd, List.reverse_append, List.dropWhile_append]
  split
  · next empty =>
    rw [kept, List.reverse_reverse, trimEnd, List.isEmpty_iff.1 empty, List.reverse_nil,
      List.append_nil]
  · rw [List.reverse_append, List.reverse_reverse, trimEnd]

end Text

namespace Label

theorem Written.trimmed (front label back : List Char) (written : Written label) :
    Text.trimEnd (front ++ (label ++ back)) = front ++ (label ++ Text.trimEnd back) := by
  obtain ⟨d, last, noBlank⟩ := written.last
  rw [← List.append_assoc, Text.trim_end_append, List.append_assoc]
  intro c ending
  rw [List.getLast?_append, show label.getLast? = some d from last] at ending
  cases ending
  exact noBlank

theorem in_text_found (text : String) (some : inText text ≠ "") :
    ∃ before after, First text.toList before (inText text).toList after := by
  unfold inText at some ⊢
  cases result : find? text.toList with
  | none =>
    rw [result] at some
    exact absurd rfl some
  | some label =>
    rw [Option.getD_some, String.toList_ofList]
    exact (find_iff _ _).1 result

theorem in_text_empty_iff (text : String) :
    inText text = "" ↔
      ∀ front word back, text.toList = front ++ (word ++ back) → ¬Written word := by
  rw [← find_none_iff]
  constructor
  · intro empty
    cases result : find? text.toList with
    | none => rfl
    | some label =>
      obtain ⟨_, _, first⟩ := (find_iff _ _).1 result
      obtain ⟨d, last, -⟩ := first.written.last
      rw [inText, result, Option.getD_some, ← String.toList_inj, String.toList_ofList] at empty
      rw [empty] at last
      cases last
  · intro result
    rw [inText, result]
    rfl

end Label

namespace Problem

theorem of_output_matched (signatures : List Pattern) (chunk : String) (given : chunk ≠ "")
    (matched : ∃ p ∈ signatures, p.occursIn chunk) :
    ofOutput? signatures chunk = some (ofConsole chunk) := by
  have none : chunk.isEmpty = false := eq_false_of_ne_true (not_isEmpty chunk given)
  rw [ofOutput?, none, List.any_eq_true.2 matched]
  rfl

theorem console_candidate (signatures : List Pattern) (before : List Event) (e : Event)
    (chunk : String) (p : Problem) (brought : chunk ∈ e.payload.console)
    (found : ofOutput? signatures chunk = some p) : p ∈ e.candidates signatures before := by
  obtain ⟨m, payload, member⟩ := mem_console e.payload chunk brought
  rw [of_output_candidates signatures before e m payload]
  exact List.mem_filterMap.2 ⟨chunk, member, found⟩

theorem label_between_blanks (signatures : List Pattern) (chunk : String)
    (before label after : List Char) (whole : chunk.toList = before ++ (label ++ after))
    (written : Label.Written label) (ahead : ∀ c ∈ before.getLast?, Text.isBlank c)
    (single : ¬['/', '/'] <:+: before) (behind : ∀ c ∈ after.head?, Text.isBlank c)
    (matched : ∃ p ∈ signatures, p.occursIn chunk) :
    let output := Text.trimRight chunk
    let candidate := progress (Ident.ofProblem "progress" [output]) (String.ofList label) output
    ofOutput? signatures chunk = some candidate ∧
      ∀ (earlier : List Event) (e : Event), chunk ∈ e.payload.console →
        candidate ∈ e.candidates signatures earlier := by
  intro output candidate
  have given : chunk ≠ "" := by
    rintro rfl
    obtain ⟨repository, _, _, ⟨package, target, _, _, _⟩⟩ := written
    simp at whole
  obtain ⟨blanks, padded, -⟩ := Text.trim_end_padded after
  have trimmed : output.toList = before ++ (label ++ Text.trimEnd after) := by
    rw [show output.toList = Text.trimEnd chunk.toList from String.toList_ofList, whole,
      written.trimmed]
  have first := Label.first_behind_blank before label (Text.trimEnd after) written ahead single
    fun c head => behind c (by rw [padded, List.head?_append, show _ = some c from head]; rfl)
  have found : Label.inText output = String.ofList label := by
    rw [Label.inText, trimmed, (Label.find_iff _ label).2 ⟨before, _, first⟩]
    rfl
  have result : ofOutput? signatures chunk = some candidate := by
    rw [of_output_matched signatures chunk given matched, ofConsole, found]
  exact ⟨result, fun earlier e brought =>
    console_candidate signatures earlier e chunk candidate brought result⟩

theorem label_among_labels :
    let chunk := "ERROR: in a/b:c @@r~1.0+x//a.b//c/:d/e=f,@g\n//h:i http://j:1/k"
    let before := "ERROR: in a/b:c ".toList
    let label := "@@r~1.0+x//a.b//c/:d/e=f,@g".toList
    let after := "\n//h:i http://j:1/k".toList
    let signatures := Settings.default.signatures
    let output := Text.trimRight chunk
    let candidate := progress (Ident.ofProblem "progress" [output]) (String.ofList label) output
    (chunk.toList = before ++ (label ++ after) ∧ Label.Written label ∧
      (∀ c ∈ before.getLast?, Text.isBlank c) ∧ ¬['/', '/'] <:+: before ∧
      (∀ c ∈ after.head?, Text.isBlank c) ∧ ∃ p ∈ signatures, p.occursIn chunk) ∧
    ofOutput? signatures chunk = some candidate ∧
      ∀ (earlier : List Event) (e : Event), chunk ∈ e.payload.console →
        candidate ∈ e.candidates signatures earlier := by
  intro chunk before label after signatures output candidate
  have whole : chunk.toList = before ++ (label ++ after) := by decide +kernel
  have parts : label = "@@r~1.0+x".toList ++
      '/' :: '/' :: ("a.b//c/".toList ++ ':' :: "d/e=f,@g".toList) := by decide +kernel
  have repository : Label.Repository "@@r~1.0+x".toList := by
    have sign : "@@r~1.0+x".toList = '@' :: '@' :: "r~1.0+x".toList := by decide +kernel
    rw [sign]
    exact .canonical _ (List.all_eq_true.1 (by decide +kernel))
  have written : Label.Written label := by
    rw [parts]
    exact .mk _ _ repository (.mk _ _ (List.all_eq_true.1 (by decide +kernel))
      (by decide +kernel) (List.all_eq_true.1 (by decide +kernel)))
  have ahead : ∀ c ∈ before.getLast?, Text.isBlank c :=
    (Option.all_eq_true _ _).1 (by decide +kernel)
  have single : ¬['/', '/'] <:+: before := by decide +kernel
  have behind : ∀ c ∈ after.head?, Text.isBlank c :=
    (Option.all_eq_true _ _).1 (by decide +kernel)
  have matched : ∃ p ∈ signatures, p.occursIn chunk :=
    List.any_eq_true.1 ((Settings.default_signatures_occur chunk).2 (by decide +kernel))
  exact ⟨⟨whole, written, ahead, single, behind, matched⟩, label_between_blanks signatures chunk
    before label after whole written ahead single behind matched⟩

-- Where every double slash is that of an address, the label of the candidate is empty unless
-- a colon and a target character come behind one, as before a port. It is then what stands there.
theorem label_of_addresses (signatures : List Pattern) (chunk : String) (given : chunk ≠ "")
    (matched : ∃ p ∈ signatures, p.occursIn chunk) (addresses : Label.Addresses chunk.toList) :
    let output := Text.trimRight chunk
    ∃ label, ofOutput? signatures chunk =
        some (progress (Ident.ofProblem "progress" [output]) label output) ∧
      (label = "" ↔ ∀ front package c back,
        chunk.toList = front ++ '/' :: '/' :: (package ++ ':' :: c :: back) →
          (∀ d ∈ package, Label.isPackageChar d) → Label.isTargetChar c = false) ∧
      (label ≠ "" → ∃ front back, chunk.toList = front ++ (label.toList ++ back) ∧
        front.getLast? = some ':' ∧ Label.Local label.toList) := by
  intro output
  have trimmed : output.toList = Text.trimEnd chunk.toList := String.toList_ofList
  obtain ⟨blanks, padded, -⟩ := Text.trim_end_padded chunk.toList
  rw [← trimmed] at padded
  have inChunk (front word back : List Char) (same : output.toList = front ++ (word ++ back))
      (written : Label.Written word) : chunk.toList = front ++ (word ++ (back ++ blanks)) ∧
        Label.Local word ∧ front.getLast? = some ':' := by
    have whole : chunk.toList = front ++ (word ++ (back ++ blanks)) := by
      rw [padded, same]
      simp
    rw [whole] at addresses
    exact ⟨whole, addresses.label front word _ written⟩
  refine ⟨Label.inText output, of_output_matched signatures chunk given matched,
    (Label.in_text_empty_iff output).trans ⟨fun nowhere => ?_, fun noPort => ?_⟩, fun some => ?_⟩
  · intro front package c back whole inPackage
    by_contra inTarget
    have inside := Label.Local.mk package [c] inPackage (by simp) (by simpa using inTarget)
    have written := Label.Written.mk [] _ .own inside
    refine nowhere front _ (Text.trimEnd back) ?_ written
    rw [trimmed, ← written.trimmed, whole]
    simp
  · intro front word back same written
    obtain ⟨whole, ⟨package, target, inPackage, given, inTarget⟩, -⟩ :=
      inChunk front word back same written
    obtain ⟨c, rest, rfl⟩ := List.exists_cons_of_ne_nil given
    have outside := noPort front package c (rest ++ back ++ blanks) (by simpa using whole) inPackage
    rw [inTarget c (.head _)] at outside
    cases outside
  · obtain ⟨front, back, first⟩ := Label.in_text_found output some
    obtain ⟨whole, inside, colon⟩ := inChunk front _ back first.split first.written
    exact ⟨front, back ++ blanks, whole, colon, inside⟩

theorem no_label_of_address :
    let chunk := "ERROR: a: http://b/c d:e"
    let signatures := Settings.default.signatures
    let output := Text.trimRight chunk
    (chunk ≠ "" ∧ (∃ p ∈ signatures, p.occursIn chunk) ∧ Label.Addresses chunk.toList) ∧
    ∃ label, ofOutput? signatures chunk =
        some (progress (Ident.ofProblem "progress" [output]) label output) ∧
      (label = "" ↔ ∀ front package c back,
        chunk.toList = front ++ '/' :: '/' :: (package ++ ':' :: c :: back) →
          (∀ d ∈ package, Label.isPackageChar d) → Label.isTargetChar c = false) ∧
      (label ≠ "" → ∃ front back, chunk.toList = front ++ (label.toList ++ back) ∧
        front.getLast? = some ':' ∧ Label.Local label.toList) := by
  intro chunk signatures output
  have given : chunk ≠ "" := by decide +kernel
  have matched : ∃ p ∈ signatures, p.occursIn chunk :=
    List.any_eq_true.1 ((Settings.default_signatures_occur chunk).2 (by decide +kernel))
  have addresses : Label.Addresses chunk.toList := by decide +kernel
  exact ⟨⟨given, matched, addresses⟩,
    label_of_addresses signatures chunk given matched addresses⟩

theorem address_taken_for_label :
    let chunk := "ERROR: in http://host:8080/x done"
    let signatures := Settings.default.signatures
    ((∃ p ∈ signatures, p.occursIn chunk) ∧ Label.Addresses chunk.toList) ∧
      (ofOutput? signatures chunk).map label = some "//host:8080/x" := by
  intro chunk signatures
  have matched : ∃ p ∈ signatures, p.occursIn chunk :=
    List.any_eq_true.1 ((Settings.default_signatures_occur chunk).2 (by decide +kernel))
  refine ⟨⟨matched, by decide +kernel⟩, ?_⟩
  rw [of_output_matched signatures chunk (by decide +kernel) matched]
  exact congrArg some (by decide +kernel : Label.inText (Text.trimRight chunk) = "//host:8080/x")

end Problem

end BuildDigest
