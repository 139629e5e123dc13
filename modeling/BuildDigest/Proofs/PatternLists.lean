import BuildDigest.Proofs.Links
import BuildDigest.Proofs.Pieces
import BuildDigest.Proofs.Rounds

set_option autoImplicit false

namespace BuildDigest

namespace Text

theorem Trims.trimmed (text inner : String) (trims : Trims text inner) : trim text = inner := by
  by_cases empty : inner = ""
  · rw [empty]
    exact ((trim_trims text).empty_iff text _).2 ((trims.empty_iff text inner).1 empty)
  · obtain ⟨before, after, whole, blanks⟩ := trims.padded
    obtain ⟨front, back⟩ := List.forall_mem_append.1 blanks
    have given : inner.toList ≠ [] := fun none => empty (String.toList_inj.1 none)
    have start : ∀ c ∈ (inner.toList ++ after).head?, isBlank c = false := by
      rw [List.head?_append_of_ne_nil _ given]
      exact trims.tight.first
    have finish : ∀ c ∈ inner.toList.reverse.head?, isBlank c = false := by
      rw [List.head?_reverse]
      exact trims.tight.last
    have behind : ∀ c ∈ after.reverse, isBlank c := fun c member =>
      back c (List.mem_reverse.1 member)
    apply String.toList_inj.1
    rw [trim, String.toList_ofList, trimEnd, trimStart, whole, List.append_assoc,
      (run_taken isBlank before _ front start).2, List.reverse_append,
      (run_taken isBlank after.reverse _ behind finish).2, List.reverse_reverse]

end Text

namespace Settings

-- The segments that patterns are written in: a pattern with blanks around it, or only blanks.
inductive Segments : List String → List String → Prop
  | none : Segments [] []
  | blank (segment : String) (segments patterns : List String) (blank : Text.isAllBlank segment)
      (others : Segments segments patterns) : Segments (segment :: segments) patterns
  | pattern (segment pattern : String) (segments patterns : List String) (given : pattern ≠ "")
      (single : ';' ∉ pattern.toList) (trims : Text.Trims segment pattern)
      (others : Segments segments patterns) : Segments (segment :: segments) (pattern :: patterns)

theorem Segments.single (segments patterns : List String) (written : Segments segments patterns) :
    ∀ segment ∈ segments, ';' ∉ segment.toList := by
  induction written with
  | none => exact nofun
  | blank segment segments patterns blank others ih =>
    refine List.forall_mem_cons.2 ⟨fun member => ?_, ih⟩
    exact absurd (List.all_eq_true.1 blank ';' member) (by decide)
  | pattern segment pattern segments patterns given single trims others ih =>
    refine List.forall_mem_cons.2 ⟨fun member => ?_, ih⟩
    obtain ⟨before, after, whole, blanks⟩ := trims.padded
    obtain ⟨front, back⟩ := List.forall_mem_append.1 blanks
    rw [whole, List.mem_append, List.mem_append] at member
    rcases member with (before | inside) | after
    · exact absurd (front ';' before) (by decide)
    · exact single inside
    · exact absurd (back ';' after) (by decide)

theorem Segments.kept (segments patterns : List String) (written : Segments segments patterns) :
    (segments.map Text.trim).filter (fun p => !p.isEmpty) = patterns := by
  induction written with
  | none => rfl
  | blank segment segments patterns blank others ih =>
    have empty : Text.trim segment = "" :=
      ((Text.trim_trims segment).empty_iff segment _).2 blank
    rw [List.map_cons, empty, List.filter_cons_of_neg (by decide), ih]
  | pattern segment pattern segments patterns given single trims others ih =>
    rw [List.map_cons, trims.trimmed, List.filter_cons_of_pos (by simpa using given), ih]

theorem Segments.patterns (segments patterns : List String) (written : Segments segments patterns) :
    patternsOf (";".intercalate segments) = patterns := by
  by_cases some : segments = []
  · subst some
    cases written
    rfl
  · have single : ∀ segment ∈ segments.map (·.toList), ';' ∉ segment := by
      rw [List.forall_mem_map]
      exact written.single segments patterns
    have split : Text.pieces ';' (";".intercalate segments).toList = segments.map (·.toList) := by
      rw [Text.pieces_split, String.toList_intercalate]
      exact List.splitOn_intercalate ';' single (mt List.map_eq_nil_iff.1 some)
    rw [patternsOf, split, List.map_map, ← written.kept segments patterns]
    simp [Function.comp_def]

theorem Segments.arrive (policy : Option String) (segments patterns : List String)
    (written : Segments segments patterns) :
    (ofEnvironment policy (some (";".intercalate segments))).patterns =
      if patterns = [] then default.patterns else patterns := by
  rw [ofEnvironment, Option.map_some, written.patterns, Option.getD_some]
  cases patterns <;> rfl

def readable (settings : Settings) : Settings :=
  { settings with patterns := settings.patterns.filter fun p => (Pattern.ofText? p).isSome }

theorem readable_signatures (settings : Settings) :
    settings.readable.signatures = settings.signatures := by
  rw [signatures, readable, List.filterMap_filter]
  refine List.filterMap_congr fun p _ => ?_
  cases read : Pattern.ofText? p <;> simp

theorem of_output_iff (settings : Settings) (chunk : String) :
    (∃ p, Problem.ofOutput? settings.signatures chunk = some p) ↔
      chunk ≠ "" ∧ ∃ pattern ∈ settings.patterns, ∃ signature,
        Pattern.ofText? pattern = some signature ∧ signature.occursIn chunk := by
  have found : (settings.signatures.any fun p => p.occursIn chunk) ↔
      ∃ pattern ∈ settings.patterns, ∃ signature,
        Pattern.ofText? pattern = some signature ∧ signature.occursIn chunk := by
    rw [List.any_eq_true]
    constructor
    · intro ⟨signature, member, occurs⟩
      obtain ⟨pattern, listed, read⟩ := List.mem_filterMap.1 member
      exact ⟨pattern, listed, signature, read, occurs⟩
    · intro ⟨pattern, listed, signature, read, occurs⟩
      exact ⟨signature, List.mem_filterMap.2 ⟨pattern, listed, read⟩, occurs⟩
  rw [← found, Problem.ofOutput?]
  simp

-- The patterns that are listed in the environment arrive as they are, in their order; of a list
-- without any the default ones remain. Those that cannot be read make no difference to any report.
theorem listed_patterns_arrive (settings : Settings) :
    (∀ policy segments patterns, Segments segments patterns →
      (ofEnvironment policy (some (";".intercalate segments))).patterns =
        if patterns = [] then default.patterns else patterns) ∧
    (∀ chunk, (∃ p, Problem.ofOutput? settings.signatures chunk = some p) ↔
      chunk ≠ "" ∧ ∃ pattern ∈ settings.patterns, ∃ signature,
        Pattern.ofText? pattern = some signature ∧ signature.occursIn chunk) ∧
    ∀ rounds : List (List Event),
      (settings.watcher.rounds rounds settings.watcher.start).1 =
        (settings.readable.watcher.rounds rounds settings.readable.watcher.start).1 := by
  refine ⟨Segments.arrive, of_output_iff settings, fun rounds => ?_⟩
  rw [watcher, watcher, readable_signatures]

theorem pattern_behind_unreadable :
    let segments := ["\t(unclosed\n", "\u3000", "", "\u2003bo+m "]
    let settings := ofEnvironment none (some (";".intercalate segments))
    settings.patterns = ["(unclosed", "bo+m"] ∧ settings.readable.patterns = ["bo+m"] ∧
      ∃ p, Problem.ofOutput? settings.signatures "it went boom" = some p := by
  intro segments settings
  have trims (segment pattern : String) (trimmed : Text.trim segment = pattern) :
      Text.Trims segment pattern := trimmed ▸ Text.trim_trims segment
  have written : Segments segments ["(unclosed", "bo+m"] :=
    .pattern _ _ _ _ (by decide) (by decide) (trims _ _ (by decide)) <|
    .blank _ _ _ (by decide) <| .blank _ _ _ (by decide) <|
    .pattern _ _ _ _ (by decide) (by decide) (trims _ _ (by decide)) .none
  have arrived : settings.patterns = ["(unclosed", "bo+m"] :=
    (listed_patterns_arrive settings).1 none segments _ written
  refine ⟨arrived, by rw [readable, arrived]; decide +kernel, ?_⟩
  refine ((listed_patterns_arrive settings).2.1 "it went boom").2 ⟨by decide, ?_⟩
  have occurs : ∃ signature ∈ Pattern.ofText? "bo+m", signature.occursIn "it went boom" := by
    decide +kernel
  obtain ⟨signature, read, found⟩ := occurs
  exact ⟨"bo+m", by simp [arrived], signature, read, found⟩

end Settings

end BuildDigest
