import BuildDigest.Run

set_option autoImplicit false

namespace BuildDigest

namespace Text

theorem pieces_split (separator : Char) (cs : List Char) :
    pieces separator cs = cs.splitOn separator := by
  induction cs with
  | nil => rfl
  | cons c rest ih =>
    rw [pieces, ih, List.splitOn_cons_eq_if_modifyHead]
    by_cases mark : c = separator
    · simp [mark]
    · cases split : rest.splitOn separator with
      | nil => exact absurd split (List.splitOn_ne_nil _ _)
      | cons first others => simp [mark]

theorem pieces_joined (separator : Char) (cs : List Char) :
    [separator].intercalate (pieces separator cs) = cs := by
  rw [pieces_split, List.intercalate_splitOn]

theorem pieces_some (separator : Char) (cs : List Char) : pieces separator cs ≠ [] := by
  rw [pieces_split]
  exact List.splitOn_ne_nil separator cs

theorem pieces_plain (separator : Char) (cs : List Char) (plain : separator ∉ cs) :
    pieces separator cs = [cs] := by
  rw [pieces_split]
  exact List.splitOn_eq_singleton plain

theorem pieces_append (separator : Char) (cs more : List Char) :
    pieces separator (cs ++ separator :: more) = pieces separator cs ++ pieces separator more := by
  rw [pieces_split, pieces_split, pieces_split]
  exact List.splitOn_append_cons_self cs more

-- A run of characters ends in front of the first that is none of them.
theorem run_taken (p : Char → Bool) (run after : List Char) (all : ∀ c ∈ run, p c)
    (stop : ∀ c ∈ after.head?, p c = false) :
    (run ++ after).takeWhile p = run ∧ (run ++ after).dropWhile p = after := by
  rw [List.takeWhile_append_of_pos all, List.dropWhile_append_of_pos all]
  cases after with
  | nil => simp
  | cons c rest => simp [stop c rfl]

theorem run_split (p : Char → Bool) (cs : List Char) :
    ∃ run after, cs = run ++ after ∧ (∀ c ∈ run, p c) ∧ ∀ c ∈ after.head?, p c = false := by
  refine ⟨cs.takeWhile p, cs.dropWhile p, List.takeWhile_append_dropWhile.symm,
    fun c => List.all_eq_true.1 List.all_takeWhile c, fun c head => ?_⟩
  have stop := List.head?_dropWhile_not p cs
  rwa [show (cs.dropWhile p).head? = some c from head] at stop

end Text

-- A location that a file can have: it ends in a name, with the way to it in front, if there is any.
structure NamesFile (location name : String) : Prop where
  ends : location = name ∨ ∃ way, location = way ++ "/" ++ name
  single : '/' ∉ name.toList
  given : name ≠ ""
  noFolder : name ≠ "." ∧ name ≠ ".."

theorem NamesFile.pieces (location name : String) (named : NamesFile location name) :
    ∃ way, Text.pieces '/' location.toList = way ++ [name.toList] := by
  have single := Text.pieces_plain '/' name.toList named.single
  rcases named.ends with rfl | ⟨way, rfl⟩
  · exact ⟨[], single⟩
  · refine ⟨Text.pieces '/' way.toList, ?_⟩
    rw [String.toList_append, String.toList_append, List.append_assoc, ← single]
    exact Text.pieces_append '/' _ _

theorem NamesFile.file_name (location name : String) (named : NamesFile location name) :
    Run.fileName? location = some name := by
  obtain ⟨way, pieces⟩ := named.pieces location name
  have other (text : List Char) (different : name ≠ String.ofList text) : name.toList ≠ text :=
    fun same => different (by rw [← same, String.ofList_toList])
  have kept : ¬(name.toList = [] ∨ name.toList = ['.']) :=
    not_or.2 ⟨other [] named.given, other ['.'] named.noFolder.1⟩
  rw [Run.fileName?, pieces, List.reverse_append, List.reverse_singleton, List.singleton_append,
    List.dropWhile_cons_of_neg (by simpa using kept)]
  simp only
  rw [if_neg (other ['.', '.'] named.noFolder.2), String.ofList_toList]

namespace Ident

-- The pieces between all bars of the parts, those in a part and those between two.
def pieces (parts : List String) : List (List Char) :=
  parts.flatMap fun part => Text.pieces '|' part.toList

def Plain (parts : List String) : Prop :=
  ∀ part ∈ parts, '|' ∉ part.toList

instance (parts : List String) : Decidable (Plain parts) :=
  inferInstanceAs (Decidable (∀ part ∈ parts, '|' ∉ part.toList))

theorem source_pieces (kind : String) (parts : List String) :
    Text.pieces '|' (source kind parts).toList = Text.pieces '|' kind.toList ++ pieces parts := by
  induction parts generalizing kind with
  | nil => simp [source, pieces]
  | cons part rest ih =>
    have first : Text.pieces '|' (kind ++ "|" ++ part).toList =
        Text.pieces '|' kind.toList ++ Text.pieces '|' part.toList := by
      rw [String.toList_append, String.toList_append, List.append_assoc]
      exact Text.pieces_append '|' _ _
    have whole := ih (kind ++ "|" ++ part)
    rw [first, List.append_assoc] at whole
    exact whole

theorem source_eq_iff (kind : String) (parts others : List String) :
    source kind parts = source kind others ↔ pieces parts = pieces others := by
  constructor
  · intro same
    have told := source_pieces kind parts
    rw [same, source_pieces kind others] at told
    exact (List.append_cancel_left told).symm
  · intro same
    rw [← String.toList_inj, ← Text.pieces_joined '|' (source kind parts).toList, source_pieces,
      same, ← source_pieces, Text.pieces_joined]

theorem source_told (kind other : String) (parts others : List String) (plain : '|' ∉ kind.toList)
    (alsoPlain : '|' ∉ other.toList) (same : source kind parts = source other others) :
    kind = other ∧ pieces parts = pieces others := by
  have told := congrArg (fun text : String => Text.pieces '|' text.toList) same
  simp only [source_pieces] at told
  rw [Text.pieces_plain '|' _ plain, Text.pieces_plain '|' _ alsoPlain] at told
  obtain ⟨kinds, behind⟩ := List.cons.inj told
  exact ⟨String.toList_inj.1 kinds, behind⟩

theorem bytes_eq_iff (text other : String) : Hash.utf8 text = Hash.utf8 other ↔ text = other := by
  refine ⟨fun same => ?_, congrArg Hash.utf8⟩
  exact String.toByteArray_inj.1 (ByteArray.ext (Array.toList_inj.1 same))

theorem plain_pieces (parts : List String) (plain : Plain parts) :
    pieces parts = parts.map (·.toList) := by
  induction parts with
  | nil => rfl
  | cons part rest ih =>
    rw [pieces, List.flatMap_cons, Text.pieces_plain '|' _ (plain part (.head _)), List.map_cons]
    exact congrArg (_ :: ·) (ih fun other member => plain other (.tail _ member))

theorem length_le_pieces (parts : List String) : parts.length ≤ (pieces parts).length := by
  induction parts with
  | nil => exact Nat.le_refl _
  | cons part rest ih =>
    have some := List.length_pos_iff.2 (Text.pieces_some '|' part.toList)
    rw [pieces, List.flatMap_cons, List.length_append, List.length_cons]
    exact Nat.add_comm rest.length 1 ▸ Nat.add_le_add some ih

-- As many parts with the same pieces are the same if the ones are plain, for then each of the others
-- is a single piece too.
theorem plain_determined (parts others : List String) (plain : Plain parts)
    (length : parts.length = others.length) (same : pieces parts = pieces others) :
    parts = others := by
  induction others generalizing parts with
  | nil => exact List.eq_nil_of_length_eq_zero length
  | cons other rest ih =>
    cases parts with
    | nil => cases length
    | cons part front =>
      have plainFront : Plain front := fun text member => plain text (.tail _ member)
      have lengths : front.length = rest.length := Nat.succ.inj length
      rw [plain_pieces _ plain, pieces, List.flatMap_cons, List.map_cons] at same
      cases split : Text.pieces '|' other.toList with
      | nil => exact absurd split (Text.pieces_some '|' other.toList)
      | cons first more =>
        rw [split, List.cons_append] at same
        obtain ⟨head, tail⟩ := List.cons.inj same
        have whole : more = [] := by
          have counted := congrArg List.length tail
          have least := length_le_pieces rest
          rw [List.length_map, List.length_append] at counted
          rw [pieces] at least
          exact List.eq_nil_of_length_eq_zero (by omega)
        subst whole
        have joined := Text.pieces_joined '|' other.toList
        rw [split, List.intercalate_singleton, ← head] at joined
        rw [String.toList_inj.1 joined]
        exact congrArg (other :: ·)
          (ih front plainFront lengths ((plain_pieces front plainFront).trans tail))

-- The first part may have bars if it is the only one and it is known how many follow: these are told
-- from the end.
theorem first_determined (part other : String) (rest others : List String) (plain : Plain rest)
    (alsoPlain : Plain others) (length : rest.length = others.length)
    (same : pieces (part :: rest) = pieces (other :: others)) : part :: rest = other :: others := by
  have split (part : String) (rest : List String) (plain : Plain rest) :
      pieces (part :: rest) = Text.pieces '|' part.toList ++ rest.map (·.toList) := by
    rw [← plain_pieces rest plain]
    exact List.flatMap_cons
  rw [split part rest plain, split other others alsoPlain] at same
  obtain ⟨firsts, behind⟩ := List.append_inj' same (by simpa using length)
  have first : part = other := by
    rw [← String.toList_inj, ← Text.pieces_joined '|' part.toList, firsts, Text.pieces_joined]
  rw [first, (List.map_inj_right fun _ _ => String.toList_inj.1).1 behind]

end Ident

end BuildDigest
