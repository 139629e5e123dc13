import BuildDigest.Feed

set_option autoImplicit false

namespace BuildDigest.Feed

def withoutReturn (line : List UInt8) : List UInt8 :=
  if line.getLast? = some carriageReturn then line.dropLast else line

-- What stands behind the last line feed is a line as it is, if there is anything.
def linesOfPieces (pieces : List (List UInt8)) : List (List UInt8) :=
  pieces.dropLast.map withoutReturn ++ pieces.getLast?.toList.filter (· ≠ [])

def physicalLines (bytes : List UInt8) : List (List UInt8) :=
  linesOfPieces (bytes.splitOn lineFeed)

def isBlankLine (line : List UInt8) : Bool :=
  (textOf? line).any Text.isAllBlank

def itemOf (number : Nat) (line : List UInt8) : Item :=
  match textOf? line with
  | none => .error (.unreadable number Fault.notUtf8)
  | some text => (Event.ofText? text).mapError (.undecodable number text)

def Fault.down (lines : Nat) : Fault → Fault
  | unreadable line reason => unreadable (lines + line) reason
  | undecodable line text flaw => undecodable (lines + line) text flaw
  | other message => other message

theorem pieces_cons (b : UInt8) (rest : List UInt8) :
    (b :: rest).splitOn lineFeed =
      if b = lineFeed then [] :: rest.splitOn lineFeed
      else (rest.splitOn lineFeed).modifyHead (b :: ·) := by
  simp [List.splitOn, List.splitOnP_cons_eq_if_modifyHead]

theorem pieces_some (bytes : List UInt8) : bytes.splitOn lineFeed ≠ [] :=
  List.splitOnP_ne_nil _ bytes

theorem pieces_append (bytes rest : List UInt8) :
    (bytes ++ lineFeed :: rest).splitOn lineFeed =
      bytes.splitOn lineFeed ++ rest.splitOn lineFeed :=
  List.splitOnP_append_cons bytes rest (beq_self_eq_true lineFeed)

theorem lines_of_pieces_append (pieces more : List (List UInt8)) (some : more ≠ []) :
    linesOfPieces (pieces ++ more) = pieces.map withoutReturn ++ linesOfPieces more := by
  have last := List.getLast?_eq_some_getLast some
  simp [linesOfPieces, List.dropLast_append_of_ne_nil some, List.getLast?_append, last]

theorem without_return_reverse (current : List UInt8) :
    (match current with
      | c :: before => if c = carriageReturn then before else c :: before
      | [] => []).reverse = withoutReturn current.reverse := by
  cases current with
  | nil => rfl
  | cons c before =>
    by_cases isReturn : c = carriageReturn
    · simp [withoutReturn, isReturn]
    · simp [withoutReturn, isReturn]

theorem lines_from_cons (current : List UInt8) (b : UInt8) (rest : List UInt8) :
    linesFrom current (b :: rest) =
      if b = lineFeed then withoutReturn current.reverse :: linesFrom [] rest
      else linesFrom (b :: current) rest := by
  rw [← without_return_reverse]
  rfl

-- What has been read of the first line is put in front of the first piece.
theorem lines_from_pieces (current bytes : List UInt8) :
    linesFrom current bytes =
      linesOfPieces ((bytes.splitOn lineFeed).modifyHead (current.reverse ++ ·)) := by
  induction bytes generalizing current with
  | nil => cases current <;> simp [linesFrom, linesOfPieces]
  | cons b rest ih =>
    rw [lines_from_cons, pieces_cons]
    by_cases ends : b = lineFeed
    · have others := lines_of_pieces_append [current.reverse] (rest.splitOn lineFeed)
        (pieces_some rest)
      have later : linesFrom [] rest = linesOfPieces (rest.splitOn lineFeed) := by
        rw [ih]
        cases rest.splitOn lineFeed <;> rfl
      rw [if_pos ends, if_pos ends, later]
      simpa using others.symm
    · rw [if_neg ends, if_neg ends, ih]
      cases rest.splitOn lineFeed with
      | nil => rfl
      | cons first pieces => simp

theorem lines_physical (bytes : List UInt8) : lines bytes = physicalLines bytes := by
  rw [lines, lines_from_pieces, physicalLines]
  cases bytes.splitOn lineFeed <;> rfl

theorem lines_append (bytes rest : List UInt8) :
    lines (bytes ++ lineFeed :: rest) = lines (bytes ++ [lineFeed]) ++ lines rest := by
  simp only [lines_physical, physicalLines, pieces_append]
  rw [lines_of_pieces_append _ _ (pieces_some rest), lines_of_pieces_append _ _ (pieces_some [])]
  simp [linesOfPieces]

theorem lines_length (bytes : List UInt8) :
    (lines (bytes ++ [lineFeed])).length = bytes.count lineFeed + 1 := by
  have pieces : (bytes.splitOn lineFeed).length = bytes.count lineFeed + 1 := by
    induction bytes with
    | nil => rfl
    | cons b rest ih =>
      rw [pieces_cons]
      by_cases ends : b = lineFeed <;> simp [ends, ih]
  rw [lines_physical, physicalLines, pieces_append, lines_of_pieces_append _ _ (pieces_some [])]
  simpa [linesOfPieces] using pieces

theorem item_of_line (number : Nat) (line : List UInt8) :
    item? number line = if isBlankLine line then none else some (itemOf number line) := by
  unfold item? isBlankLine itemOf
  cases textOf? line with
  | none => rfl
  | some text => rfl

theorem items_from_numbered (number : Nat) (ls : List (List UInt8)) :
    itemsFrom number ls =
      ((ls.zipIdx number).filter (!isBlankLine ·.1)).map fun (line, n) => itemOf n line := by
  induction ls generalizing number with
  | nil => rfl
  | cons line rest ih =>
    rw [itemsFrom, item_of_line, ih, List.zipIdx_cons]
    cases blank : isBlankLine line <;> simp [blank]

theorem items_from_append (number : Nat) (ls more : List (List UInt8)) :
    itemsFrom number (ls ++ more) = itemsFrom number ls ++ itemsFrom (number + ls.length) more := by
  simp [items_from_numbered, List.zipIdx_append]

theorem item_down (lines number : Nat) (line : List UInt8) :
    itemOf (lines + number) line = (itemOf number line).mapError (Fault.down lines) := by
  unfold itemOf
  cases textOf? line with
  | none => rfl
  | some text =>
    simp only
    cases Event.ofText? text <;> rfl

theorem items_from_down (lines number : Nat) (ls : List (List UInt8)) :
    itemsFrom (lines + number) ls =
      (itemsFrom number ls).map (Except.mapError (Fault.down lines)) := by
  induction ls generalizing number with
  | nil => rfl
  | cons line rest ih =>
    rw [itemsFrom, itemsFrom, Nat.add_assoc, ih, List.map_append, item_of_line, item_of_line,
      item_down]
    cases isBlankLine line <;> rfl

theorem items_append (bytes rest : List UInt8) :
    items (bytes ++ lineFeed :: rest) =
      items (bytes ++ [lineFeed]) ++
        (items rest).map (Except.mapError (Fault.down ((bytes ++ [lineFeed]).count lineFeed))) := by
  rw [items, lines_append, items_from_append, lines_length, Nat.add_comm 1, items_from_down]
  simp [items]

theorem items_down_none (its : List Item) : its.map (Except.mapError (Fault.down 0)) = its := by
  refine List.map_id'' ?_ its
  rintro (fault | e)
  · refine congrArg Except.error ?_
    cases fault <;> simp [Fault.down]
  · rfl

theorem items_ended (bytes rest : List UInt8)
    (ended : bytes = [] ∨ bytes.getLast? = some lineFeed) :
    items (bytes ++ rest) =
      items bytes ++ (items rest).map (Except.mapError (Fault.down (bytes.count lineFeed))) := by
  rcases ended with rfl | ended
  · rw [List.count_nil, items_down_none]
    rfl
  · obtain ⟨before, rfl⟩ := List.getLast?_eq_some_iff.1 ended
    rw [List.append_assoc, List.singleton_append, items_append]

-- The lines that are not blank give one item each, in their order and with their own number. What
-- comes behind a line feed gives the same items as if it stood alone, but for the line numbers.
theorem items_of_bytes :
    (∀ bytes, items bytes =
      (((physicalLines bytes).zipIdx 1).filter (!isBlankLine ·.1)).map
        fun (line, number) => itemOf number line) ∧
    ∀ bytes rest, bytes = [] ∨ bytes.getLast? = some lineFeed →
      items (bytes ++ rest) =
        items bytes ++ (items rest).map (Except.mapError (Fault.down (bytes.count lineFeed))) := by
  refine ⟨fun bytes => ?_, items_ended⟩
  rw [items, items_from_numbered, lines_physical]

-- Behind a line that is not UTF-8, a blank line counts but gives nothing.
theorem items_behind_unreadable_line :
    let bytes : List UInt8 := [0xff, lineFeed]
    let rest : List UInt8 := [0x20, carriageReturn, lineFeed, 0x5b]
    bytes.getLast? = some lineFeed ∧
      items (bytes ++ rest) =
        [.error (.unreadable 1 Fault.notUtf8), .error (.undecodable 3 "[" .truncated)] := by
  intro bytes rest
  have ended : bytes.getLast? = some lineFeed := rfl
  have split := items_of_bytes.2 bytes rest (.inr ended)
  refine ⟨ended, split.trans ?_⟩
  rfl

theorem ended_lines_split (bytes : List UInt8) :
    ∃ last, lineFeed ∉ last ∧ bytes = endedLines bytes ++ last ∧
      (endedLines bytes = [] ∨ (endedLines bytes).getLast? = some lineFeed) := by
  refine ⟨(bytes.reverse.takeWhile (· ≠ lineFeed)).reverse, fun inside => ?_, ?_, ?_⟩
  · have other := (List.all_eq_true.1 List.all_takeWhile) _ (List.mem_reverse.1 inside)
    simp at other
  · rw [endedLines, ← List.reverse_append, List.takeWhile_append_dropWhile, List.reverse_reverse]
  · have first := List.head?_dropWhile_not (· ≠ lineFeed) bytes.reverse
    unfold endedLines
    rw [List.getLast?_reverse]
    cases ended : bytes.reverse.dropWhile (· ≠ lineFeed) with
    | nil => exact .inl rfl
    | cons b before =>
      rw [ended] at first
      exact .inr (by simpa using first)

-- Where reading fails, the failure takes the place of what the line at hand would give.
theorem items_of_content (c : Content) (reason : String) (fails : c.failure? = some reason) :
    ∃ before last, lineFeed ∉ last ∧
      items c.bytes =
        before ++ (items last).map (Except.mapError (Fault.down (c.bytes.count lineFeed))) ∧
      c.items = before ++ [.error (.unreadable (c.bytes.count lineFeed + 1) reason)] := by
  obtain ⟨last, unended, split, ended⟩ := ended_lines_split c.bytes
  have count : c.bytes.count lineFeed = (endedLines c.bytes).count lineFeed := by
    rw [split, List.count_append, List.count_eq_zero.2 unended, Nat.add_zero, ← split]
  refine ⟨items (endedLines c.bytes), last, unended, ?_, by rw [Content.items, fails]⟩
  rw [count, ← items_ended _ last ended, ← split]

end BuildDigest.Feed
