import BuildDigest.Proofs.Quotes

set_option autoImplicit false

namespace BuildDigest.Grammar

open Scan (isBlank skipBlanks digit?)

/-! ### Written values -/

def Blanks (cs : List Char) : Prop :=
  ∀ c ∈ cs, isBlank c

inductive WrittenName : Option String → List Char → Prop
  | mk (name : Option String) (before text after : List Char) (ahead : Blanks before)
      (quoted : Quoted name text) (behind : Blanks after) :
      WrittenName name (before ++ (text ++ after))

mutual
inductive Written : Draft → List Char → Prop
  | null : Written .null ['n', 'u', 'l', 'l']
  | yes : Written (.bool true) ['t', 'r', 'u', 'e']
  | no : Written (.bool false) ['f', 'a', 'l', 's', 'e']
  | number (parts : Numeral.Parts) (text : List Char) (number : NumberText parts text) :
      Written (.number (.ofParts parts)) text
  | text (s : Option String) (text : List Char) (quoted : Quoted s text) : Written (.text s) text
  | emptyList (inner : List Char) (blanks : Blanks inner) :
      Written (.list [] .closed) ('[' :: (inner ++ [']']))
  | list (items : List Draft) (inner : List Char) (parts : WrittenItems items inner) :
      Written (.list items .closed) ('[' :: (inner ++ [']']))
  | emptyRecord (inner : List Char) (blanks : Blanks inner) :
      Written (.record [] .closed) ('{' :: (inner ++ ['}']))
  | record (members : List (Option String × Draft)) (inner : List Char)
      (parts : WrittenMembers members inner) :
      Written (.record members .closed) ('{' :: (inner ++ ['}']))
inductive WrittenPart : Draft → List Char → Prop
  | mk (d : Draft) (before text after : List Char) (ahead : Blanks before) (written : Written d text)
      (behind : Blanks after) : WrittenPart d (before ++ (text ++ after))
inductive WrittenItems : List Draft → List Char → Prop
  | last (d : Draft) (text : List Char) (part : WrittenPart d text) : WrittenItems [d] text
  | more (d : Draft) (ds : List Draft) (text rest : List Char) (part : WrittenPart d text)
      (others : WrittenItems ds rest) : WrittenItems (d :: ds) (text ++ ',' :: rest)
inductive WrittenMembers : List (Option String × Draft) → List Char → Prop
  | last (name : Option String) (d : Draft) (key text : List Char) (named : WrittenName name key)
      (part : WrittenPart d text) : WrittenMembers [(name, d)] (key ++ ':' :: text)
  | more (name : Option String) (d : Draft) (ms : List (Option String × Draft))
      (key text rest : List Char) (named : WrittenName name key) (part : WrittenPart d text)
      (others : WrittenMembers ms rest) :
      WrittenMembers ((name, d) :: ms) (key ++ ':' :: (text ++ ',' :: rest))
end

def Document (d : Draft) (text : String) : Prop :=
  WrittenPart d text.toList

theorem written_sound (d : Draft) (text : List Char) (written : Written d text) :
    d.fault? = none := by
  cases written <;> rfl

theorem WrittenMembers.sound : ∀ {members : List (Option String × Draft)} {inner : List Char},
    WrittenMembers members inner → ∀ m ∈ members, m.2.fault? = none
  | _, _, .last _ _ _ _ _ (.mk d _ text _ _ written _) =>
    List.forall_mem_singleton.2 (written_sound d text written)
  | _, _, .more _ _ _ _ _ _ _ (.mk d _ text _ _ written _) others =>
    List.forall_mem_cons.2 ⟨written_sound d text written, others.sound⟩

theorem document_written (d : Draft) (text : String) (document : Document d text) :
    ∃ before inner after, text.toList = before ++ (inner ++ after) ∧ Written d inner := by
  unfold Document at document
  generalize text.toList = cs at document
  cases document with
  | mk d before inner after ahead written behind => exact ⟨before, inner, after, rfl, written⟩

theorem record_sound (members : List (Option String × Draft)) (stop : Stop) (text : String)
    (document : Document (.record members stop) text) : ∀ m ∈ members, m.2.fault? = none := by
  obtain ⟨_, _, _, _, written⟩ := document_written _ text document
  cases written with
  | emptyRecord inner blanks => exact nofun
  | record _ inner parts => exact parts.sound

/-! ### Blanks -/

theorem no_blanks : Blanks [] :=
  fun _ member => nomatch member

theorem skip_blanks_append (blanks rest : List Char) (isBlanks : Blanks blanks) :
    skipBlanks (blanks ++ rest) = skipBlanks rest :=
  List.dropWhile_append_of_pos isBlanks

theorem skip_blanks_cons (c : Char) (rest : List Char) (noBlank : ¬isBlank c) :
    skipBlanks (c :: rest) = c :: rest :=
  List.dropWhile_cons_of_neg noBlank

theorem skipped (cs : List Char) : ∃ blanks, Blanks blanks ∧ cs = blanks ++ skipBlanks cs :=
  ⟨cs.takeWhile isBlank, fun c member => List.all_eq_true.1 List.all_takeWhile c member,
    List.takeWhile_append_dropWhile.symm⟩

theorem blanks_append (before after : List Char) (ahead : Blanks before) (behind : Blanks after) :
    Blanks (before ++ after) :=
  List.forall_mem_append.2 ⟨ahead, behind⟩

theorem WrittenPart.behind_blanks (d : Draft) (blanks text : List Char) (isBlanks : Blanks blanks)
    (part : WrittenPart d text) : WrittenPart d (blanks ++ text) := by
  cases part with
  | mk d before text after ahead written behind =>
    rw [← List.append_assoc]
    exact .mk d _ text after (blanks_append _ _ isBlanks ahead) written behind

theorem WrittenItems.behind_blanks (items : List Draft) (blanks text : List Char)
    (isBlanks : Blanks blanks) (parts : WrittenItems items text) :
    WrittenItems items (blanks ++ text) := by
  cases parts with
  | last d text part => exact .last d _ (part.behind_blanks d blanks text isBlanks)
  | more d ds text rest part others =>
    rw [← List.append_assoc]
    exact .more d ds _ rest (part.behind_blanks d blanks text isBlanks) others

theorem WrittenName.behind_blanks (name : Option String) (blanks key : List Char)
    (isBlanks : Blanks blanks) (named : WrittenName name key) :
    WrittenName name (blanks ++ key) := by
  cases named with
  | mk before text after ahead quoted behind =>
    rw [← List.append_assoc]
    exact .mk name _ text after (blanks_append _ _ isBlanks ahead) quoted behind

theorem WrittenMembers.behind_blanks (members : List (Option String × Draft))
    (blanks text : List Char) (isBlanks : Blanks blanks) (parts : WrittenMembers members text) :
    WrittenMembers members (blanks ++ text) := by
  cases parts with
  | last name d key text named part =>
    rw [← List.append_assoc]
    exact .last name d _ text (named.behind_blanks name blanks key isBlanks) part
  | more name d ms key text rest named part others =>
    rw [← List.append_assoc]
    exact .more name d ms _ text rest (named.behind_blanks name blanks key isBlanks) part others

/-! ### What begins a value, and what ends it -/

-- What may follow a value: nothing, a blank or a mark of its container.
def Ends (rest : List Char) : Prop :=
  ∀ c ∈ rest.head?, isBlank c ∨ c = ',' ∨ c = ']' ∨ c = '}'

theorem blank_cases (c : Char) (blank : isBlank c) : c = ' ' ∨ c = '\t' ∨ c = '\n' ∨ c = '\r' := by
  simpa [isBlank, or_assoc] using blank

theorem Ends.number (rest : List Char) (ends : Ends rest) : EndsNumber rest := by
  intro c first
  rcases ends c first with blank | rfl | rfl | rfl
  · rcases blank_cases c blank with rfl | rfl | rfl | rfl <;> decide
  · decide
  · decide
  · decide

theorem blanks_end (blanks rest : List Char) (isBlanks : Blanks blanks) (ends : Ends rest) :
    Ends (blanks ++ rest) :=
  head_append blanks rest _ (fun c first => .inl (isBlanks c (List.mem_of_mem_head? first))) ends

def Begins (c : Char) : Prop :=
  ¬isBlank c ∧ c ≠ ']' ∧ c ≠ '}'

theorem begins_number (c : Char) (start : c = '-' ∨ (digit? c).isSome) : Begins c := by
  rcases start with rfl | digit
  · exact ⟨by decide, by decide, by decide⟩
  · refine ⟨fun blank => ?_, ?_, ?_⟩
    · rcases blank_cases c blank with rfl | rfl | rfl | rfl <;> cases digit
    · rintro rfl
      cases digit
    · rintro rfl
      cases digit

theorem Written.head (d : Draft) (text : List Char) (written : Written d text) :
    ∃ c rest, text = c :: rest ∧ Begins c := by
  have mark (c : Char) (rest : List Char) (begins : !isBlank c && c != ']' && c != '}') :
      ∃ first others, c :: rest = first :: others ∧ Begins first :=
    ⟨c, rest, rfl, by simpa [Begins, and_assoc] using begins⟩
  cases written with
  | number parts text number =>
    obtain ⟨c, rest, rfl, start⟩ := number_head parts text number
    exact ⟨c, rest, rfl, begins_number c start⟩
  | text s text quoted =>
    cases quoted
    exact mark _ _ rfl
  | _ => exact mark _ _ rfl

theorem WrittenPart.head (d : Draft) (text rest : List Char) (part : WrittenPart d text) :
    ∃ c others, skipBlanks (text ++ rest) = c :: others ∧ Begins c := by
  cases part with
  | mk d before text after ahead written behind =>
    obtain ⟨c, others, rfl, begins⟩ := written.head
    rw [List.append_assoc, skip_blanks_append _ _ ahead, List.append_assoc, List.cons_append,
      skip_blanks_cons c _ begins.1]
    exact ⟨c, _, rfl, begins⟩

theorem WrittenItems.head (items : List Draft) (text rest : List Char)
    (parts : WrittenItems items text) :
    ∃ c others, skipBlanks (text ++ rest) = c :: others ∧ Begins c := by
  cases parts with
  | last d text part => exact part.head d text rest
  | more d ds text more part others =>
    rw [List.append_assoc]
    exact part.head d text _

theorem WrittenName.head (name : Option String) (key rest : List Char)
    (named : WrittenName name key) :
    ∃ inner after, Blanks after ∧ skipBlanks (key ++ rest) = '"' :: inner ∧
      Scan.quoted inner = .ok (name, after ++ rest) := by
  cases named with
  | mk before text after ahead quoted behind =>
    obtain ⟨inner, rfl, scanned⟩ := quoted_written name text (after ++ rest) quoted
    refine ⟨inner ++ (after ++ rest), after, behind, ?_, scanned⟩
    rw [List.append_assoc, skip_blanks_append _ _ ahead, List.append_assoc, List.cons_append,
      skip_blanks_cons _ _ (by decide)]

theorem WrittenMembers.head (members : List (Option String × Draft)) (text rest : List Char)
    (parts : WrittenMembers members text) : ∃ inner, skipBlanks (text ++ rest) = '"' :: inner := by
  cases parts with
  | last name d key text named part =>
    rw [List.append_assoc]
    obtain ⟨inner, after, -, skipped, -⟩ := named.head name key (':' :: text ++ rest)
    exact ⟨inner, skipped⟩
  | more name d ms key text more named part others =>
    rw [List.append_assoc]
    obtain ⟨inner, after, -, skipped, -⟩ := named.head name key (':' :: (text ++ ',' :: more) ++ rest)
    exact ⟨inner, skipped⟩

/-! ### What is written is scanned -/

theorem value_scalar (fuel : Nat) (cs : List Char) (noList : cs.head? ≠ some '[')
    (noRecord : cs.head? ≠ some '{') : Scan.value (fuel + 1) cs = Scan.scalar cs := by
  rw [Scan.value]
  · rintro rest rfl
    exact noList rfl
  · rintro rest rfl
    exact noRecord rfl

theorem scalar_number (c : Char) (cs : List Char) (start : c = '-' ∨ (digit? c).isSome) :
    Scan.scalar (c :: cs) = Scan.number (c :: cs) := by
  have number : (c = '-' || (digit? c).isSome) = true := by simpa using start
  have other (letter : Char) (noStart : (letter = '-' || (digit? letter).isSome) = false) :
      c ≠ letter := by
    rintro rfl
    rw [number] at noStart
    cases noStart
  rw [Scan.scalar, if_pos number]
  · exact other 'n' rfl
  · exact other 't' rfl
  · exact other 'f' rfl
  · exact other '"' rfl

theorem after_part_closed (bracket : Char) (blanks rest : List Char) (isBlanks : Blanks blanks)
    (mark : ¬isBlank bracket ∧ bracket ≠ ',') :
    Scan.afterPart bracket (blanks ++ bracket :: rest) = .stop .closed rest := by
  unfold Scan.afterPart
  rw [skip_blanks_append _ _ isBlanks, skip_blanks_cons _ _ mark.1]
  split
  · next same => cases same
  · next same => exact absurd (List.cons.inj same).1 mark.2
  · next same =>
    cases same
    exact if_pos rfl

theorem after_part_comma (bracket c : Char) (blanks rest cs : List Char)
    (isBlanks : Blanks blanks) (next : skipBlanks rest = c :: cs) (other : c ≠ bracket) :
    Scan.afterPart bracket (blanks ++ ',' :: rest) = .more (c :: cs) := by
  unfold Scan.afterPart
  rw [skip_blanks_append _ _ isBlanks, skip_blanks_cons _ _ (by decide)]
  simp only [next, if_neg other]

theorem after_colon (blanks rest : List Char) (isBlanks : Blanks blanks) :
    Scan.afterColon (blanks ++ ':' :: rest) = .ok (skipBlanks rest) := by
  unfold Scan.afterColon
  rw [skip_blanks_append _ _ isBlanks, skip_blanks_cons _ _ (by decide)]
  rfl

theorem list_inner (inner rest : List Char) (close bracket : Char) :
    bracket :: (inner ++ [close]) ++ rest = bracket :: (inner ++ close :: rest) := by
  simp

theorem fuel_left (text : List Char) (fuel : Nat) (enough : 2 * text.length + 1 ≤ fuel) :
    ∃ less, fuel = less + 1 ∧ 2 * text.length ≤ less :=
  ⟨fuel - 1, by omega, by omega⟩

mutual
-- The induction is on the written form; two steps of fuel are spent on a character at most.
theorem Written.scan (d : Draft) (text : List Char) (written : Written d text) (fuel : Nat)
    (rest : List Char) (enough : 2 * text.length ≤ fuel) (ends : Ends rest) :
    Scan.value fuel (text ++ rest) = (d, rest) := by
  have fuelled (inner : List Char) (open_ close : Char)
      (same : text = open_ :: (inner ++ [close])) :
      ∃ less, fuel = less + 1 ∧ 2 * inner.length + 1 ≤ less := by
    subst same
    simp only [List.length_cons, List.length_append, List.length_nil] at enough
    exact ⟨fuel - 1, by omega, by omega⟩
  have some : ∃ less, fuel = less + 1 := by
    obtain ⟨c, others, rfl, -⟩ := written.head
    exact ⟨fuel - 1, by simp only [List.length_cons] at enough; omega⟩
  cases written with
  | null =>
    obtain ⟨less, rfl⟩ := some
    rfl
  | yes =>
    obtain ⟨less, rfl⟩ := some
    rfl
  | no =>
    obtain ⟨less, rfl⟩ := some
    rfl
  | number parts text number =>
    obtain ⟨less, rfl⟩ := some
    obtain ⟨c, others, rfl, start⟩ := number_head parts text number
    have noBracket : c ≠ '[' ∧ c ≠ '{' := by
      constructor <;> rintro rfl <;> simp at start <;> cases start
    have scanned := number_written parts _ rest number (ends.number rest)
    rw [List.cons_append] at scanned ⊢
    rw [value_scalar, scalar_number c _ start, scanned]
    · exact fun first => noBracket.1 (Option.some.inj first)
    · exact fun first => noBracket.2 (Option.some.inj first)
  | text s text quoted =>
    obtain ⟨less, rfl⟩ := some
    obtain ⟨inner, rfl, scanned⟩ := quoted_written s text rest quoted
    rw [List.cons_append, value_scalar less _ (by simp) (by simp), Scan.scalar, scanned]
  | emptyList inner blanks =>
    obtain ⟨less, rfl, -⟩ := fuelled inner '[' ']' rfl
    rw [list_inner, Scan.value, skip_blanks_append _ _ blanks, skip_blanks_cons _ _ (by decide)]
    rfl
  | list items inner parts =>
    obtain ⟨less, rfl, bound⟩ := fuelled inner '[' ']' rfl
    obtain ⟨c, cs, next, begins⟩ := parts.head items inner (']' :: rest)
    have scanned := parts.scan items inner less rest bound
    rw [next] at scanned
    rw [list_inner, Scan.value, next]
    split
    · next same => exact absurd (List.cons.inj same).1 begins.2.1
    · next same => cases same
    · rw [scanned]
  | emptyRecord inner blanks =>
    obtain ⟨less, rfl, -⟩ := fuelled inner '{' '}' rfl
    rw [list_inner, Scan.value, skip_blanks_append _ _ blanks, skip_blanks_cons _ _ (by decide)]
    rfl
  | record members inner parts =>
    obtain ⟨less, rfl, bound⟩ := fuelled inner '{' '}' rfl
    obtain ⟨cs, next⟩ := parts.head members inner ('}' :: rest)
    have scanned := parts.scan members inner less rest bound
    rw [next] at scanned
    rw [list_inner, Scan.value, next]
    split
    · next same => exact absurd (List.cons.inj same).1 (by decide)
    · rw [scanned]
theorem WrittenPart.scan (d : Draft) (text : List Char) (part : WrittenPart d text) (fuel : Nat)
    (rest : List Char) (enough : 2 * text.length ≤ fuel) (ends : Ends rest) :
    ∃ after, Blanks after ∧ Scan.value fuel (skipBlanks (text ++ rest)) = (d, after ++ rest) ∧
      d.fault? = none := by
  cases part with
  | mk d before text after ahead written behind =>
    obtain ⟨c, others, rfl, begins⟩ := written.head
    have bound : 2 * (c :: others).length ≤ fuel := by
      simp only [List.length_append] at enough
      omega
    have scanned := written.scan d _ fuel (after ++ rest) bound (blanks_end after rest behind ends)
    refine ⟨after, behind, ?_, written_sound d _ written⟩
    rw [List.append_assoc, skip_blanks_append _ _ ahead, List.append_assoc, List.cons_append,
      skip_blanks_cons c _ begins.1]
    exact scanned
theorem WrittenItems.scan (items : List Draft) (text : List Char) (parts : WrittenItems items text)
    (fuel : Nat) (rest : List Char) (enough : 2 * text.length + 1 ≤ fuel) :
    Scan.items fuel (skipBlanks (text ++ ']' :: rest)) = (items, .closed, rest) := by
  obtain ⟨less, rfl, bound⟩ := fuel_left text fuel enough
  cases parts with
  | last d text part =>
    obtain ⟨after, behind, scanned, sound⟩ := part.scan d text less (']' :: rest) bound
      (fun c first => by cases first; simp)
    have closed := after_part_closed ']' after rest behind (by decide)
    simp only [Scan.items, scanned, sound, closed]
  | more d ds text more part others =>
    obtain ⟨after, behind, scanned, sound⟩ := part.scan d text less (',' :: (more ++ ']' :: rest))
      (by simp only [List.length_append] at bound; omega) (fun c first => by cases first; simp)
    obtain ⟨c, cs, next, begins⟩ := others.head ds more (']' :: rest)
    have comma := after_part_comma ']' c after _ cs behind next begins.2.1
    have later := others.scan ds more less rest
      (by simp only [List.length_append, List.length_cons] at bound; omega)
    rw [next] at later
    rw [List.append_assoc, List.cons_append]
    simp only [Scan.items, scanned, sound, comma, later]
theorem WrittenMembers.scan (members : List (Option String × Draft)) (text : List Char)
    (parts : WrittenMembers members text) (fuel : Nat) (rest : List Char)
    (enough : 2 * text.length + 1 ≤ fuel) :
    Scan.members fuel (skipBlanks (text ++ '}' :: rest)) = (members, .closed, rest) := by
  obtain ⟨less, rfl, bound⟩ := fuel_left text fuel enough
  cases parts with
  | last name d key text named part =>
    obtain ⟨inner, behindName, blanks, skipped, quoted⟩ :=
      named.head name key (':' :: text ++ '}' :: rest)
    obtain ⟨after, behind, scanned, sound⟩ := part.scan d text less ('}' :: rest)
      (by simp only [List.length_append, List.length_cons] at bound; omega)
      (fun c first => by cases first; simp)
    have colon := after_colon behindName (text ++ '}' :: rest) blanks
    have closed := after_part_closed '}' after rest behind (by decide)
    rw [List.append_assoc, skipped]
    simp only [Scan.members, quoted, List.cons_append, colon, scanned, sound, closed]
  | more name d ms key text more named part others =>
    obtain ⟨inner, behindName, blanks, skipped, quoted⟩ :=
      named.head name key (':' :: (text ++ ',' :: more) ++ '}' :: rest)
    obtain ⟨after, behind, scanned, sound⟩ := part.scan d text less (',' :: (more ++ '}' :: rest))
      (by simp only [List.length_append, List.length_cons] at bound; omega)
      (fun c first => by cases first; simp)
    obtain ⟨cs, next⟩ := others.head ms more ('}' :: rest)
    have colon := after_colon behindName (text ++ ',' :: (more ++ '}' :: rest)) blanks
    have comma := after_part_comma '}' '"' after _ cs behind next (by decide)
    have later := others.scan ms more less rest
      (by simp only [List.length_append, List.length_cons] at bound; omega)
    rw [next] at later
    rw [List.append_assoc, skipped]
    simp only [Scan.members, quoted, List.cons_append, List.append_assoc, colon, scanned, sound,
      comma, later]
end

/-! ### What is scanned is written -/

theorem word_text (value : Draft) (letters cs : List Char) (d : Draft) (rest : List Char)
    (scanned : Scan.word value letters cs = (d, rest)) (sound : d.fault? = none) :
    cs = letters ++ rest ∧ d = value := by
  induction letters generalizing cs with
  | nil =>
    cases scanned
    exact ⟨rfl, rfl⟩
  | cons w ws ih =>
    cases cs with
    | nil =>
      cases scanned
      cases sound
    | cons c cs =>
      simp only [Scan.word] at scanned
      split at scanned
      · next same =>
        obtain ⟨rfl, rfl⟩ := ih cs scanned
        exact ⟨by rw [same, List.cons_append], rfl⟩
      · cases scanned
        cases sound

theorem scalar_text (cs : List Char) (d : Draft) (rest : List Char)
    (scanned : Scan.scalar cs = (d, rest)) (sound : d.fault? = none) :
    ∃ text, cs = text ++ rest ∧ Written d text := by
  unfold Scan.scalar at scanned
  split at scanned
  · cases scanned
    cases sound
  · next cs =>
    obtain ⟨rfl, rfl⟩ := word_text _ _ _ d rest scanned sound
    exact ⟨_, rfl, .null⟩
  · next cs =>
    obtain ⟨rfl, rfl⟩ := word_text _ _ _ d rest scanned sound
    exact ⟨_, rfl, .yes⟩
  · next cs =>
    obtain ⟨rfl, rfl⟩ := word_text _ _ _ d rest scanned sound
    exact ⟨_, rfl, .no⟩
  · next cs =>
    split at scanned
    · next s left read =>
      cases scanned
      obtain ⟨text, same, quoted⟩ := quoted_text cs s _ read
      exact ⟨text, same, .text s text quoted⟩
    · cases scanned
      cases sound
  · split at scanned
    · obtain ⟨parts, text, same, number, rfl⟩ := number_text _ d rest scanned sound
      exact ⟨text, same, .number parts text number⟩
    · cases scanned
      cases sound

theorem after_part_stop (bracket : Char) (cs rest : List Char)
    (ended : Scan.afterPart bracket cs = .stop .closed rest) :
    ∃ blanks, Blanks blanks ∧ cs = blanks ++ bracket :: rest := by
  obtain ⟨blanks, isBlanks, same⟩ := skipped cs
  refine ⟨blanks, isBlanks, same.trans ?_⟩
  unfold Scan.afterPart at ended
  split at ended
  · cases ended
  · split at ended
    · cases ended
    · split at ended <;> cases ended
  · next c left _ next =>
    split at ended
    · next same =>
      cases ended
      rw [next, same]
    · cases ended

theorem after_part_more (bracket : Char) (cs rest : List Char)
    (more : Scan.afterPart bracket cs = .more rest) :
    ∃ before after, Blanks before ∧ Blanks after ∧ cs = before ++ ',' :: (after ++ rest) := by
  obtain ⟨before, ahead, same⟩ := skipped cs
  unfold Scan.afterPart at more
  split at more
  · cases more
  · next left next =>
    obtain ⟨after, behind, others⟩ := skipped left
    split at more
    · cases more
    · next c cs first =>
      split at more
      · cases more
      · cases more
        exact ⟨before, after, ahead, behind, by rw [← first, ← others, ← next, ← same]⟩
  · split at more <;> cases more

theorem after_colon_text (cs rest : List Char) (colon : Scan.afterColon cs = .ok rest) :
    ∃ before after, Blanks before ∧ Blanks after ∧ cs = before ++ ':' :: (after ++ rest) := by
  obtain ⟨before, ahead, same⟩ := skipped cs
  unfold Scan.afterColon at colon
  split at colon
  · cases colon
  · next left next =>
    obtain ⟨after, behind, others⟩ := skipped left
    cases colon
    exact ⟨before, after, ahead, behind, by rw [← others, ← next, ← same]⟩
  · cases colon

mutual
-- The induction is on the fuel that is left.
theorem value_text (fuel : Nat) (cs : List Char) (d : Draft) (rest : List Char)
    (scanned : Scan.value fuel cs = (d, rest)) (sound : d.fault? = none) :
    ∃ text, cs = text ++ rest ∧ Written d text := by
  unfold Scan.value at scanned
  split at scanned
  · cases scanned
    cases sound
  · next fuel cs =>
    obtain ⟨blanks, isBlanks, same⟩ := skipped cs
    split at scanned
    · next left next =>
      cases scanned
      exact ⟨_, by rw [list_inner, ← next, ← same], .emptyList blanks isBlanks⟩
    · cases scanned
      cases sound
    · cases found : Scan.items fuel (skipBlanks cs) with
      | mk items ending =>
        obtain ⟨stop, left⟩ := ending
        rw [found] at scanned
        cases scanned
        cases stop with
        | cut comma fault => cases sound
        | closed =>
          obtain ⟨text, inner, parts⟩ := items_text fuel _ items rest found
          refine ⟨_, ?_, .list items (blanks ++ text) (parts.behind_blanks _ _ _ isBlanks)⟩
          rw [list_inner, List.append_assoc, ← inner, ← same]
  · next fuel cs =>
    obtain ⟨blanks, isBlanks, same⟩ := skipped cs
    split at scanned
    · next left next =>
      cases scanned
      exact ⟨_, by rw [list_inner, ← next, ← same], .emptyRecord blanks isBlanks⟩
    · cases found : Scan.members fuel (skipBlanks cs) with
      | mk members ending =>
        obtain ⟨stop, left⟩ := ending
        rw [found] at scanned
        cases scanned
        cases stop with
        | cut comma fault => cases sound
        | closed =>
          obtain ⟨text, inner, parts⟩ := members_text fuel _ members rest found
          refine ⟨_, ?_, .record members (blanks ++ text) (parts.behind_blanks _ _ _ isBlanks)⟩
          rw [list_inner, List.append_assoc, ← inner, ← same]
  · exact scalar_text _ d rest scanned sound
theorem items_text (fuel : Nat) (cs : List Char) (items : List Draft) (rest : List Char)
    (scanned : Scan.items fuel cs = (items, .closed, rest)) :
    ∃ text, cs = text ++ ']' :: rest ∧ WrittenItems items text := by
  cases fuel with
  | zero => cases scanned
  | succ fuel =>
    cases found : Scan.value fuel cs with
    | mk d left =>
      simp only [Scan.items, found] at scanned
      split at scanned
      · cases scanned
      · next sound =>
        obtain ⟨text, rfl, written⟩ := value_text fuel cs d left found sound
        split at scanned
        · next stop behind ended =>
          cases scanned
          obtain ⟨after, isBlanks, rfl⟩ := after_part_stop _ _ _ ended
          refine ⟨_, ?_, .last d _ (.mk d [] text after no_blanks written isBlanks)⟩
          simp
        · next next more =>
          cases others : Scan.items fuel next with
          | mk ds ending =>
            obtain ⟨stop, behind⟩ := ending
            rw [others] at scanned
            cases scanned
            obtain ⟨before, after, ahead, isBlanks, rfl⟩ := after_part_more _ _ _ more
            obtain ⟨inner, rfl, parts⟩ := items_text fuel next ds behind others
            refine ⟨_, ?_, .more d ds _ _ (.mk d [] text before no_blanks written ahead)
              (parts.behind_blanks ds after inner isBlanks)⟩
            simp
theorem members_text (fuel : Nat) (cs : List Char) (members : List (Option String × Draft))
    (rest : List Char) (scanned : Scan.members fuel cs = (members, .closed, rest)) :
    ∃ text, cs = text ++ '}' :: rest ∧ WrittenMembers members text := by
  unfold Scan.members at scanned
  split at scanned
  · cases scanned
  · next fuel cs =>
    split at scanned
    · cases scanned
    · next name behindName read =>
      obtain ⟨key, same, quoted⟩ := quoted_text cs name behindName read
      split at scanned
      · cases scanned
      · next ahead colon =>
        obtain ⟨before, after, isBefore, isAfter, rfl⟩ := after_colon_text _ _ colon
        have named : WrittenName name (key ++ before) :=
          .mk name [] key before no_blanks quoted isBefore
        cases found : Scan.value fuel ahead with
        | mk d left =>
          simp only [found] at scanned
          split at scanned
          · cases scanned
          · next sound =>
            obtain ⟨text, rfl, written⟩ := value_text fuel ahead d left found sound
            split at scanned
            · next stop behind ended =>
              cases scanned
              obtain ⟨blanks, isBlanks, rfl⟩ := after_part_stop _ _ _ ended
              refine ⟨_, ?_, .last name d _ _ named (.mk d after text blanks isAfter written
                isBlanks)⟩
              simp [same]
            · next next more =>
              cases others : Scan.members fuel next with
              | mk ms ending =>
                obtain ⟨stop, behind⟩ := ending
                rw [others] at scanned
                cases scanned
                obtain ⟨blanks, next, isBlanks, isNext, rfl⟩ := after_part_more _ _ _ more
                obtain ⟨inner, rfl, parts⟩ := members_text fuel _ ms behind others
                refine ⟨_, ?_, .more name d ms _ _ _ named (.mk d after text blanks isAfter
                  written isBlanks) (parts.behind_blanks ms next inner isNext)⟩
                simp [same]
  · cases scanned
end

/-! ### What can be written -/

theorem Written.part (d : Draft) (text : List Char) (written : Written d text) :
    WrittenPart d text := by
  have part := WrittenPart.mk d [] text [] no_blanks written no_blanks
  rwa [List.append_nil] at part

theorem list_exists (items : List Draft) (parts : ∀ d ∈ items, ∃ text, Written d text) :
    ∃ text, Written (.list items .closed) text := by
  have inner (d : Draft) (ds : List Draft) (parts : ∀ e ∈ d :: ds, ∃ text, Written e text) :
      ∃ text, WrittenItems (d :: ds) text := by
    induction ds generalizing d with
    | nil =>
      obtain ⟨text, written⟩ := parts d List.mem_cons_self
      exact ⟨text, .last d text written.part⟩
    | cons e ds ih =>
      obtain ⟨⟨text, written⟩, others⟩ := List.forall_mem_cons.1 parts
      obtain ⟨rest, more⟩ := ih e others
      exact ⟨_, .more d _ text rest written.part more⟩
  cases items with
  | nil => exact ⟨_, .emptyList [] no_blanks⟩
  | cons d ds =>
    obtain ⟨text, written⟩ := inner d ds parts
    exact ⟨_, .list _ text written⟩

theorem record_exists (members : List (Option String × Draft))
    (parts : ∀ m ∈ members, m.1.isSome ∧ ∃ text, Written m.2 text) :
    ∃ text, Written (.record members .closed) text := by
  have name (s : Option String) (named : s.isSome) : ∃ key, WrittenName s key := by
    obtain ⟨s, rfl⟩ := Option.isSome_iff_exists.1 named
    exact ⟨_, .mk (some s) [] _ [] no_blanks (quoted_quotes s) no_blanks⟩
  have inner (m : Option String × Draft) (ms : List (Option String × Draft))
      (parts : ∀ n ∈ m :: ms, n.1.isSome ∧ ∃ text, Written n.2 text) :
      ∃ text, WrittenMembers (m :: ms) text := by
    induction ms generalizing m with
    | nil =>
      obtain ⟨named, text, written⟩ := parts m List.mem_cons_self
      obtain ⟨key, keyed⟩ := name m.1 named
      exact ⟨_, .last m.1 m.2 key text keyed written.part⟩
    | cons n ms ih =>
      obtain ⟨⟨named, text, written⟩, others⟩ := List.forall_mem_cons.1 parts
      obtain ⟨key, keyed⟩ := name m.1 named
      obtain ⟨rest, more⟩ := ih n others
      exact ⟨_, .more m.1 m.2 _ key text rest keyed written.part more⟩
  cases members with
  | nil => exact ⟨_, .emptyRecord [] no_blanks⟩
  | cons m ms =>
    obtain ⟨text, written⟩ := inner m ms parts
    exact ⟨_, .record _ text written⟩

/-! ### Whole texts -/

theorem document_iff (d : Draft) (text : String) :
    Document d text ↔
      ∃ rest, Draft.scan text.toList = (d, rest) ∧ d.fault? = none ∧ Blanks rest := by
  constructor
  · intro document
    obtain ⟨after, behind, scanned, sound⟩ := document.scan d text.toList
      (2 * text.toList.length + 1) [] (Nat.le_succ _) (fun _ first => nomatch first)
    rw [List.append_nil, List.append_nil] at scanned
    exact ⟨after, scanned, sound, behind⟩
  · rintro ⟨rest, scanned, sound, behind⟩
    obtain ⟨blanks, ahead, same⟩ := skipped text.toList
    obtain ⟨inner, value, written⟩ := value_text _ _ d rest scanned sound
    rw [Document, same, value]
    exact .mk d blanks inner rest ahead written behind

theorem blanks_skipped (cs : List Char) (isBlanks : Blanks cs) : skipBlanks cs = [] := by
  rw [← List.append_nil cs, skip_blanks_append cs [] isBlanks]
  rfl

variable {α : Type}

theorem read_document (read : Draft → Except Flaw α) (d : Draft) (text : String)
    (document : Document d text) : Draft.readText? read text = read d := by
  obtain ⟨rest, scanned, -, behind⟩ := (document_iff d text).1 document
  simp only [Draft.readText?, scanned, blanks_skipped rest behind, List.isEmpty_nil, if_true]
  cases read d <;> rfl

theorem read_text_ok (read : Draft → Except Flaw α) (text : String) (a : α)
    (whole : ∀ d a, read d = .ok a → d.fault? = none) (ok : Draft.readText? read text = .ok a) :
    ∃ d, Document d text ∧ read d = .ok a := by
  cases scanned : Draft.scan text.toList with
  | mk d rest =>
    simp only [Draft.readText?, scanned] at ok
    obtain ⟨value, found, ended⟩ := (bind_ok_iff _ _ _).1 ok
    split at ended
    · next empty =>
      cases ended
      obtain ⟨blanks, isBlanks, same⟩ := skipped rest
      rw [List.isEmpty_iff.1 empty, List.append_nil] at same
      exact ⟨d, (document_iff d text).2 ⟨rest, scanned, whole d a found, same ▸ isBlanks⟩, found⟩
    · cases ended

end BuildDigest.Grammar
