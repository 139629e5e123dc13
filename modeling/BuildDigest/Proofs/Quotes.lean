import BuildDigest.Proofs.Numbers

set_option autoImplicit false

namespace BuildDigest.Grammar

open Scan (Piece unit? escaped? isLead isTrail)

inductive PieceText : Piece → List Char → Prop
  | plain (c : Char) (noQuote : c ≠ '"') (noEscape : c ≠ '\\') (printable : 0x20 ≤ c.toNat) :
      PieceText (.char c) [c]
  | escape (c e : Char) (named : escaped? e = some c) : PieceText (.char c) ['\\', e]
  | unit (a b c d : Char) (n : Nat) (hex : unit? a b c d = some n) :
      PieceText (.unit n) ['\\', 'u', a, b, c, d]

inductive PiecesText : List Piece → List Char → Prop
  | nil : PiecesText [] []
  | cons (p : Piece) (ps : List Piece) (text rest : List Char) (first : PieceText p text)
      (others : PiecesText ps rest) : PiecesText (p :: ps) (text ++ rest)

-- The characters that pieces stand for. A character beyond 16 bits is a lead and a trail unit.
inductive Spells : List Piece → List Char → Prop
  | nil : Spells [] []
  | char (c : Char) (ps : List Piece) (s : List Char) (rest : Spells ps s) :
      Spells (.char c :: ps) (c :: s)
  | unit (n : Nat) (ps : List Piece) (s : List Char) (noLead : ¬isLead n) (noTrail : ¬isTrail n)
      (rest : Spells ps s) : Spells (.unit n :: ps) (Char.ofNat n :: s)
  | pair (lead trail : Nat) (ps : List Piece) (s : List Char) (isLead : isLead lead)
      (isTrail : isTrail trail) (rest : Spells ps s) :
      Spells (.unit lead :: .unit trail :: ps)
        (Char.ofNat (0x10000 + (lead - 0xd800) * 0x400 + (trail - 0xdc00)) :: s)

def Meaning (ps : List Piece) : Option String → Prop
  | some s => Spells ps s.toList
  | none => ∀ s, ¬Spells ps s

inductive Quoted : Option String → List Char → Prop
  | mk (s : Option String) (ps : List Piece) (inner : List Char) (written : PiecesText ps inner)
      (meaning : Meaning ps s) : Quoted s ('"' :: (inner ++ ['"']))

theorem pieces_plain (c : Char) (cs : List Char) (noQuote : c ≠ '"') (noEscape : c ≠ '\\')
    (printable : 0x20 ≤ c.toNat) :
    Scan.pieces (c :: cs) = (.char c :: (Scan.pieces cs).1, (Scan.pieces cs).2) := by
  simp [Scan.pieces, noQuote, noEscape, Nat.not_lt.2 printable]

theorem pieces_escape (e c : Char) (cs : List Char) (named : escaped? e = some c) :
    Scan.pieces ('\\' :: e :: cs) = (.char c :: (Scan.pieces cs).1, (Scan.pieces cs).2) := by
  have noUnit : e ≠ 'u' := by
    rintro rfl
    cases named
  simp [Scan.pieces, noUnit, named]

theorem pieces_unit (a b c d : Char) (n : Nat) (cs : List Char) (hex : unit? a b c d = some n) :
    Scan.pieces ('\\' :: 'u' :: a :: b :: c :: d :: cs) =
      (.unit n :: (Scan.pieces cs).1, (Scan.pieces cs).2) := by
  simp [Scan.pieces, hex]

theorem pieces_written (ps : List Piece) (inner rest : List Char) (written : PiecesText ps inner) :
    Scan.pieces (inner ++ '"' :: rest) = (ps, .closed rest) := by
  induction written with
  | nil => simp [Scan.pieces]
  | cons p ps text inner first others ih =>
    cases first with
    | plain c noQuote noEscape printable =>
      rw [List.append_assoc, List.singleton_append, pieces_plain c _ noQuote noEscape printable, ih]
    | escape c e named =>
      simp only [List.cons_append, List.nil_append, pieces_escape e c _ named, ih]
    | unit a b c d n hex =>
      simp only [List.cons_append, List.nil_append, pieces_unit a b c d n _ hex, ih]

theorem pieces_text (cs : List Char) (ps : List Piece) (rest : List Char)
    (scanned : Scan.pieces cs = (ps, .closed rest)) :
    ∃ inner, cs = inner ++ '"' :: rest ∧ PiecesText ps inner := by
  fun_induction Scan.pieces cs generalizing ps with
  | case3 a b c d cs n hex ps ending found ih =>
    cases scanned
    obtain ⟨inner, rfl, written⟩ := ih ps found
    exact ⟨_, rfl, .cons _ _ _ inner (.unit a b c d n hex) written⟩
  | case6 e cs _ _ c named ps ending found ih =>
    cases scanned
    obtain ⟨inner, rfl, written⟩ := ih ps found
    exact ⟨_, rfl, .cons _ _ _ inner (.escape c e named) written⟩
  | case8 cs =>
    cases scanned
    exact ⟨[], rfl, .nil⟩
  | case10 c cs alone _ _ escape noQuote printable ps ending found ih =>
    cases scanned
    obtain ⟨inner, rfl, written⟩ := ih ps found
    refine ⟨_, rfl, .cons _ _ _ inner (.plain c noQuote ?_ (Nat.not_lt.1 printable)) written⟩
    rintro rfl
    cases inner with
    | nil => exact escape _ _ rfl rfl
    | cons c inner => exact escape _ _ rfl rfl
  | _ => cases scanned

theorem spells_after (joined : Except Flaw (Option (List Char))) (c : Char) (s : List Char)
    (whole : (do return (← joined).map (c :: ·)) = Except.ok (some s)) :
    ∃ rest, joined = .ok (some rest) ∧ s = c :: rest := by
  obtain ⟨found, rfl, mapped⟩ := (bind_ok_iff _ _ _).1 whole
  obtain ⟨rest, rfl, same⟩ := Option.map_eq_some_iff.1 (Except.ok.inj mapped)
  exact ⟨rest, rfl, same.symm⟩

theorem join_spells (ps : List Piece) (s : List Char) (joined : Scan.join ps = .ok (some s)) :
    Spells ps s := by
  fun_induction Scan.join ps generalizing s with
  | case1 =>
    cases joined
    exact .nil
  | case2 c ps ih =>
    obtain ⟨rest, found, rfl⟩ := spells_after _ c s joined
    exact .char c ps rest (ih rest found)
  | case6 lead noTrail isLead trail ps isTrail ih =>
    obtain ⟨rest, found, rfl⟩ := spells_after _ _ s joined
    exact .pair lead trail ps rest isLead isTrail (ih rest found)
  | case8 n ps noTrail noLead ih =>
    obtain ⟨rest, found, rfl⟩ := spells_after _ _ s joined
    exact .unit n ps rest noLead noTrail (ih rest found)
  | _ => cases joined

theorem spells_join (ps : List Piece) (s : List Char) (spelled : Spells ps s) :
    Scan.join ps = .ok (some s) := by
  induction spelled with
  | nil => rfl
  | char c ps s rest ih =>
    rw [Scan.join, ih]
    rfl
  | unit n ps s noLead noTrail rest ih =>
    rw [Scan.join.eq_def]
    simp only [if_neg noTrail, if_neg noLead, ih]
    rfl
  | pair lead trail ps s isLead isTrail rest ih =>
    have noTrail : ¬Scan.isTrail lead := by
      simp only [Scan.isLead, Scan.isTrail, Bool.and_eq_true, decide_eq_true_eq] at isLead ⊢
      omega
    rw [Scan.join, if_neg noTrail, if_pos isLead, if_pos isTrail, ih]
    rfl

def said (ps : List Piece) : Option String :=
  match Scan.join ps with
  | .ok (some s) => some (String.ofList s)
  | _ => none

theorem meaning_iff (ps : List Piece) (s : Option String) : Meaning ps s ↔ s = said ps := by
  unfold said
  split
  · next cs joined =>
    have spelled := join_spells ps cs joined
    cases s with
    | none => exact ⟨fun silent => absurd spelled (silent cs), nofun⟩
    | some text =>
      constructor
      · intro means
        cases (spells_join ps _ means).symm.trans joined
        rw [String.ofList_toList]
      · intro same
        cases same
        rw [Meaning, String.toList_ofList]
        exact spelled
  · next other =>
    cases s with
    | none => exact ⟨fun _ => rfl, fun _ cs spelled => other cs (spells_join ps cs spelled)⟩
    | some text => exact ⟨fun means => absurd (spells_join ps _ means) (other _), nofun⟩

theorem quoted_closed (cs : List Char) (ps : List Piece) (rest : List Char)
    (found : Scan.pieces cs = (ps, .closed rest)) : Scan.quoted cs = .ok (said ps, rest) := by
  unfold Scan.quoted said
  simp only [found]
  cases Scan.join ps with
  | error flaw => rfl
  | ok s => cases s <;> rfl

theorem quoted_written (s : Option String) (text rest : List Char) (written : Quoted s text) :
    ∃ inner, text = '"' :: inner ∧ Scan.quoted (inner ++ rest) = .ok (s, rest) := by
  cases written with
  | mk ps inner written meaning =>
    refine ⟨inner ++ ['"'], rfl, ?_⟩
    rw [List.append_assoc, List.singleton_append,
      quoted_closed _ ps rest (pieces_written ps inner rest written), (meaning_iff ps s).1 meaning]

theorem quoted_text (cs : List Char) (s : Option String) (rest : List Char)
    (scanned : Scan.quoted cs = .ok (s, rest)) :
    ∃ text, '"' :: cs = text ++ rest ∧ Quoted s text := by
  cases found : Scan.pieces cs with
  | mk ps ending =>
    cases ending with
    | closed left =>
      obtain ⟨inner, rfl, written⟩ := pieces_text cs ps left found
      rw [quoted_closed _ ps left found] at scanned
      cases scanned
      exact ⟨'"' :: (inner ++ ['"']), by simp, .mk _ ps inner written ((meaning_iff ps _).2 rfl)⟩
    | cut flaw =>
      unfold Scan.quoted at scanned
      rw [found] at scanned
      simp only at scanned
      split at scanned <;> cases scanned

-- A character is printed behind a backslash, as a unit, or as it is.
theorem escape_cases (c : Char) :
    (∃ e, Scan.escaped? e = some c ∧ 0x20 ≤ e.toNat ∧ Json.escape c = ['\\', e]) ∨
    (c.toNat < 0x20 ∧ Json.escape c =
      ['\\', 'u', '0', '0', Nat.digitChar (c.toNat / 16), Nat.digitChar (c.toNat % 16)]) ∨
    (c ≠ '"' ∧ c ≠ '\\' ∧ 0x20 ≤ c.toNat ∧ Json.escape c = [c]) := by
  unfold Json.escape
  iterate 7
    split
    · next same =>
      subst same
      exact .inl ⟨_, rfl, by decide, rfl⟩
  · next quote backslash _ _ _ _ _ =>
    split
    · next control => exact .inr (.inl ⟨control, rfl⟩)
    · next printable => exact .inr (.inr ⟨quote, backslash, Nat.le_of_not_lt printable, rfl⟩)

theorem piece_of_escape (c : Char) :
    ∃ p, PieceText p (Json.escape c) ∧
      (p = .char c ∨ ∃ n, p = .unit n ∧ ¬isLead n ∧ ¬isTrail n ∧ Char.ofNat n = c) := by
  have units : ∀ n < 32, unit? '0' '0' (Nat.digitChar (n / 16)) (Nat.digitChar (n % 16)) = some n ∧
      ¬isLead n ∧ ¬isTrail n := by decide
  rcases escape_cases c with ⟨e, named, -, escape⟩ | ⟨control, escape⟩ |
    ⟨quote, backslash, printable, escape⟩
  · rw [escape]
    exact ⟨_, .escape c e named, .inl rfl⟩
  · obtain ⟨hex, noLead, noTrail⟩ := units c.toNat control
    rw [escape]
    exact ⟨_, .unit _ _ _ _ c.toNat hex, .inr ⟨_, rfl, noLead, noTrail, Char.ofNat_toNat c⟩⟩
  · rw [escape]
    exact ⟨_, .plain c quote backslash printable, .inl rfl⟩

theorem pieces_of_escapes (cs : List Char) :
    ∃ ps, PiecesText ps (cs.flatMap Json.escape) ∧ Spells ps cs := by
  induction cs with
  | nil => exact ⟨[], .nil, .nil⟩
  | cons c cs ih =>
    obtain ⟨ps, written, spelled⟩ := ih
    obtain ⟨p, piece, meant⟩ := piece_of_escape c
    refine ⟨p :: ps, .cons p ps _ _ piece written, ?_⟩
    rcases meant with rfl | ⟨n, rfl, noLead, noTrail, rfl⟩
    · exact .char c ps cs spelled
    · exact .unit n ps cs noLead noTrail spelled

theorem quoted_quotes (s : String) : Quoted (some s) (Json.quoted s) := by
  obtain ⟨ps, written, spelled⟩ := pieces_of_escapes s.toList
  exact .mk (some s) ps _ written spelled

end BuildDigest.Grammar
