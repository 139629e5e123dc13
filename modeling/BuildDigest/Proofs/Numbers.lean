import BuildDigest.Json.Basic
import BuildDigest.Json.Scan
import BuildDigest.Proofs.Results
import Mathlib.Data.List.Induction

set_option autoImplicit false

namespace BuildDigest

namespace Grammar

open Scan (digit?)

/-! ### Written forms -/

def Decimal (ds : List Nat) : Prop :=
  ∀ d ∈ ds, d < 10

def digitChars (ds : List Nat) : List Char :=
  ds.map Nat.digitChar

def Whole (ds : List Nat) : Prop :=
  Decimal ds ∧ ds ≠ [] ∧ (ds = [0] ∨ ds.head? ≠ some 0)

def fractionChars : List Nat → List Char
  | [] => []
  | d :: ds => '.' :: digitChars (d :: ds)

inductive SignText : Bool → List Char → Prop
  | none : SignText false []
  | plus : SignText false ['+']
  | minus : SignText true ['-']

inductive PowerText : Option (Bool × List Nat) → List Char → Prop
  | none : PowerText none []
  | some (letter : Char) (down : Bool) (sign : List Char) (ds : List Nat)
      (isLetter : letter = 'e' ∨ letter = 'E') (signed : SignText down sign) (decimal : Decimal ds)
      (digits : ds ≠ []) : PowerText (some (down, ds)) (letter :: (sign ++ digitChars ds))

def minusChars (negative : Bool) : List Char :=
  if negative then ['-'] else []

inductive NumberText : Numeral.Parts → List Char → Prop
  | mk (negative : Bool) (whole fraction : List Nat) (exponent : Option (Bool × List Nat))
      (power : List Char) (isWhole : Whole whole) (decimal : Decimal fraction)
      (powered : PowerText exponent power) :
      NumberText ⟨negative, whole, fraction, exponent⟩
        (minusChars negative ++ (digitChars whole ++ (fractionChars fraction ++ power)))

/-! ### Digits -/

theorem digit_of_char : ∀ d < 10, digit? (Nat.digitChar d) = some d := by decide

theorem char_of_digit (c : Char) (d : Nat) (digit : digit? c = some d) :
    d < 10 ∧ c = Nat.digitChar d := by
  unfold digit? at digit
  split at digit
  · next range =>
    obtain ⟨low, high⟩ := Bool.and_eq_true_iff.1 range
    have low : '0'.toNat ≤ c.toNat := UInt32.le_iff_toNat_le.1 (Char.le_def.1 (of_decide_eq_true low))
    have high : c.toNat ≤ '9'.toNat :=
      UInt32.le_iff_toNat_le.1 (Char.le_def.1 (of_decide_eq_true high))
    have table : ∀ k ≤ '9'.toNat, '0'.toNat ≤ k →
        k - '0'.toNat < 10 ∧ Char.ofNat k = Nat.digitChar (k - '0'.toNat) := by decide
    have read := table c.toNat high low
    rw [Char.ofNat_toNat] at read
    exact Option.some.inj digit ▸ read
  · cases digit

def NoDigit (rest : List Char) : Prop :=
  ∀ c ∈ rest.head?, digit? c = none

theorem digits_iff (cs : List Char) (ds : List Nat) (rest : List Char) :
    Scan.digits cs = (ds, rest) ↔ cs = digitChars ds ++ rest ∧ Decimal ds ∧ NoDigit rest := by
  induction cs generalizing ds with
  | nil =>
    constructor
    · intro scanned
      cases scanned
      exact ⟨rfl, nofun, nofun⟩
    · rintro ⟨same, -, -⟩
      obtain ⟨none, rfl⟩ := List.append_eq_nil_iff.1 same.symm
      rw [List.map_eq_nil_iff.1 none]
      rfl
  | cons c cs ih =>
    rw [Scan.digits]
    cases digit : digit? c with
    | none =>
      simp only [Prod.mk.injEq]
      constructor
      · rintro ⟨rfl, rfl⟩
        exact ⟨rfl, nofun, fun _ first => Option.some.inj first ▸ digit⟩
      · rintro ⟨same, decimal, -⟩
        cases ds with
        | nil => exact ⟨rfl, same⟩
        | cons d ds =>
          obtain ⟨rfl, -⟩ := List.cons.inj same
          rw [digit_of_char d (decimal d List.mem_cons_self)] at digit
          cases digit
    | some d =>
      obtain ⟨small, rfl⟩ := char_of_digit c d digit
      simp only [Prod.mk.injEq]
      constructor
      · rintro ⟨rfl, rfl⟩
        obtain ⟨same, decimal, ends⟩ := (ih (Scan.digits cs).1).1 rfl
        refine ⟨congrArg (_ :: ·) same, ?_, ends⟩
        exact List.forall_mem_cons.2 ⟨small, decimal⟩
      · rintro ⟨same, decimal, ends⟩
        cases ds with
        | nil =>
          have same : rest = Nat.digitChar d :: cs := same.symm
          have stops := ends (Nat.digitChar d) (by rw [same]; rfl)
          rw [digit] at stops
          cases stops
        | cons e ds =>
          obtain ⟨first, others⟩ := List.cons.inj same
          obtain ⟨smallFirst, smallOthers⟩ := List.forall_mem_cons.1 decimal
          rw [first, digit_of_char e smallFirst] at digit
          cases digit
          rw [(ih ds).2 ⟨others, smallOthers, ends⟩]
          exact ⟨rfl, rfl⟩

theorem digits_written (ds : List Nat) (rest : List Char) (decimal : Decimal ds)
    (ends : NoDigit rest) : Scan.digits (digitChars ds ++ rest) = (ds, rest) :=
  (digits_iff _ ds rest).2 ⟨rfl, decimal, ends⟩

/-! ### Numbers -/

def EndsNumber (rest : List Char) : Prop :=
  ∀ c ∈ rest.head?, digit? c = none ∧ c ≠ '.' ∧ c ≠ 'e' ∧ c ≠ 'E'

theorem EndsNumber.digits (rest : List Char) (ends : EndsNumber rest) : NoDigit rest :=
  fun c first => (ends c first).1

theorem fraction_written (ds : List Nat) (rest : List Char) (decimal : Decimal ds)
    (ends : NoDigit rest) (noPoint : rest.head? ≠ some '.') :
    Scan.fraction (fractionChars ds ++ rest) = .ok (ds, rest) := by
  cases ds with
  | nil =>
    cases rest with
    | nil => rfl
    | cons c rest =>
      unfold Scan.fraction fractionChars
      split
      · next _ _ same =>
        obtain ⟨rfl, -⟩ := List.cons.inj same
        exact absurd rfl noPoint
      · rfl
  | cons d ds =>
    rw [fractionChars, List.cons_append, Scan.fraction, digits_written (d :: ds) rest decimal ends]

theorem fraction_ok (cs : List Char) (ds : List Nat) (rest : List Char)
    (scanned : Scan.fraction cs = .ok (ds, rest)) :
    cs = fractionChars ds ++ rest ∧ Decimal ds := by
  unfold Scan.fraction at scanned
  split at scanned
  · next cs =>
    split at scanned
    · cases scanned
    · next found some =>
      obtain ⟨same, decimal, -⟩ := (digits_iff cs ds rest).1 (Except.ok.inj scanned)
      cases ds with
      | nil => exact absurd (Except.ok.inj scanned) (some rest)
      | cons d ds => exact ⟨congrArg (_ :: ·) same, decimal⟩
  · cases scanned
    exact ⟨rfl, nofun⟩

theorem exponent_sign_absent (c : Char) (cs : List Char) (digit : (digit? c).isSome) :
    Scan.exponentSign (c :: cs) = (false, c :: cs) := by
  unfold Scan.exponentSign
  split
  · next same =>
    cases same
    cases digit
  · next same =>
    cases same
    cases digit
  · rfl

theorem exponent_sign_written (down : Bool) (sign : List Char) (ds : List Nat) (rest : List Char)
    (signed : SignText down sign) (decimal : Decimal ds) (digits : ds ≠ []) :
    Scan.exponentSign (sign ++ (digitChars ds ++ rest)) = (down, digitChars ds ++ rest) := by
  cases signed with
  | none =>
    cases ds with
    | nil => exact absurd rfl digits
    | cons d ds =>
      have digit := digit_of_char d (decimal d List.mem_cons_self)
      exact exponent_sign_absent _ _ (digit ▸ rfl)
  | plus => rfl
  | minus => rfl

theorem exponent_sign_text (cs : List Char) :
    ∃ sign, cs = sign ++ (Scan.exponentSign cs).2 ∧ SignText (Scan.exponentSign cs).1 sign := by
  unfold Scan.exponentSign
  split
  · exact ⟨['+'], rfl, .plus⟩
  · exact ⟨['-'], rfl, .minus⟩
  · exact ⟨[], rfl, .none⟩

theorem exponent_written (power : Option (Bool × List Nat)) (text rest : List Char)
    (written : PowerText power text) (ends : EndsNumber rest) :
    Scan.exponent (text ++ rest) = .ok (power, rest) := by
  cases written with
  | none =>
    cases rest with
    | nil => rfl
    | cons c rest =>
      obtain ⟨-, -, noE, noUpperE⟩ := ends c rfl
      rw [List.nil_append, Scan.exponent, if_neg (by simp [noE, noUpperE])]
  | some letter down sign ds isLetter signed decimal digits =>
    rw [List.cons_append, List.append_assoc, Scan.exponent, if_pos (by simpa using isLetter),
      exponent_sign_written down sign ds rest signed decimal digits]
    simp only [digits_written ds rest decimal ends.digits]

theorem exponent_ok (cs : List Char) (power : Option (Bool × List Nat)) (rest : List Char)
    (scanned : Scan.exponent cs = .ok (power, rest)) :
    ∃ text, cs = text ++ rest ∧ PowerText power text := by
  unfold Scan.exponent at scanned
  split at scanned
  · next c cs =>
    split at scanned
    · next isLetter =>
      obtain ⟨sign, same, signed⟩ := exponent_sign_text cs
      generalize Scan.exponentSign cs = found at scanned same signed
      obtain ⟨down, tail⟩ := found
      simp only at scanned same signed
      split at scanned
      · cases scanned
      · next ds rest some found =>
        cases scanned
        obtain ⟨digits, decimal, -⟩ := (digits_iff tail ds rest).1 found
        refine ⟨c :: (sign ++ digitChars ds), ?_, ?_⟩
        · rw [same, digits, List.cons_append, List.append_assoc]
        · refine .some c down sign ds (by simpa using isLetter) signed decimal ?_
          rintro rfl
          exact some rfl
    · cases scanned
      exact ⟨[], rfl, .none⟩
  · cases scanned
    exact ⟨[], rfl, .none⟩

theorem head_append (text rest : List Char) (p : Char → Prop) (first : ∀ c ∈ text.head?, p c)
    (others : ∀ c ∈ rest.head?, p c) : ∀ c ∈ (text ++ rest).head?, p c := by
  cases text with
  | nil => exact others
  | cons c text => exact first

theorem power_head (power : Option (Bool × List Nat)) (text : List Char)
    (written : PowerText power text) : ∀ c ∈ text.head?, c = 'e' ∨ c = 'E' := by
  cases written with
  | none => exact nofun
  | some letter down sign ds isLetter => exact fun c first => Option.some.inj first ▸ isLetter

theorem fraction_head (ds : List Nat) : ∀ c ∈ (fractionChars ds).head?, c = '.' := by
  cases ds with
  | nil => exact nofun
  | cons d ds => exact fun c first => (Option.some.inj first).symm

theorem unsigned_written (negative : Bool) (whole fraction : List Nat)
    (exponent : Option (Bool × List Nat)) (power rest : List Char) (isWhole : Whole whole)
    (decimal : Decimal fraction) (powered : PowerText exponent power) (ends : EndsNumber rest) :
    Scan.unsigned negative (digitChars whole ++ (fractionChars fraction ++ (power ++ rest))) =
      .ok (.ofParts ⟨negative, whole, fraction, exponent⟩, rest) := by
  obtain ⟨wholeDecimal, some, noZero⟩ := isWhole
  have noDigit : NoDigit (power ++ rest) := by
    refine head_append power rest _ (fun c first => ?_) ends.digits
    rcases power_head exponent power powered c first with rfl | rfl <;> rfl
  have noPoint : (power ++ rest).head? ≠ Option.some '.' := by
    have apart : ∀ c ∈ (power ++ rest).head?, c ≠ '.' := by
      refine head_append power rest _ (fun c first => ?_) fun c first => (ends c first).2.1
      rcases power_head exponent power powered c first with rfl | rfl <;> decide
    exact fun point => apart '.' point rfl
  have wholeEnds : NoDigit (fractionChars fraction ++ (power ++ rest)) := by
    refine head_append _ _ _ (fun c first => ?_) noDigit
    rw [fraction_head fraction c first]
    rfl
  unfold Scan.unsigned
  rw [digits_written whole _ wholeDecimal wholeEnds]
  split
  · next same =>
    cases same
    exact absurd rfl some
  · next same =>
    cases same
    simp at noZero
  · next same =>
    cases same
    rw [fraction_written fraction _ decimal noDigit noPoint, ok_bind]
    simp only [exponent_written exponent power rest powered ends, ok_bind]

theorem unsigned_ok (negative : Bool) (cs : List Char) (n : Numeral) (rest : List Char)
    (scanned : Scan.unsigned negative cs = .ok (n, rest)) :
    ∃ parts text, minusChars negative ++ cs = text ++ rest ∧ NumberText parts text ∧
      n = .ofParts parts := by
  unfold Scan.unsigned at scanned
  split at scanned
  · cases scanned
  · cases scanned
  · next whole tail some noZero found =>
    obtain ⟨rfl, wholeDecimal, -⟩ := (digits_iff cs whole tail).1 found
    obtain ⟨⟨fraction, behind⟩, fractioned, scannedPower⟩ := (bind_ok_iff _ _ _).1 scanned
    obtain ⟨⟨exponent, left⟩, powered, result⟩ := (bind_ok_iff _ _ _).1 scannedPower
    cases result
    obtain ⟨rfl, decimal⟩ := fraction_ok _ fraction _ fractioned
    obtain ⟨power, rfl, powerText⟩ := exponent_ok _ exponent _ powered
    have isWhole : Whole whole := by
      refine ⟨wholeDecimal, some, ?_⟩
      cases whole with
      | nil => exact absurd rfl some
      | cons d ds =>
        cases ds with
        | nil => by_cases zero : d = 0 <;> simp [zero]
        | cons e ds => exact .inr fun zero => noZero e ds (Option.some.inj zero ▸ rfl)
    exact ⟨_, _, by simp only [List.append_assoc], .mk negative whole fraction exponent power isWhole
      decimal powerText, rfl⟩

theorem digit_chars_head (ds : List Nat) (decimal : Decimal ds) :
    ∀ c ∈ (digitChars ds).head?, (digit? c).isSome := by
  cases ds with
  | nil => exact nofun
  | cons d ds =>
    intro c first
    rw [← Option.some.inj first, digit_of_char d (decimal d List.mem_cons_self)]
    rfl

theorem number_unsigned (cs : List Char) (noMinus : cs.head? ≠ some '-') :
    Scan.number cs = Scan.number.finish (Scan.unsigned false cs) := by
  unfold Scan.number
  split
  · exact absurd rfl noMinus
  · rfl

theorem number_written (parts : Numeral.Parts) (text rest : List Char)
    (written : NumberText parts text) (ends : EndsNumber rest) :
    Scan.number (text ++ rest) = (.number (.ofParts parts), rest) := by
  cases written with
  | mk negative whole fraction exponent power isWhole decimal powered =>
    have scanned := unsigned_written negative whole fraction exponent power rest isWhole decimal
      powered ends
    have shape : minusChars negative ++ (digitChars whole ++ (fractionChars fraction ++ power)) ++
        rest = minusChars negative ++ (digitChars whole ++ (fractionChars fraction ++
          (power ++ rest))) := by
      simp only [List.append_assoc]
    rw [shape]
    cases negative with
    | true => exact congrArg Scan.number.finish scanned
    | false =>
      refine (number_unsigned _ fun minus => ?_).trans (congrArg Scan.number.finish scanned)
      have digit := digit_chars_head whole isWhole.1 '-'
      cases whole with
      | nil => exact absurd rfl isWhole.2.1
      | cons d ds => cases digit minus

theorem number_text (cs : List Char) (d : Draft) (rest : List Char)
    (scanned : Scan.number cs = (d, rest)) (sound : d.fault? = none) :
    ∃ parts text, cs = text ++ rest ∧ NumberText parts text ∧ d = .number (.ofParts parts) := by
  have finished (found : Except Fault (Numeral × List Char))
      (result : Scan.number.finish found = (d, rest)) :
      ∃ n, found = .ok (n, rest) ∧ d = .number n := by
    cases found with
    | error fault =>
      cases result
      cases sound
    | ok found =>
      cases result
      exact ⟨_, rfl, rfl⟩
  unfold Scan.number at scanned
  split at scanned
  · next cs =>
    obtain ⟨n, found, rfl⟩ := finished _ scanned
    obtain ⟨parts, text, same, written, rfl⟩ := unsigned_ok true cs n rest found
    exact ⟨parts, text, same, written, rfl⟩
  · obtain ⟨n, found, rfl⟩ := finished _ scanned
    obtain ⟨parts, text, same, written, rfl⟩ := unsigned_ok false cs n rest found
    exact ⟨parts, text, same, written, rfl⟩

theorem number_head (parts : Numeral.Parts) (text : List Char) (written : NumberText parts text) :
    ∃ c rest, text = c :: rest ∧ (c = '-' ∨ (digit? c).isSome) := by
  cases written with
  | mk negative whole fraction exponent power isWhole =>
    cases negative with
    | true => exact ⟨'-', _, rfl, .inl rfl⟩
    | false =>
      have digit := digit_chars_head whole isWhole.1
      cases whole with
      | nil => exact absurd rfl isWhole.2.1
      | cons d ds => exact ⟨_, _, rfl, .inr (digit _ rfl)⟩

/-! ### Integers -/

theorem value_concat (ds : List Nat) (d : Nat) :
    Numeral.valueOf (ds ++ [d]) = 10 * Numeral.valueOf ds + d := by
  simp [Numeral.valueOf]

theorem whole_concat (ds : List Nat) (d : Nat) (some : ds ≠ []) :
    Whole (ds ++ [d]) ↔ Whole ds ∧ d < 10 ∧ ds ≠ [0] := by
  cases ds with
  | nil => exact absurd rfl some
  | cons e ds =>
    simp only [Whole, Decimal, List.forall_mem_append, List.forall_mem_singleton]
    constructor
    · rintro ⟨⟨decimal, small⟩, -, zero | noZero⟩
      · simp at zero
      · refine ⟨⟨decimal, some, .inr noZero⟩, small, ?_⟩
        rintro single
        rw [single] at noZero
        exact noZero rfl
    · rintro ⟨⟨decimal, -, noZero⟩, small, notZero⟩
      exact ⟨⟨decimal, small⟩, by simp, .inr (noZero.resolve_left notZero)⟩

theorem value_pos (ds : List Nat) (isWhole : Whole ds) (notZero : ds ≠ [0]) :
    0 < Numeral.valueOf ds := by
  induction ds using List.reverseRecOn with
  | nil => exact absurd rfl isWhole.2.1
  | append_singleton ds d ih =>
    rw [value_concat]
    by_cases some : ds = []
    · subst some
      have noZero := isWhole.2.2.resolve_left notZero
      have : d ≠ 0 := fun zero => noZero (zero ▸ rfl)
      omega
    · obtain ⟨shorter, -, other⟩ := (whole_concat ds d some).1 isWhole
      have := ih shorter other
      omega

theorem digits_of_value (ds : List Nat) (isWhole : Whole ds) :
    Nat.toDigits 10 (Numeral.valueOf ds) = digitChars ds := by
  induction ds using List.reverseRecOn with
  | nil => exact absurd rfl isWhole.2.1
  | append_singleton ds d ih =>
    by_cases some : ds = []
    · subst some
      have small : d < 10 := isWhole.1 d (by simp)
      have value : Numeral.valueOf ([] ++ [d]) = d := by simp [Numeral.valueOf]
      rw [value, Nat.toDigits_of_lt_base small]
      rfl
    · obtain ⟨shorter, small, other⟩ := (whole_concat ds d some).1 isWhole
      have chars : digitChars (ds ++ [d]) = digitChars ds ++ [Nat.digitChar d] := List.map_append
      rw [value_concat, ← Nat.toDigits_append_toDigits (by decide) (value_pos ds shorter other) small,
        ih shorter, Nat.toDigits_of_lt_base small, chars]

theorem whole_of_value (n : Nat) : ∃ ds, Whole ds ∧ Numeral.valueOf ds = n := by
  induction n using Nat.strongRecOn with
  | ind n ih =>
    by_cases small : n < 10
    · refine ⟨[n], ⟨by simpa [Decimal] using small, by simp, ?_⟩, by simp [Numeral.valueOf]⟩
      by_cases zero : n = 0 <;> simp [zero]
    · obtain ⟨ds, isWhole, value⟩ := ih (n / 10) (by omega)
      have notZero : ds ≠ [0] := by
        rintro rfl
        have : n / 10 = 0 := value.symm
        omega
      refine ⟨ds ++ [n % 10], (whole_concat ds _ isWhole.2.1).2 ⟨isWhole, by omega, notZero⟩, ?_⟩
      rw [value_concat, value]
      omega

theorem magnitude_no_integer (p : Numeral.Parts) (n : Int) : Numeral.magnitude p ≠ .integer n := by
  have two (c : Prop) [Decidable c] : (if c then Numeral.huge else .real) ≠ .integer n := by
    split <;> exact Numeral.noConfusion
  unfold Numeral.magnitude
  cases p.exponent with
  | none => exact two _
  | some power =>
    obtain ⟨down, digits⟩ := power
    simp only
    split
    · exact two _
    · exact two _

theorem of_parts_integer (negative : Bool) (whole fraction : List Nat)
    (exponent : Option (Bool × List Nat)) (n : Int) :
    Numeral.ofParts ⟨negative, whole, fraction, exponent⟩ = .integer n ↔
      (fraction = [] ∧ exponent = none) ∧
        match negative with
        | true => (0 < Numeral.valueOf whole ∧ Numeral.valueOf whole ≤ 0x8000000000000000) ∧
            n = -(Numeral.valueOf whole : Int)
        | false => Numeral.valueOf whole < 0x10000000000000000 ∧ n = Numeral.valueOf whole := by
  have other (p : Numeral.Parts) (q : Prop) (never : ¬q) : Numeral.magnitude p = .integer n ↔ q :=
    ⟨fun same => absurd same (magnitude_no_integer p n), fun holds => absurd holds never⟩
  unfold Numeral.ofParts
  simp only [List.isEmpty_iff, Option.isNone_iff_eq_none, Bool.and_eq_true, decide_eq_true_eq]
  by_cases plain : fraction = [] ∧ exponent = none
  · rw [if_pos plain]
    cases negative with
    | true =>
      by_cases fits : 0 < Numeral.valueOf whole ∧ Numeral.valueOf whole ≤ 0x8000000000000000
      · rw [if_pos rfl, if_pos fits, Numeral.integer.injEq]
        exact ⟨fun same => ⟨plain, fits, same.symm⟩, fun holds => holds.2.2.symm⟩
      · rw [if_pos rfl, if_neg fits]
        exact other _ _ fun holds => fits holds.2.1
    | false =>
      by_cases fits : Numeral.valueOf whole < 0x10000000000000000
      · rw [if_neg Bool.false_ne_true, if_pos fits, Numeral.integer.injEq]
        exact ⟨fun same => ⟨plain, fits, same.symm⟩, fun holds => holds.2.2.symm⟩
      · rw [if_neg Bool.false_ne_true, if_neg fits]
        exact other _ _ fun holds => fits holds.2.1
  · rw [if_neg plain]
    exact other _ _ fun holds => plain holds.1

theorem decimal_nat (n : Nat) : Json.decimal n = Nat.toDigits 10 n := rfl

theorem decimal_neg (n : Nat) (positive : 0 < n) :
    Json.decimal (-(n : Int)) = '-' :: Nat.toDigits 10 n := by
  obtain ⟨k, rfl⟩ := Nat.exists_eq_succ_of_ne_zero (Nat.pos_iff_ne_zero.1 positive)
  rfl

theorem integer_text_iff (n : Int) (text : List Char) :
    (∃ parts, NumberText parts text ∧ Numeral.ofParts parts = .integer n) ↔
      (-0x8000000000000000 ≤ n ∧ n < 0x10000000000000000) ∧ text = Json.decimal n := by
  constructor
  · rintro ⟨parts, written, integer⟩
    cases written with
    | mk negative whole fraction exponent power isWhole decimal powered =>
      obtain ⟨⟨rfl, rfl⟩, value⟩ := (of_parts_integer _ _ _ _ n).1 integer
      cases powered
      cases negative with
      | true =>
        obtain ⟨⟨positive, bound⟩, rfl⟩ := value
        rw [decimal_neg _ positive, digits_of_value whole isWhole]
        exact ⟨by omega, by simp [minusChars, fractionChars]⟩
      | false =>
        obtain ⟨bound, rfl⟩ := value
        rw [decimal_nat, digits_of_value whole isWhole]
        exact ⟨by omega, by simp [minusChars, fractionChars]⟩
  · rintro ⟨⟨low, high⟩, rfl⟩
    obtain ⟨whole, isWhole, value⟩ := whole_of_value n.natAbs
    have written (negative : Bool) : NumberText ⟨negative, whole, [], none⟩
        (minusChars negative ++ digitChars whole) := by
      simpa [fractionChars] using NumberText.mk negative whole [] none [] isWhole nofun .none
    rw [← digits_of_value whole isWhole, value] at written
    by_cases negative : n < 0
    · have form : Json.decimal n = minusChars true ++ Nat.toDigits 10 n.natAbs := by
        refine Eq.trans ?_ (decimal_neg n.natAbs (by omega))
        exact congrArg Json.decimal (by omega)
      refine ⟨_, form.symm ▸ written true, (of_parts_integer _ _ _ _ n).2 ⟨⟨rfl, rfl⟩, ?_⟩⟩
      rw [value]
      exact ⟨by omega, by omega⟩
    · have form : Json.decimal n = minusChars false ++ Nat.toDigits 10 n.natAbs := by
        refine Eq.trans ?_ (decimal_nat n.natAbs)
        exact congrArg Json.decimal (by omega)
      refine ⟨_, form.symm ▸ written false, (of_parts_integer _ _ _ _ n).2 ⟨⟨rfl, rfl⟩, ?_⟩⟩
      rw [value]
      exact ⟨by omega, by omega⟩

end Grammar

end BuildDigest
