import BuildDigest.Proofs.Results
import BuildDigest.Text.Decimal

set_option autoImplicit false

namespace BuildDigest.Text

structure Digits (cs : List Char) (n : Nat) : Prop where
  some : cs ≠ []
  digits : ∀ c ∈ cs, c.isDigit
  value : Nat.ofDigitChars 10 cs 0 = n

-- An integer as it is written, with or without a sign.
inductive Numeral (text : String) : Int → Prop where
  | unsigned (n : Nat) (digits : Digits text.toList n) : Numeral text n
  | plus (cs : List Char) (n : Nat) (sign : text.toList = '+' :: cs) (digits : Digits cs n) :
      Numeral text n
  | minus (cs : List Char) (n : Nat) (sign : text.toList = '-' :: cs) (digits : Digits cs n) :
      Numeral text (-n)

theorem is_digit_iff (c : Char) : ('0' ≤ c && c ≤ '9') = c.isDigit := by
  rw [Bool.eq_iff_iff, Char.isDigit_iff_toNat, Bool.and_eq_true, decide_eq_true_eq,
    decide_eq_true_eq, Char.le_def, Char.le_def, UInt32.le_iff_toNat_le, UInt32.le_iff_toNat_le]
  rfl

theorem of_digits_grows (cs : List Char) (n : Nat) : n ≤ Nat.ofDigitChars 10 cs n := by
  induction cs generalizing n with
  | nil => exact Nat.le_of_eq Nat.ofDigitChars_nil.symm
  | cons c rest ih =>
    rw [Nat.ofDigitChars_cons]
    have longer := ih (10 * n + (c.toNat - '0'.toNat))
    omega

-- Digits only make a number greater, so that the limit counts for the last number alone.
theorem add_digits_ok (limit : Nat) (beyond : NumberFault) (cs : List Char) (n m : Nat)
    (small : n ≤ limit) :
    addDigits limit beyond n cs = .ok m ↔
      (∀ c ∈ cs, c.isDigit) ∧ Nat.ofDigitChars 10 cs n = m ∧ m ≤ limit := by
  induction cs generalizing n with
  | nil =>
    rw [addDigits, Nat.ofDigitChars_nil, Except.ok.injEq]
    refine ⟨fun same => ⟨fun c member => absurd member List.not_mem_nil, same, same ▸ small⟩, ?_⟩
    exact fun ⟨_, same, _⟩ => same
  | cons c rest ih =>
    rw [addDigits, is_digit_iff, Nat.ofDigitChars_cons]
    simp only [List.forall_mem_cons]
    by_cases digit : c.isDigit
    · rw [if_pos digit]
      by_cases fits : 10 * n + (c.toNat - '0'.toNat) ≤ limit
      · rw [if_pos fits, ih _ fits, and_iff_right digit]
      · rw [if_neg fits]
        refine ⟨nofun, fun ⟨_, same, bound⟩ => ?_⟩
        have longer := of_digits_grows rest (10 * n + (c.toNat - '0'.toNat))
        omega
    · rw [if_neg digit]
      exact ⟨nofun, fun ⟨digits, _⟩ => absurd digits.1 digit⟩

theorem unsigned_ok (limit : Nat) (beyond : NumberFault) (cs : List Char) (m : Nat) :
    unsigned limit beyond cs = .ok m ↔ Digits cs m ∧ m ≤ limit := by
  rw [unsigned]
  by_cases none : cs = []
  · rw [if_pos (List.isEmpty_iff.2 none)]
    exact ⟨nofun, fun ⟨digits, _⟩ => absurd none digits.some⟩
  · rw [if_neg (fun empty => none (List.isEmpty_iff.1 empty)),
      add_digits_ok limit beyond cs 0 m (Nat.zero_le limit)]
    exact ⟨fun ⟨digits, value, bound⟩ => ⟨⟨none, digits, value⟩, bound⟩,
      fun ⟨⟨_, digits, value⟩, bound⟩ => ⟨digits, value, bound⟩⟩

theorem plain_int64_ok (cs : List Char) (n : Int64) :
    (do return Int64.ofNat (← unsigned 0x7fffffffffffffff .tooLarge cs)) = Except.ok n ↔
      ∃ m : Nat, Digits cs m ∧ n.toInt = m := by
  simp only [returned_iff, unsigned_ok]
  constructor
  · rintro ⟨m, ⟨digits, bound⟩, rfl⟩
    exact ⟨m, digits, Int64.toInt_ofNat_of_lt (by omega)⟩
  · rintro ⟨m, digits, value⟩
    have below := n.toInt_lt
    refine ⟨m, ⟨digits, by omega⟩, Int64.toInt_inj.1 ?_⟩
    rw [value]
    exact Int64.toInt_ofNat_of_lt (by omega)

theorem negative_int64_ok (cs : List Char) (n : Int64) :
    (do return Int64.ofInt (-(← unsigned 0x8000000000000000 .tooSmall cs : Nat))) = Except.ok n ↔
      ∃ m : Nat, Digits cs m ∧ n.toInt = -m := by
  simp only [returned_iff, unsigned_ok]
  constructor
  · rintro ⟨m, ⟨digits, bound⟩, rfl⟩
    exact ⟨m, digits, Int64.toInt_ofInt_of_le (by omega) (by omega)⟩
  · rintro ⟨m, digits, value⟩
    have above := n.le_toInt
    refine ⟨m, ⟨digits, by omega⟩, Int64.toInt_inj.1 ?_⟩
    rw [value]
    exact Int64.toInt_ofInt_of_le (by omega) (by omega)

theorem Digits.unsigned (c : Char) (cs : List Char) (n : Nat) (digits : Digits (c :: cs) n) :
    c ≠ '+' ∧ c ≠ '-' := by
  have first := digits.digits c List.mem_cons_self
  constructor
  · rintro rfl
    simp at first
  · rintro rfl
    simp at first

theorem numeral_plus (text : String) (cs : List Char) (value : Int) (sign : text.toList = '+' :: cs) :
    Numeral text value ↔ ∃ m : Nat, Digits cs m ∧ value = m := by
  constructor
  · intro numeral
    cases numeral with
    | unsigned m digits =>
      rw [sign] at digits
      exact absurd rfl digits.unsigned.1
    | plus rest m same digits =>
      cases sign.symm.trans same
      exact ⟨m, digits, rfl⟩
    | minus rest m same digits => cases sign.symm.trans same
  · rintro ⟨m, digits, rfl⟩
    exact .plus cs m sign digits

theorem numeral_minus (text : String) (cs : List Char) (value : Int) (sign : text.toList = '-' :: cs) :
    Numeral text value ↔ ∃ m : Nat, Digits cs m ∧ value = -m := by
  constructor
  · intro numeral
    cases numeral with
    | unsigned m digits =>
      rw [sign] at digits
      exact absurd rfl digits.unsigned.2
    | plus rest m same digits => cases sign.symm.trans same
    | minus rest m same digits =>
      cases sign.symm.trans same
      exact ⟨m, digits, rfl⟩
  · rintro ⟨m, digits, rfl⟩
    exact .minus cs m sign digits

theorem numeral_unsigned (text : String) (value : Int) (noPlus : ∀ cs, text.toList ≠ '+' :: cs)
    (noMinus : ∀ cs, text.toList ≠ '-' :: cs) :
    Numeral text value ↔ ∃ m : Nat, Digits text.toList m ∧ value = m := by
  constructor
  · intro numeral
    cases numeral with
    | unsigned m digits => exact ⟨m, digits, rfl⟩
    | plus rest m same digits => exact absurd same (noPlus rest)
    | minus rest m same digits => exact absurd same (noMinus rest)
  · rintro ⟨m, digits, rfl⟩
    exact .unsigned m digits

theorem int64_ok (text : String) (n : Int64) : int64 text = .ok n ↔ Numeral text n.toInt := by
  unfold int64
  split
  · next cs sign => rw [plain_int64_ok, numeral_plus text cs _ sign]
  · next cs sign => rw [negative_int64_ok, numeral_minus text cs _ sign]
  · next noPlus noMinus => rw [plain_int64_ok, numeral_unsigned text _ noPlus noMinus]

end BuildDigest.Text
