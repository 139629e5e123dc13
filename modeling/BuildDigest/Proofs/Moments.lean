import BuildDigest.Proofs.Numeral
import BuildDigest.Time.Reading
import Mathlib.Algebra.Group.Nat.Defs

set_option autoImplicit false

namespace BuildDigest.Timestamp

open BuildDigest.Text (trimStart isBlank)

theorem digit_no_blank (c : Char) (digit : isDigit c) : isBlank c = false := by
  have table : ∀ d < 10, isBlank (Char.ofNat (48 + d)) = false := by decide
  rw [isDigit, Text.is_digit_iff, Char.isDigit_iff_toNat] at digit
  have bounds : 48 ≤ c.toNat ∧ c.toNat ≤ 57 := digit
  have shifted : 48 + (c.toNat - 48) = c.toNat := by omega
  have found := table (c.toNat - 48) (by omega)
  rwa [shifted, Char.ofNat_toNat] at found

theorem value_of_eq (cs : List Char) (n : Nat) :
    cs.foldl (fun n c => 10 * n + (c.toNat - '0'.toNat)) n = Nat.ofDigitChars 10 cs n := by
  induction cs generalizing n with
  | nil => rw [List.foldl_nil, Nat.ofDigitChars_nil]
  | cons c cs ih => rw [List.foldl_cons, ih, Nat.ofDigitChars_cons]

theorem digits_found (limit : Nat) (ds rest : List Char) (digits : ∀ c ∈ ds, isDigit c)
    (some : ds ≠ []) (fits : ds.length ≤ limit)
    (ends : ds.length = limit ∨ ∀ c ∈ rest.head?, isDigit c = false) :
    digits? limit (ds ++ rest) = .some (valueOf ds, rest) := by
  have after : (rest.take (limit - ds.length)).takeWhile isDigit = [] := by
    rcases ends with full | ends
    · rw [full, Nat.sub_self, List.take_zero, List.takeWhile_nil]
    · cases rest with
      | nil => rw [List.take_nil, List.takeWhile_nil]
      | cons c rest =>
        cases limit - ds.length with
        | zero => rw [List.take_zero, List.takeWhile_nil]
        | succ more =>
          rw [List.take_succ_cons, List.takeWhile_cons_of_neg]
          simp [ends c rfl]
  have found : ((ds ++ rest).take limit).takeWhile isDigit = ds := by
    rw [List.take_append, List.take_of_length_le fits, List.takeWhile_append_of_pos digits, after,
      List.append_nil]
  simp [digits?, found, some]

theorem padded_digits (width n : Nat) : ∀ c ∈ padded width n, isDigit c := by
  intro c member
  rcases List.mem_append.1 member with zero | digit
  · rw [List.eq_of_mem_replicate zero]
    rfl
  · rw [isDigit, Text.is_digit_iff]
    exact Nat.isDigit_of_mem_toDigits (by decide) (by decide) digit

theorem padded_some (width n : Nat) : padded width n ≠ [] :=
  List.append_ne_nil_of_right_ne_nil _ Nat.toDigits_ne_nil

@[simp] theorem padded_value (width n : Nat) : valueOf (padded width n) = n := by
  rw [valueOf, value_of_eq, padded, Nat.ofDigitChars_append, Nat.ofDigitChars_replicate_zero,
    Nat.mul_zero, Nat.ofDigitChars_toDigits (by decide) (by decide)]

theorem padded_length (width n : Nat) (some : 0 < width) (fits : n < 10 ^ width) :
    (padded width n).length = width := by
  have short := (Nat.length_toDigits_le_iff (by decide) some).2 fits
  rw [padded, List.length_append, List.length_replicate]
  omega

theorem padded_head (width n : Nat) : ∃ c cs, padded width n = c :: cs ∧ isDigit c := by
  cases found : padded width n with
  | nil => exact absurd found (padded_some width n)
  | cons c cs => exact ⟨c, cs, rfl, padded_digits width n c (found ▸ List.mem_cons_self)⟩

theorem padded_trim (width n : Nat) (rest : List Char) :
    trimStart (padded width n ++ rest) = padded width n ++ rest := by
  obtain ⟨c, cs, found, digit⟩ := padded_head width n
  rw [found]
  exact List.dropWhile_cons_of_neg (by simp [digit_no_blank c digit])

theorem two_digits_padded (n : Nat) (rest : List Char) (fits : n < 100) :
    twoDigits? (padded 2 n ++ rest) = some (n, rest) := by
  have length := padded_length 2 n (by decide) fits
  rw [twoDigits?, padded_trim, digits_found 2 _ rest (padded_digits 2 n) (padded_some 2 n)
    (Nat.le_of_eq length) (.inl length), padded_value]

theorem mark_found (c : Char) (rest : List Char) (noBlank : isBlank c = false) :
    mark? c (c :: rest) = some rest := by
  have kept : trimStart (c :: rest) = c :: rest :=
    List.dropWhile_cons_of_neg (by simp [noBlank])
  simp [mark?, kept]

theorem signed_year (n : Nat) (rest : List Char) :
    digits? (padded 4 n ++ '-' :: rest).length (padded 4 n ++ '-' :: rest) =
      some (n, '-' :: rest) := by
  rw [digits_found _ _ _ (padded_digits 4 n) (padded_some 4 n) (by simp)
    (.inr (fun c first => by cases first; rfl)), padded_value]

theorem year_chars (year : Int) (rest : List Char) :
    year? (yearChars year ++ '-' :: rest) = some (year, '-' :: rest) := by
  unfold yearChars
  split
  · next negative =>
    have kept : trimStart ('-' :: (padded 4 year.natAbs ++ '-' :: rest)) =
        '-' :: (padded 4 year.natAbs ++ '-' :: rest) := rfl
    rw [List.cons_append, year?, kept]
    simp only [signed_year, Option.bind_eq_bind, Option.bind_some, Option.pure_def]
    rw [Int.ofNat_natAbs_of_nonpos (by omega), Int.neg_neg]
  · next positive =>
    have natural : (year.natAbs : Int) = year := Int.natAbs_of_nonneg (by omega)
    split
    · next short =>
      have length := padded_length 4 year.natAbs (by decide) (by omega)
      have found := digits_found 4 _ ('-' :: rest) (padded_digits 4 year.natAbs)
        (padded_some 4 year.natAbs) (Nat.le_of_eq length) (.inl length)
      obtain ⟨c, cs, first, digit⟩ := padded_head 4 year.natAbs
      unfold year?
      rw [padded_trim]
      -- A digit is neither sign.
      split
      · next same =>
        rw [first] at same
        cases same
        cases digit
      · next same =>
        rw [first] at same
        cases same
        cases digit
      · rw [found, padded_value]
        simp [natural]
    · have kept : trimStart ('+' :: (padded 4 year.natAbs ++ '-' :: rest)) =
          '+' :: (padded 4 year.natAbs ++ '-' :: rest) := rfl
      rw [List.cons_append, year?, kept]
      simp only [signed_year, Option.bind_eq_bind, Option.bind_some, Option.pure_def, natural]

theorem fraction_digits (width n : Nat) (some : 0 < width) (few : width ≤ 9) (fits : n < 10 ^ width)
    (rest : List Char) (ends : ∀ c ∈ rest.head?, isDigit c = false) :
    fraction? ('.' :: padded width n ++ rest) = .some (n * 10 ^ (9 - width), rest) := by
  have length := padded_length width n some fits
  have after : rest.takeWhile isDigit = [] := by
    cases rest with
    | nil => rfl
    | cons c rest => exact List.takeWhile_cons_of_neg (by simp [ends c rfl])
  have found : (padded width n ++ rest).takeWhile isDigit = padded width n := by
    rw [List.takeWhile_append_of_pos (padded_digits width n), after, List.append_nil]
  have kept : (padded width n).take 9 = padded width n := List.take_of_length_le (by omega)
  simp [fraction?, found, kept, padded_some, padded_value, length]

theorem fraction_chars (nano : Nat) (bound : nano < 1000000000) :
    fraction? (fractionChars nano ++ ['Z']) = some (nano, ['Z']) := by
  have ends : ∀ c ∈ ['Z'].head?, isDigit c = false := fun c first => by cases first; rfl
  unfold fractionChars
  split
  · next zero =>
    subst zero
    rfl
  · split
    · rw [fraction_digits 3 _ (by decide) (by decide) (by omega) _ ends]
      congr 2
      omega
    · split
      · rw [fraction_digits 6 _ (by decide) (by decide) (by omega) _ ends]
        congr 2
        omega
      · rw [fraction_digits 9 _ (by decide) (by decide) (by omega) _ ends]
        simp

theorem of_local_universal (date : Date) (hour minute second nano : Nat)
    (inDay : hour < 24 ∧ minute < 60 ∧ second ≤ 60 ∧ nano < 1000000000) :
    ofLocal? date hour minute second nano 0 =
      some ⟨date, hour, minute, second, nano, inDay⟩ := by
  have minutes : ((hour * 60 + minute : Int) - 0).toNat = hour * 60 + minute := by omega
  have hours : (hour * 60 + minute) / 60 = hour := by omega
  have rest : (hour * 60 + minute) % 60 = minute := by omega
  unfold ofLocal?
  rw [if_neg (by omega), if_pos (by omega), ofLocal?.at?, minutes, hours, rest, of?, dif_pos inDay]

theorem days_in_le (year : Int) (month : Nat) : Date.daysIn year month ≤ 31 := by
  unfold Date.daysIn
  split
  · split <;> decide
  all_goals decide

theorem some_then {α β : Type} (a : α) (next : α → Option β) : (some a >>= next) = next a := rfl

theorem of_text_text (t : Timestamp) : ofText? t.text = some t := by
  obtain ⟨⟨year, month, day, valid⟩, hour, minute, second, nano, inDay⟩ := t
  have months := valid.2.1
  have days := valid.2.2
  have shortMonth := days_in_le year month
  have date : Date.of? year month day = some ⟨year, month, day, valid⟩ := dif_pos valid
  have between (rest : List Char) : between? ('T' :: rest) = some rest := rfl
  have zone : zone? (trimStart ['Z']) = some (0, []) := rfl
  have whole : (decide (hour < 24) && decide (minute < 60) && (trimStart []).isEmpty) = true := by
    simp [inDay.1, inDay.2.1, trimStart]
  rw [ofText?, text, String.toList_ofList, chars, ofChars?]
  simp only [List.append_assoc, List.cons_append]
  rw [year_chars, some_then, mark_found '-' _ rfl, some_then,
    two_digits_padded month _ (by omega), some_then, mark_found '-' _ rfl, some_then,
    two_digits_padded day _ (by omega), some_then, date, some_then, between, some_then,
    two_digits_padded hour _ (by omega), some_then, mark_found ':' _ rfl, some_then,
    two_digits_padded minute _ (by omega), some_then, mark_found ':' _ rfl, some_then,
    two_digits_padded second _ (by omega), some_then, fraction_chars nano inDay.2.2.2, some_then,
    zone, some_then, if_pos whole]
  exact of_local_universal _ hour minute second nano inDay

end BuildDigest.Timestamp
