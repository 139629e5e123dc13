import BuildDigest.Hash.Bytes
import BuildDigest.Text.Base64
import Mathlib.Algebra.BigOperators.Group.List.Basic

set_option autoImplicit false

namespace BuildDigest.Text.Base64

theorem value_of_sign : ∀ n < 64, value? (sign n) = some n := by decide +kernel

theorem sign_ne_padding (n : Nat) (small : n < 64) : sign n ≠ '=' := by
  intro padding
  have value := value_of_sign n small
  rw [padding, show value? '=' = none by decide] at value
  cases value

theorem value_ascii (c : Char) (n : Nat) (value : value? c = some n) : c.toNat < 128 := by
  have below (d : Char) (ascii : d.toNat < 128) (le : c ≤ d) : c.toNat < 128 :=
    Nat.lt_of_le_of_lt (UInt32.le_iff_toNat_le.1 (Char.le_def.1 le)) ascii
  unfold value? at value
  split at value
  · next upper => exact below 'Z' (by decide) (by simpa using (Bool.and_eq_true_iff.1 upper).2)
  split at value
  · next lower => exact below 'z' (by decide) (by simpa using (Bool.and_eq_true_iff.1 lower).2)
  split at value
  · next digit => exact below '9' (by decide) (by simpa using (Bool.and_eq_true_iff.1 digit).2)
  split at value
  · next plus => exact plus ▸ by decide
  split at value
  · next slash => exact slash ▸ by decide
  · cases value

theorem sign_of_value (c : Char) (n : Nat) (value : value? c = some n) : n < 64 ∧ sign n = c := by
  -- Only the first 128 characters are signs, so that they can be gone through.
  have table : ∀ k < 128, ∀ n ∈ value? (Char.ofNat k), n < 64 ∧ sign n = Char.ofNat k := by
    decide +kernel
  have read := table c.toNat (value_ascii c n value) n
  rw [Char.ofNat_toNat] at read
  exact read value

theorem byte_of_nat (a : UInt8) (n : Nat) (same : n = a.toNat) : UInt8.ofNat n = a := by
  rw [same, UInt8.ofNat_toNat]

theorem decode_encode (bytes : List UInt8) : decode (encode bytes) = some bytes := by
  fun_induction encode bytes with
  | case1 => rfl
  | case2 a =>
    have := a.toNat_lt
    have first := byte_of_nat a (a.toNat / 4 * 4 + a.toNat % 4 * 16 / 16) (by omega)
    rw [decode, value_of_sign _ (by omega), value_of_sign _ (by omega)]
    simp only [Option.bind_eq_bind, Option.bind_some, first]
    exact if_pos (by omega)
  | case3 a b =>
    have := a.toNat_lt
    have := b.toNat_lt
    have first := byte_of_nat a (a.toNat / 4 * 4 + (a.toNat % 4 * 16 + b.toNat / 16) / 16) (by omega)
    have second := byte_of_nat b
      ((a.toNat % 4 * 16 + b.toNat / 16) % 16 * 16 + b.toNat % 16 * 4 / 4) (by omega)
    rw [decode, value_of_sign _ (by omega), value_of_sign _ (by omega), value_of_sign _ (by omega)]
    · simp only [Option.bind_eq_bind, Option.bind_some, first, second]
      exact if_pos (by omega)
    · exact sign_ne_padding _ (by omega)
  | case4 a b c rest ih =>
    have := a.toNat_lt
    have := b.toNat_lt
    have := c.toNat_lt
    have first := byte_of_nat a (a.toNat / 4 * 4 + (a.toNat % 4 * 16 + b.toNat / 16) / 16) (by omega)
    have second := byte_of_nat b ((a.toNat % 4 * 16 + b.toNat / 16) % 16 * 16 +
      (b.toNat % 16 * 4 + c.toNat / 64) / 4) (by omega)
    have third := byte_of_nat c
      ((b.toNat % 16 * 4 + c.toNat / 64) % 4 * 64 + c.toNat % 64) (by omega)
    have whole : sign (c.toNat % 64) ≠ '=' := sign_ne_padding _ (by omega)
    rw [decode.eq_4 _ _ _ _ _ (fun _ padding _ => whole padding) (fun padding _ => whole padding),
      value_of_sign _ (by omega), value_of_sign _ (by omega), value_of_sign _ (by omega),
      value_of_sign _ (by omega), ih]
    simp only [Option.bind_eq_bind, Option.bind_some, first, second, third]
    rfl

theorem encode_decode (cs : List Char) (bytes : List UInt8) (read : decode cs = some bytes) :
    encode bytes = cs := by
  have kept (n : Nat) (small : n < 256) : (UInt8.ofNat n).toNat = n :=
    UInt8.toNat_ofNat_of_lt' small
  fun_induction decode cs generalizing bytes with
  | case1 =>
    cases read
    rfl
  | case2 w x =>
    simp only [Option.bind_eq_bind, Option.bind_eq_some_iff, Option.ite_none_right_eq_some,
      Option.some.injEq] at read
    obtain ⟨m, first, n, second, whole, rfl⟩ := read
    obtain ⟨_, rfl⟩ := sign_of_value w m first
    obtain ⟨_, rfl⟩ := sign_of_value x n second
    rw [encode, kept _ (by omega), show (m * 4 + n / 16) / 4 = m by omega,
      show (m * 4 + n / 16) % 4 * 16 = n by omega]
  | case3 w x y _ =>
    simp only [Option.bind_eq_bind, Option.bind_eq_some_iff, Option.ite_none_right_eq_some,
      Option.some.injEq] at read
    obtain ⟨m, first, n, second, k, third, whole, rfl⟩ := read
    obtain ⟨_, rfl⟩ := sign_of_value w m first
    obtain ⟨_, rfl⟩ := sign_of_value x n second
    obtain ⟨_, rfl⟩ := sign_of_value y k third
    rw [encode, kept _ (by omega), kept _ (by omega),
      show (m * 4 + n / 16) / 4 = m by omega,
      show (m * 4 + n / 16) % 4 * 16 + (n % 16 * 16 + k / 4) / 16 = n by omega,
      show (n % 16 * 16 + k / 4) % 16 * 4 = k by omega]
  | case4 w x y z rest _ _ ih =>
    simp only [Option.bind_eq_bind, Option.bind_eq_some_iff, Option.pure_def,
      Option.some.injEq] at read
    obtain ⟨m, first, n, second, k, third, l, fourth, tail, others, rfl⟩ := read
    obtain ⟨_, rfl⟩ := sign_of_value w m first
    obtain ⟨_, rfl⟩ := sign_of_value x n second
    obtain ⟨_, rfl⟩ := sign_of_value y k third
    obtain ⟨_, rfl⟩ := sign_of_value z l fourth
    rw [encode, kept _ (by omega), kept _ (by omega), kept _ (by omega),
      show (m * 4 + n / 16) / 4 = m by omega,
      show (m * 4 + n / 16) % 4 * 16 + (n % 16 * 16 + k / 4) / 16 = n by omega,
      show (n % 16 * 16 + k / 4) % 16 * 4 + (k % 4 * 64 + l) / 64 = k by omega,
      show (k % 4 * 64 + l) % 64 = l by omega, ih tail others]
  | case5 => cases read

theorem decode_iff (cs : List Char) (bytes : List UInt8) :
    decode cs = some bytes ↔ encode bytes = cs := by
  constructor
  · exact encode_decode cs bytes
  · rintro rfl
    exact decode_encode bytes

theorem encode_length (bytes : List UInt8) :
    (encode bytes).length = 4 * ((bytes.length + 2) / 3) := by
  fun_induction encode bytes with
  | case4 a b c rest ih =>
    simp only [List.length_cons, ih]
    omega
  | _ => simp

theorem from_utf8_iff (bytes : ByteArray) (text : String) :
    String.fromUTF8? bytes = some text ↔ text.toUTF8 = bytes := by
  unfold String.fromUTF8?
  constructor
  · intro read
    split at read
    · cases read
      rfl
    · cases read
  · rintro rfl
    exact dif_pos text.isValidUTF8

theorem decode_text_iff (s text : String) :
    decodeText? s = some text ↔ encode (Hash.utf8 text) = s.toList := by
  simp only [decodeText?, Option.bind_eq_bind, Option.bind_eq_some_iff, decode_iff, from_utf8_iff]
  constructor
  · rintro ⟨bytes, encodes, same⟩
    rw [Hash.utf8, same]
    exact encodes
  · intro encodes
    exact ⟨Hash.utf8 text, encodes, rfl⟩

theorem length_le_utf8 (text : String) : text.length ≤ (Hash.utf8 text).length := by
  have encoded := congrArg ByteArray.size (String.utf8Encode_toList (b := text))
  rw [List.utf8Encode, List.size_toByteArray, List.length_flatMap] at encoded
  simp only [String.length_utf8EncodeChar] at encoded
  change text.length ≤ text.toByteArray.size
  rw [← encoded, ← String.length_toList, ← List.length_map (·.utf8Size)]
  apply List.length_le_sum_of_one_le
  intro size member
  obtain ⟨c, _, rfl⟩ := List.mem_map.1 member
  exact c.utf8Size_pos

theorem decode_text_shorter (s text : String) (something : s ≠ "")
    (read : decodeText? s = some text) : text.length < s.length := by
  have encodes := (decode_text_iff s text).1 read
  have length := encode_length (Hash.utf8 text)
  rw [encodes, String.length_toList] at length
  have nonempty : s.length ≠ 0 := fun zero => something (String.length_eq_zero_iff.1 zero)
  have bytes := length_le_utf8 text
  omega

end BuildDigest.Text.Base64
