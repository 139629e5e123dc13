import BuildDigest.Ident
import Mathlib.Data.List.Basic

set_option autoImplicit false

namespace BuildDigest

namespace Hash

theorem little_of_word_numbers (w : UInt32) :
    (littleOfWord w).map UInt8.toNat =
      [w.toNat % 0x100, w.toNat / 0x100 % 0x100, w.toNat / 0x10000 % 0x100,
        w.toNat / 0x1000000 % 0x100] := by
  simp [littleOfWord, UInt32.toNat_shiftRight, Nat.shiftRight_eq_div_pow]

theorem big_of_word_injective : Function.Injective bigOfWord := by
  intro w v same
  have numbers := congrArg (List.map UInt8.toNat) (List.reverse_inj.1 same)
  rw [little_of_word_numbers, little_of_word_numbers] at numbers
  simp only [List.cons.injEq, and_true] at numbers
  have wBound := w.toNat_lt
  have vBound := v.toNat_lt
  refine UInt32.toNat_inj.1 ?_
  omega

theorem words_injective (ws vs : List UInt32)
    (same : ws.flatMap bigOfWord = vs.flatMap bigOfWord) : ws = vs := by
  induction ws generalizing vs with
  | nil =>
    cases vs with
    | nil => rfl
    | cons v rest => simp [bigOfWord, littleOfWord] at same
  | cons w ws ih =>
    cases vs with
    | nil => simp [bigOfWord, littleOfWord] at same
    | cons v vs =>
      rw [List.flatMap_cons, List.flatMap_cons] at same
      obtain ⟨first, rest⟩ := List.append_inj same rfl
      rw [big_of_word_injective first, ih vs rest]

theorem digit_char_injective (n m : Nat) (nBound : n < 16) (mBound : m < 16)
    (same : Nat.digitChar n = Nat.digitChar m) : n = m := by
  have each : ∀ i j : Fin 16, Nat.digitChar i = Nat.digitChar j → i = j := by decide
  exact congrArg Fin.val (each ⟨n, nBound⟩ ⟨m, mBound⟩ same)

theorem hex_of_byte_injective : Function.Injective hexOfByte := by
  intro b c same
  simp only [hexOfByte, List.cons.injEq, and_true] at same
  have bBound := b.toNat_lt
  have cBound := c.toNat_lt
  have high := digit_char_injective _ _ (by omega) (by omega) same.1
  have low := digit_char_injective _ _ (by omega) (by omega) same.2
  refine UInt8.toNat_inj.1 ?_
  omega

theorem hex_injective : Function.Injective hex := by
  intro bytes others same
  induction bytes generalizing others with
  | nil =>
    cases others with
    | nil => rfl
    | cons b rest => simp [hex, hexOfByte] at same
  | cons b bytes ih =>
    cases others with
    | nil => simp [hex, hexOfByte] at same
    | cons c others =>
      obtain ⟨first, rest⟩ := List.append_inj same rfl
      rw [hex_of_byte_injective first, ih rest]

theorem hex_no_dash (bytes : List UInt8) (c : Char) (member : c ∈ hex bytes) : c ≠ '-' := by
  obtain ⟨b, _, digit⟩ := List.mem_flatMap.1 member
  have each : ∀ i : Fin 16, Nat.digitChar i ≠ '-' := by decide
  have bBound := b.toNat_lt
  simp only [hexOfByte, List.mem_cons, List.not_mem_nil, or_false] at digit
  rcases digit with rfl | rfl
  · exact each ⟨b.toNat / 16, by omega⟩
  · exact each ⟨b.toNat % 16, by omega⟩

theorem little_of_word_stamped (w mask mark : UInt32) :
    littleOfWord (w &&& mask ||| mark) =
      List.zipWith (· ||| ·) (List.zipWith (· &&& ·) (littleOfWord w) (littleOfWord mask))
        (littleOfWord mark) := by
  simp [littleOfWord, UInt32.toUInt8_or, UInt32.shiftRight_or, UInt32.toUInt8_and,
    UInt32.shiftRight_and]

theorem and_full (b : UInt8) : b &&& 0xff = b := UInt8.and_neg_one

theorem version_stamped (w : UInt32) :
    bigOfWord (w &&& 0xffff0fff ||| 0x5000) =
      (bigOfWord w).modify 2 fun b => b &&& 0x0f ||| 0x50 := by
  have mask : littleOfWord 0xffff0fff = [0xff, 0x0f, 0xff, 0xff] := by decide
  have mark : littleOfWord 0x5000 = [0, 0x50, 0, 0] := by decide
  rw [bigOfWord, little_of_word_stamped, mask, mark]
  simp [bigOfWord, littleOfWord, and_full]

theorem variant_stamped (w : UInt32) :
    bigOfWord (w &&& 0x3fffffff ||| 0x80000000) =
      (bigOfWord w).modify 0 fun b => b &&& 0x3f ||| 0x80 := by
  have mask : littleOfWord 0x3fffffff = [0xff, 0xff, 0xff, 0x3f] := by decide
  have mark : littleOfWord 0x80000000 = [0, 0, 0, 0x80] := by decide
  rw [bigOfWord, little_of_word_stamped, mask, mark]
  simp [bigOfWord, littleOfWord, and_full]

def Sha1.Digest.bytes (h : Sha1.Digest) : List UInt8 :=
  [h.a, h.b, h.c, h.d, h.e].flatMap bigOfWord

end Hash

namespace Uuid

theorem bytes_injective : Function.Injective bytes := by
  intro u v same
  have words := Hash.words_injective _ _ same
  cases u
  cases v
  simpa using words

-- The identifier of version 5 of a name in a name space: sixteen bytes of the hash of both, with
-- the version and the variant in the upper bits of two of them.
def IsName (space : Uuid) (name : String) (u : Uuid) : Prop :=
  u.bytes =
    (((Hash.Sha1.digest (space.bytes ++ Hash.utf8 name)).bytes.take 16).modify 6
      fun b => b &&& 0x0f ||| 0x50).modify 8 fun b => b &&& 0x3f ||| 0x80

theorem is_name_iff (space : Uuid) (name : String) (u : Uuid) :
    IsName space name u ↔ u = ofName space name := by
  have stamped : IsName space name (ofName space name) := by
    rw [IsName, ofName]
    generalize Hash.Sha1.digest (space.bytes ++ Hash.utf8 name) = h
    simp only [bytes, List.flatMap_cons, List.flatMap_nil, Hash.version_stamped,
      Hash.variant_stamped]
    rfl
  constructor
  · intro isName
    exact bytes_injective (isName.trans stamped.symm)
  · rintro rfl
    exact stamped

theorem groups_joined (digits : List Char) (length : digits.length = 32) :
    digits.take 8 ++ (digits.drop 8).take 4 ++ (digits.drop 12).take 4 ++
      (digits.drop 16).take 4 ++ (digits.drop 20).take 12 = digits := by
  have next (start count : Nat) :
      (digits.drop start).take count ++ digits.drop (start + count) = digits.drop start := by
    rw [← List.drop_drop, List.take_append_drop]
  have last : (digits.drop 20).take 12 = digits.drop 20 :=
    List.take_of_length_le (by simp [length])
  rw [last, List.append_assoc, next 16 4, List.append_assoc, next 12 4, List.append_assoc, next 8 4,
    List.take_append_drop]

-- The dashes are no digits, so that the digits can be told from them.
theorem text_digits (u : Uuid) : u.text.toList.filter (· ≠ '-') = Hash.hex u.bytes := by
  have digits := Hash.hex_no_dash u.bytes
  have length : (Hash.hex u.bytes).length = 32 := rfl
  rw [text, String.toList_ofList]
  generalize Hash.hex u.bytes = xs at digits length
  have kept (start count : Nat) :
      ((xs.drop start).take count).filter (· ≠ '-') = (xs.drop start).take count :=
    List.filter_eq_self.2 fun c member =>
      decide_eq_true (digits c (List.mem_of_mem_drop (List.mem_of_mem_take member)))
  have dash (ys : List Char) : ('-' :: ys).filter (· ≠ '-') = ys.filter (· ≠ '-') := rfl
  simp only [List.filter_append, dash, kept]
  exact groups_joined xs length

theorem text_injective : Function.Injective text := by
  intro u v same
  refine bytes_injective (Hash.hex_injective ?_)
  rw [← text_digits, ← text_digits, same]

example : addresses.text = "6ba7b811-9dad-11d1-80b4-00c04fd430c8" := by decide +kernel

end Uuid

end BuildDigest
