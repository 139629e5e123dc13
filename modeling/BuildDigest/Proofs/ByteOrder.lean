import BuildDigest.Hash.Bytes
import BuildDigest.KeyMap
import Mathlib.Data.List.Basic
import Mathlib.Tactic.SplitIfs

set_option autoImplicit false

namespace BuildDigest

namespace Hash

theorem scalar_bound (c : Char) : c.val.toNat < 0x110000 := by
  rcases c.valid with low | high
  · exact Nat.lt_trans low (by decide)
  · exact high.2

-- Whatever follows, the first byte that differs is within the two characters.
theorem encode_char_lt (c d : Char) (order : c < d) (xs ys : List UInt8) :
    String.utf8EncodeChar c ++ xs < String.utf8EncodeChar d ++ ys := by
  have below : c.val.toNat < d.val.toNat := order
  have bound := scalar_bound d
  have third (n : Nat) : n / 4096 = n / 64 / 64 := (Nat.div_div_eq_div_mul n 64 64).symm
  have fourth (n : Nat) : n / 262144 = n / 64 / 64 / 64 := by
    rw [Nat.div_div_eq_div_mul, Nat.div_div_eq_div_mul]
  unfold String.utf8EncodeChar
  generalize c.val.toNat = n, d.val.toNat = m at below bound
  simp only [third, fourth]
  split_ifs
  all_goals
    simp only [List.cons_append, List.nil_append, List.cons_lt_cons_iff,
      UInt8.lt_iff_toNat_lt, ← UInt8.toNat_inj, UInt8.toNat_ofNat']
    omega

theorem encode_char_some (c : Char) : ∃ b bytes, String.utf8EncodeChar c = b :: bytes := by
  refine List.exists_cons_of_length_pos ?_
  rw [String.length_utf8EncodeChar]
  exact c.utf8Size_pos

theorem encode_chars_lt (cs ds : List Char) (order : cs < ds) :
    cs.flatMap String.utf8EncodeChar < ds.flatMap String.utf8EncodeChar := by
  induction cs generalizing ds with
  | nil =>
    cases ds with
    | nil => exact absurd order (List.lt_irrefl [])
    | cons d ds =>
      obtain ⟨b, bytes, encoded⟩ := encode_char_some d
      rw [List.flatMap_cons, encoded]
      exact List.nil_lt_cons _ _
  | cons c cs ih =>
    cases ds with
    | nil => exact absurd order (List.not_lt_nil _)
    | cons d ds =>
      rw [List.flatMap_cons, List.flatMap_cons]
      rcases List.cons_lt_cons_iff.1 order with first | ⟨rfl, others⟩
      · exact encode_char_lt c d first _ _
      · exact List.append_left_lt (ih ds others)

theorem utf8_chars (s : String) : utf8 s = s.toList.flatMap String.utf8EncodeChar := by
  have encoded : s.toList.utf8Encode = s.toByteArray := String.utf8Encode_toList
  rw [utf8, String.toUTF8, ← encoded, List.utf8Encode, List.data_toByteArray]

theorem utf8_lt (s t : String) (order : s < t) : utf8 s < utf8 t := by
  rw [utf8_chars, utf8_chars]
  exact encode_chars_lt _ _ (String.lt_iff.1 order)

end Hash

namespace KeyMap

theorem bytes_ascending {α : Type} (m : KeyMap α) :
    (m.entries.map fun e => Hash.utf8 e.1).Pairwise (· < ·) :=
  List.pairwise_map.2 (m.ascending.imp fun order => Hash.utf8_lt _ _ order)

end KeyMap

end BuildDigest
