import BuildDigest.Time.Duration

set_option autoImplicit false

namespace BuildDigest.Duration

theorem whole_and_rest (n unit : Int) (positive : 0 < unit) :
    n.tdiv unit * unit + n.tmod unit = n ∧ -unit < n.tmod unit ∧ n.tmod unit < unit :=
  ⟨Int.tdiv_mul_add_tmod n unit, Int.lt_tmod_of_pos n positive, Int.tmod_lt_of_pos n positive⟩

theorem rest_sign (n unit : Int) :
    (0 ≤ n → 0 ≤ n.tmod unit) ∧ (n ≤ 0 → n.tmod unit ≤ 0) := by
  refine ⟨Int.tmod_nonneg unit, fun negative => ?_⟩
  have turned := Int.tmod_nonneg unit (Int.neg_nonneg_of_nonpos negative)
  rw [Int.neg_tmod] at turned
  omega

-- Multiples of a million pass through the division as long as they have the sign of the rest.
theorem drop_beside_multiple (n rest : Int)
    (agree : (0 ≤ n ∧ 0 ≤ rest) ∨ (n ≤ 0 ∧ rest ≤ 0)) :
    (n * 1000000 + rest).tdiv 1000000 = n + rest.tdiv 1000000 := by
  have sum := whole_and_rest (n * 1000000 + rest) 1000000 (by decide)
  have part := whole_and_rest rest 1000000 (by decide)
  have sumSign := rest_sign (n * 1000000 + rest) 1000000
  have partSign := rest_sign rest 1000000
  omega

-- A number, unless a word of so many bits has no room for it.
def held? (bits : Nat) (n : Int) : Option Int :=
  if (BitVec.intMin bits).toInt ≤ n ∧ n ≤ (BitVec.intMax bits).toInt then some n else none

theorem held_long_iff (n m : Int) :
    held? 64 n = some m ↔ (-9223372036854775808 ≤ n ∧ n < 9223372036854775808) ∧ n = m := by
  have least : (BitVec.intMin 64).toInt = -9223372036854775808 := by decide
  have greatest : (BitVec.intMax 64).toInt = 9223372036854775807 := by decide
  rw [held?, least, greatest, Option.ite_none_right_eq_some, Option.some.injEq]
  omega

theorem held_long (n : Int) (low : -9223372036854775808 ≤ n) (high : n < 9223372036854775808) :
    held? 64 n = some n :=
  (held_long_iff n n).2 ⟨⟨low, high⟩, rfl⟩

theorem held_none (n : Int) (outside : ¬(-9223372036854775808 ≤ n ∧ n < 9223372036854775808)) :
    held? 64 n = none :=
  Option.eq_none_iff_forall_ne_some.2 fun m held => outside ((held_long_iff n m).1 held).1

theorem held_int (n : Int) (low : -2147483648 ≤ n) (high : n < 2147483648) :
    held? 32 n = some n := by
  have least : (BitVec.intMin 32).toInt = -2147483648 := by decide
  have greatest : (BitVec.intMax 32).toInt = 2147483647 := by decide
  rw [held?, least, greatest, if_pos (by omega)]

theorem sum_held (a b : Int64) (n : Int) (held : held? 64 (a.toInt + b.toInt) = some n) :
    (a + b).toInt = n := by
  obtain ⟨⟨low, high⟩, rfl⟩ := (held_long_iff _ n).1 held
  rw [Int64.toInt_add]
  exact Int.bmod_eq_of_le low high

theorem product_held (a b : Int64) (n : Int) (held : held? 64 (a.toInt * b.toInt) = some n) :
    (a * b).toInt = n := by
  obtain ⟨⟨low, high⟩, rfl⟩ := (held_long_iff _ n).1 held
  rw [Int64.toInt_mul]
  exact Int.bmod_eq_of_le low high

theorem quotient_held (a b : Int64) (n : Int) (held : held? 64 (a.toInt.tdiv b.toInt) = some n) :
    (a / b).toInt = n := by
  obtain ⟨⟨low, high⟩, rfl⟩ := (held_long_iff _ n).1 held
  rw [Int64.toInt_div]
  exact Int.bmod_eq_of_le low high

def exactParts? (ms : Int) : Option (Int × Int) := do
  let seconds ← held? 64 (ms.tdiv 1000)
  let rest ← held? 64 (ms.tmod 1000)
  let product ← held? 64 (rest * 1000000)
  let nanos ← held? 32 product
  some (seconds, nanos)

def exactMillis? (d : Duration) : Option Int := do
  let whole ← held? 64 (d.seconds.toInt * 1000)
  let rest ← held? 64 (d.nanos.toInt.tdiv 1000000)
  held? 64 (whole + rest)

theorem of_millis_seconds (ms : Int64) : (ofMillis ms).seconds.toInt = ms.toInt.tdiv 1000 :=
  Int64.toInt_div_of_ne_right ms 1000 (by decide)

theorem of_millis_nanos (ms : Int64) :
    (ofMillis ms).nanos.toInt = ms.toInt.tmod 1000 * 1000000 := by
  obtain ⟨-, low, high⟩ := whole_and_rest ms.toInt 1000 (by decide)
  have rest : (ms % 1000).toInt = ms.toInt.tmod 1000 := Int64.toInt_mod ms 1000
  have million : (1000000 : Int64).toInt = 1000000 := rfl
  have product : (ms % 1000 * 1000000).toInt = ms.toInt.tmod 1000 * 1000000 :=
    product_held _ _ _ (by rw [rest, million, held_long _ (by omega) (by omega)])
  rw [ofMillis, Int64.toInt_toInt32, product]
  exact Int.bmod_eq_of_le (by omega) (by omega)

theorem exact_parts (ms : Int64) :
    exactParts? ms.toInt = some ((ofMillis ms).seconds.toInt, (ofMillis ms).nanos.toInt) := by
  obtain ⟨whole, low, high⟩ := whole_and_rest ms.toInt 1000 (by decide)
  have bounds := And.intro ms.le_toInt ms.toInt_lt
  have seconds := held_long (ms.toInt.tdiv 1000) (by omega) (by omega)
  have rest := held_long (ms.toInt.tmod 1000) (by omega) (by omega)
  have product := held_long (ms.toInt.tmod 1000 * 1000000) (by omega) (by omega)
  have nanos := held_int (ms.toInt.tmod 1000 * 1000000) (by omega) (by omega)
  simp only [exactParts?, seconds, rest, product, nanos, of_millis_seconds, of_millis_nanos,
    Option.bind_eq_bind, Option.bind_some]

theorem millis_of_exact (d : Duration) (ms : Int) (exact : d.exactMillis? = some ms) :
    d.millis.toInt = ms := by
  obtain ⟨whole, wholeHeld, exact⟩ := Option.bind_eq_some_iff.1 exact
  obtain ⟨rest, restHeld, sumHeld⟩ := Option.bind_eq_some_iff.1 exact
  have product : (d.seconds * 1000).toInt = whole := product_held _ 1000 _ wholeHeld
  have quotient : (d.nanos.toInt64 / 1000000).toInt = rest :=
    quotient_held _ 1000000 _ (by rw [Int32.toInt_toInt64]; exact restHeld)
  exact sum_held _ _ _ (by rw [product, quotient]; exact sumHeld)

structure Balanced (d : Duration) : Prop where
  agree : (0 ≤ d.seconds.toInt ∧ 0 ≤ d.nanos.toInt) ∨
    (d.seconds.toInt ≤ 0 ∧ d.nanos.toInt ≤ 0)
  fraction : -1000000000 < d.nanos.toInt ∧ d.nanos.toInt < 1000000000

def length (d : Duration) : Int :=
  d.seconds.toInt * 1000000000 + d.nanos.toInt

theorem of_millis_balanced (ms : Int64) : (ofMillis ms).Balanced := by
  obtain ⟨whole, low, high⟩ := whole_and_rest ms.toInt 1000 (by decide)
  have sign := rest_sign ms.toInt 1000
  constructor <;> rw [of_millis_nanos]
  · rw [of_millis_seconds]
    omega
  · omega

theorem of_millis_length (ms : Int64) : (ofMillis ms).length = ms.toInt * 1000000 := by
  obtain ⟨whole, -, -⟩ := whole_and_rest ms.toInt 1000 (by decide)
  rw [length, of_millis_seconds, of_millis_nanos]
  omega

theorem Balanced.dropped {d : Duration} (balanced : d.Balanced) :
    d.length.tdiv 1000000 = d.seconds.toInt * 1000 + d.nanos.toInt.tdiv 1000000 := by
  have agree := balanced.agree
  rw [← drop_beside_multiple _ _ (by omega), length]
  congr 1
  omega

-- With a part of the other sign the sum could come back into the word that the seconds have left.
theorem Balanced.exact_millis {d : Duration} (balanced : d.Balanced) :
    d.exactMillis? = held? 64 (d.length.tdiv 1000000) := by
  obtain ⟨part, low, high⟩ := whole_and_rest d.nanos.toInt 1000000 (by decide)
  have sign := rest_sign d.nanos.toInt 1000000
  have agree := balanced.agree
  have fraction := balanced.fraction
  have rest := held_long (d.nanos.toInt.tdiv 1000000) (by omega) (by omega)
  rw [balanced.dropped, exactMillis?, rest]
  by_cases room : -9223372036854775808 ≤ d.seconds.toInt * 1000 ∧
      d.seconds.toInt * 1000 < 9223372036854775808
  · rw [held_long _ room.1 room.2, Option.bind_eq_bind, Option.bind_some, Option.bind_some]
  · have whole := held_none (d.seconds.toInt * 1000) room
    have sum := held_none (d.seconds.toInt * 1000 + d.nanos.toInt.tdiv 1000000) (by omega)
    rw [whole, sum, Option.bind_eq_bind, Option.bind_none]

theorem Balanced.millis_exact {d : Duration} (balanced : d.Balanced)
    (low : -9223372036854775808 ≤ d.length.tdiv 1000000)
    (high : d.length.tdiv 1000000 < 9223372036854775808) :
    d.exactMillis? = some d.millis.toInt ∧ d.millis.toInt = d.length.tdiv 1000000 := by
  have exact : d.exactMillis? = some (d.length.tdiv 1000000) := by
    rw [balanced.exact_millis, held_long _ low high]
  have same := millis_of_exact d _ exact
  exact ⟨exact.trans (congrArg some same.symm), same⟩

theorem exact_millis_of_millis (ms : Int64) :
    (ofMillis ms).exactMillis? = some ms.toInt ∧ (ofMillis ms).millis = ms := by
  have dropped : (ofMillis ms).length.tdiv 1000000 = ms.toInt := by
    rw [of_millis_length]
    exact Int.mul_tdiv_cancel _ (by decide)
  obtain ⟨exact, same⟩ := (of_millis_balanced ms).millis_exact
    (dropped ▸ ms.le_toInt) (dropped ▸ ms.toInt_lt)
  rw [dropped] at same
  exact ⟨same ▸ exact, Int64.toInt_inj.1 same⟩

theorem millis_of_millis (ms : Int64) : (ofMillis ms).millis = ms :=
  (exact_millis_of_millis ms).2

-- Years of 365.25 days, and the nanoseconds on top of them.
structure Lasting (d : Duration) : Prop extends Balanced d where
  years : -315576000000 ≤ d.seconds.toInt ∧ d.seconds.toInt ≤ 315576000000

theorem Lasting.millis_exact {d : Duration} (lasting : d.Lasting) :
    d.exactMillis? = some d.millis.toInt ∧ d.millis.toInt = d.length.tdiv 1000000 := by
  have fraction := lasting.fraction
  have years := lasting.years
  have part := whole_and_rest d.nanos.toInt 1000000 (by decide)
  have dropped := lasting.dropped
  exact lasting.toBalanced.millis_exact (by omega) (by omega)

-- A part of the other sign is dropped on the wrong side.
example : (⟨1, -1⟩ : Duration).millis = 1000 ∧ (⟨1, -1⟩ : Duration).length.tdiv 1000000 = 999 := by
  decide

theorem Lasting.millis_mono {d e : Duration} (shorter : d.Lasting) (longer : e.Lasting)
    (le : d.length ≤ e.length) : d.millis ≤ e.millis := by
  rw [Int64.le_iff_toInt_le, shorter.millis_exact.2, longer.millis_exact.2]
  exact Int.tdiv_le_tdiv (by decide) le

theorem conversions_exact :
    (∀ ms : Int64,
      exactParts? ms.toInt = some ((ofMillis ms).seconds.toInt, (ofMillis ms).nanos.toInt) ∧
      (ofMillis ms).Balanced ∧ (ofMillis ms).length = ms.toInt * 1000000 ∧
      (ofMillis ms).exactMillis? = some ms.toInt ∧ (ofMillis ms).millis = ms) ∧
    (∀ d : Duration, d.Lasting →
      d.exactMillis? = some d.millis.toInt ∧ d.millis.toInt = d.length.tdiv 1000000) ∧
    ∀ d e : Duration, d.Lasting → e.Lasting → d.length ≤ e.length → d.millis ≤ e.millis := by
  refine ⟨fun ms => ?_, fun d lasting => lasting.millis_exact, fun d e shorter longer le => ?_⟩
  · exact ⟨exact_parts ms, of_millis_balanced ms, of_millis_length ms, exact_millis_of_millis ms⟩
  · exact shorter.millis_mono longer le

theorem conversions_at_ends :
    let d : Duration := ⟨-315576000000, -999999999⟩
    let e : Duration := ⟨315576000000, 999999999⟩
    exactParts? Int64.minValue.toInt = some (-9223372036854775, -808000000) ∧
      (ofMillis Int64.minValue).exactMillis? = some (-9223372036854775808) ∧
      d.Lasting ∧ e.Lasting ∧ d.length ≤ e.length ∧
      d.exactMillis? = some (-315576000000999) ∧ d.length.tdiv 1000000 = -315576000000999 ∧
      d.millis ≤ e.millis := by
  intro d e
  have past : d.Lasting := ⟨⟨by decide, by decide⟩, by decide⟩
  have future : e.Lasting := ⟨⟨by decide, by decide⟩, by decide⟩
  have le : d.length ≤ e.length := by decide
  obtain ⟨throughout, exactly, onward⟩ := conversions_exact
  obtain ⟨parts, -, -, back, -⟩ := throughout Int64.minValue
  obtain ⟨exact, dropped⟩ := exactly d past
  have value : d.millis.toInt = -315576000000999 := by decide
  rw [value] at exact dropped
  exact ⟨parts, back, past, future, le, exact, dropped.symm, onward d e past future le⟩

end BuildDigest.Duration
