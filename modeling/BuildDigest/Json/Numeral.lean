set_option autoImplicit false

namespace BuildDigest

inductive Numeral where
  | integer (n : Int)
  | real
  | huge
  deriving DecidableEq

namespace Numeral

structure Parts where
  negative : Bool
  whole : List Nat
  fraction : List Nat := []
  exponent : Option (Bool × List Nat) := none

def valueOf (digits : List Nat) : Nat :=
  digits.foldl (fun n d => 10 * n + d) 0

-- The double nearest to `n`, a half going to the even neighbour, for `n` in the range of a double.
def nearestDouble (n : Nat) : Nat :=
  if n < 0x20000000000000 then n
  else
    let unit := 1 <<< (n.log2 - 52)
    let below := n / unit
    let rest := 2 * (n % unit)
    let up := rest > unit || (rest = unit && below % 2 = 1)
    (if up then below + 1 else below) * unit

structure Scaled where
  significand : Nat
  exponent : Int

namespace Scaled

def fits (x : Scaled) (digit : Nat) : Bool :=
  10 * x.significand + digit < 0x10000000000000000

def whole (x : Scaled) : List Nat → Scaled
  | [] => x
  | d :: ds =>
      if x.fits d then whole ⟨10 * x.significand + d, x.exponent⟩ ds
      else ⟨x.significand, x.exponent + (ds.length + 1)⟩

def fraction (x : Scaled) : List Nat → Scaled
  | [] => x
  | d :: ds =>
      if x.fits d then fraction ⟨10 * x.significand + d, x.exponent - 1⟩ ds else x

-- Whether a double cannot hold the value: significand and power are rounded on their own first.
def overflows (x : Scaled) : Bool :=
  match x.exponent with
  | .negSucc _ => false
  | .ofNat e =>
      x.significand ≠ 0 &&
        (e > 308 ||
          nearestDouble (nearestDouble x.significand * nearestDouble (Nat.pow 10 e)) ≥ 1 <<< 1024)

end Scaled

-- A power of ten beyond 32 bits takes every value but zero out of range, or to zero.
def magnitude (p : Parts) : Numeral :=
  let x := (Scaled.whole ⟨0, 0⟩ p.whole).fraction p.fraction
  match p.exponent with
  | none => if x.overflows then .huge else .real
  | some (down, digits) =>
      let e := valueOf digits
      if e ≥ 0x80000000 then
        if x.significand ≠ 0 && !down then .huge else .real
      else
        let power : Int := if down then x.exponent - e else x.exponent + e
        if (Scaled.mk x.significand power).overflows then .huge else .real

def ofParts (p : Parts) : Numeral :=
  if p.fraction.isEmpty && p.exponent.isNone then
    let n := valueOf p.whole
    if p.negative then
      if 0 < n && n ≤ 0x8000000000000000 then .integer (-n) else magnitude p
    else if n < 0x10000000000000000 then .integer n else magnitude p
  else magnitude p

end Numeral

end BuildDigest
