set_option autoImplicit false

namespace BuildDigest.Text

inductive NumberFault where
  | notDigit
  | tooLarge
  | tooSmall
  deriving DecidableEq

def NumberFault.message : NumberFault → String
  | notDigit => "invalid digit found in string"
  | tooLarge => "number too large to fit in target type"
  | tooSmall => "number too small to fit in target type"

-- Adds digits to `n`, which may not exceed `limit`; the first fault from the left counts.
def addDigits (limit : Nat) (beyond : NumberFault) : Nat → List Char → Except NumberFault Nat
  | n, [] => .ok n
  | n, c :: cs =>
      if '0' ≤ c && c ≤ '9' then
        let next := 10 * n + (c.toNat - '0'.toNat)
        if next ≤ limit then addDigits limit beyond next cs else .error beyond
      else .error .notDigit

def unsigned (limit : Nat) (beyond : NumberFault) (digits : List Char) : Except NumberFault Nat :=
  if digits.isEmpty then .error .notDigit else addDigits limit beyond 0 digits

def int64 (s : String) : Except NumberFault Int64 :=
  match s.toList with
  | '+' :: digits => do return Int64.ofNat (← unsigned 0x7fffffffffffffff .tooLarge digits)
  | '-' :: digits => do return Int64.ofInt (-(← unsigned 0x8000000000000000 .tooSmall digits : Nat))
  | digits => do return Int64.ofNat (← unsigned 0x7fffffffffffffff .tooLarge digits)

end BuildDigest.Text
