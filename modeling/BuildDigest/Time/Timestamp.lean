import BuildDigest.Time.Date

set_option autoImplicit false

namespace BuildDigest

structure Timestamp where
  date : Date
  hour : Nat
  minute : Nat
  second : Nat
  nano : Nat
  inDay : hour < 24 ∧ minute < 60 ∧ second ≤ 60 ∧ nano < 1000000000
  deriving DecidableEq

namespace Timestamp

def of? (date : Date) (hour minute second nano : Nat) : Option Timestamp :=
  if h : hour < 24 ∧ minute < 60 ∧ second ≤ 60 ∧ nano < 1000000000 then
    some ⟨date, hour, minute, second, nano, h⟩
  else none

def ofMillis? (ms : Int64) : Option Timestamp := do
  let date ← Date.ofDayNumber? (ms.toInt.fdiv 86400000)
  let inDay := (ms.toInt.fmod 86400000).toNat
  of? date (inDay / 3600000) (inDay / 60000 % 60) (inDay / 1000 % 60) (inDay % 1000 * 1000000)

def padded (width n : Nat) : List Char :=
  let digits := Nat.toDigits 10 n
  List.replicate (width - digits.length) '0' ++ digits

-- A year of at most four digits stands alone; any other carries its sign.
def yearChars (year : Int) : List Char :=
  if year < 0 then '-' :: padded 4 year.natAbs
  else if year ≤ 9999 then padded 4 year.natAbs
  else '+' :: padded 4 year.natAbs

-- A fraction of a second has three, six or nine digits, as few as say it all, or is left out.
def fractionChars (nano : Nat) : List Char :=
  if nano = 0 then []
  else if nano % 1000000 = 0 then '.' :: padded 3 (nano / 1000000)
  else if nano % 1000 = 0 then '.' :: padded 6 (nano / 1000)
  else '.' :: padded 9 nano

def chars (t : Timestamp) : List Char :=
  yearChars t.date.year ++ '-' :: padded 2 t.date.month ++ '-' :: padded 2 t.date.day ++
    'T' :: padded 2 t.hour ++ ':' :: padded 2 t.minute ++ ':' :: padded 2 t.second ++
    fractionChars t.nano ++ ['Z']

def text (t : Timestamp) : String :=
  String.ofList t.chars

end Timestamp

end BuildDigest
