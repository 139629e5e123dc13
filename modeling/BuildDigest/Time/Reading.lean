import BuildDigest.Text.Blank
import BuildDigest.Time.Timestamp

set_option autoImplicit false

namespace BuildDigest.Timestamp

open BuildDigest.Text (trimStart isBlank)

def isDigit (c : Char) : Bool :=
  '0' ≤ c && c ≤ '9'

def valueOf (digits : List Char) : Nat :=
  digits.foldl (fun n c => 10 * n + (c.toNat - '0'.toNat)) 0

def digits? (limit : Nat) (cs : List Char) : Option (Nat × List Char) :=
  let found := (cs.take limit).takeWhile isDigit
  if found.isEmpty then none else some (valueOf found, cs.drop found.length)

-- A year: up to four digits, or a sign and any number of digits.
def year? (cs : List Char) : Option (Int × List Char) :=
  match trimStart cs with
  | '-' :: rest => do let (n, rest) ← digits? rest.length rest; return (-(n : Int), rest)
  | '+' :: rest => do let (n, rest) ← digits? rest.length rest; return (n, rest)
  | rest => do let (n, rest) ← digits? 4 rest; return (n, rest)

def twoDigits? (cs : List Char) : Option (Nat × List Char) :=
  digits? 2 (trimStart cs)

def mark? (c : Char) (cs : List Char) : Option (List Char) :=
  match trimStart cs with
  | [] => none
  | d :: rest => if d = c then some rest else none

def between? : List Char → Option (List Char)
  | 'T' :: rest => some rest
  | 't' :: rest => some rest
  | ' ' :: rest => some rest
  | _ => none

def fraction? : List Char → Option (Nat × List Char)
  | '.' :: cs =>
      let found := cs.takeWhile isDigit
      if found.isEmpty then none
      else
        let kept := found.take 9
        some (valueOf kept * Nat.pow 10 (9 - kept.length), cs.drop found.length)
  | cs => some (0, cs)

def sign? : List Char → Option (Int × List Char)
  | '+' :: rest => some (1, rest)
  | '-' :: rest => some (-1, rest)
  | '\u2212' :: rest => some (-1, rest)
  | _ => none

def fullTwoDigits? : List Char → Option (Nat × List Char)
  | a :: b :: rest => if isDigit a && isDigit b then some (valueOf [a, b], rest) else none
  | _ => none

def isLetter (lower : Char) (c : Char) : Bool :=
  c = lower || c = lower.toUpper

def zone? (cs : List Char) : Option (Int × List Char) :=
  match cs with
  | 'Z' :: rest => some (0, rest)
  | 'z' :: rest => some (0, rest)
  | u :: t :: c :: rest =>
      if isLetter 'u' u && isLetter 't' t && isLetter 'c' c then some (0, rest) else offset? cs
  | _ => offset? cs
where
  offset? (cs : List Char) : Option (Int × List Char) := do
    let (sign, cs) ← sign? cs
    let (hours, cs) ← fullTwoDigits? cs
    let (minutes, cs) ← fullTwoDigits? (cs.dropWhile fun c => c = ':' || isBlank c)
    if hours < 24 && minutes < 60 then return (sign * (hours * 60 + minutes), cs) else none

-- The moment when it is `hour` and `minute` at a place `zone` minutes ahead of universal time.
def ofLocal? (date : Date) (hour minute second nano : Nat) (zone : Int) : Option Timestamp :=
  let minutes := (hour * 60 + minute : Int) - zone
  if minutes < 0 then do
    at? (← date.previous?) (minutes + 1440).toNat
  else if minutes < 1440 then at? date minutes.toNat
  else do
    at? (← date.next?) (minutes - 1440).toNat
where
  at? (date : Date) (minutes : Nat) : Option Timestamp :=
    of? date (minutes / 60) (minutes % 60) second nano

def ofChars? (cs : List Char) : Option Timestamp := do
  let (year, cs) ← year? cs
  let cs ← mark? '-' cs
  let (month, cs) ← twoDigits? cs
  let cs ← mark? '-' cs
  let (day, cs) ← twoDigits? cs
  let date ← Date.of? year month day
  let cs ← between? cs
  let (hour, cs) ← twoDigits? cs
  let cs ← mark? ':' cs
  let (minute, cs) ← twoDigits? cs
  let cs ← mark? ':' cs
  let (second, cs) ← twoDigits? cs
  let (nano, cs) ← fraction? cs
  let (zone, cs) ← zone? (trimStart cs)
  if hour < 24 && minute < 60 && (trimStart cs).isEmpty then
    ofLocal? date hour minute second nano zone
  else none

def ofText? (s : String) : Option Timestamp :=
  ofChars? s.toList

end BuildDigest.Timestamp
