import BuildDigest.Json.Draft

set_option autoImplicit false

namespace BuildDigest.Scan

def isBlank (c : Char) : Bool :=
  c = ' ' || c = '\t' || c = '\n' || c = '\r'

def skipBlanks (cs : List Char) : List Char :=
  cs.dropWhile isBlank

def digit? (c : Char) : Option Nat :=
  if '0' ≤ c && c ≤ '9' then some (c.toNat - '0'.toNat) else none

def digits : List Char → List Nat × List Char
  | [] => ([], [])
  | c :: cs =>
      match digit? c with
      | some d => let (ds, rest) := digits cs; (d :: ds, rest)
      | none => ([], c :: cs)

def missingDigit (rest : List Char) : Fault :=
  ⟨if rest.isEmpty then .truncated else .malformed, .malformed, .malformed⟩

def fraction : List Char → Except Fault (List Nat × List Char)
  | '.' :: cs =>
      match digits cs with
      | ([], rest) => .error (missingDigit rest)
      | found => .ok found
  | cs => .ok ([], cs)

def exponentSign : List Char → Bool × List Char
  | '+' :: cs => (false, cs)
  | '-' :: cs => (true, cs)
  | cs => (false, cs)

def exponent : List Char → Except Fault (Option (Bool × List Nat) × List Char)
  | c :: cs =>
      if c = 'e' || c = 'E' then
        let (down, rest) := exponentSign cs
        match digits rest with
        | ([], rest) => .error (missingDigit rest)
        | (ds, rest) => .ok (some (down, ds), rest)
      else .ok (none, c :: cs)
  | [] => .ok (none, [])

def unsigned (negative : Bool) (cs : List Char) : Except Fault (Numeral × List Char) :=
  match digits cs with
  | ([], rest) => .error (missingDigit rest)
  | (0 :: _ :: _, _) => .error (.always .malformed)
  | (whole, rest) => do
      let (decimals, rest) ← fraction rest
      let (power, rest) ← exponent rest
      .ok (.ofParts ⟨negative, whole, decimals, power⟩, rest)

def number : List Char → Draft × List Char
  | '-' :: cs => finish (unsigned true cs)
  | cs => finish (unsigned false cs)
where
  finish : Except Fault (Numeral × List Char) → Draft × List Char
    | .ok (n, rest) => (.number n, rest)
    | .error fault => (.broken fault, [])

inductive Piece where
  | char (c : Char)
  | unit (n : Nat)

inductive Ending where
  | closed (rest : List Char)
  | cut (flaw : Flaw)

def hexDigit? (c : Char) : Option Nat :=
  if '0' ≤ c && c ≤ '9' then some (c.toNat - '0'.toNat)
  else if 'a' ≤ c && c ≤ 'f' then some (c.toNat - 'a'.toNat + 10)
  else if 'A' ≤ c && c ≤ 'F' then some (c.toNat - 'A'.toNat + 10)
  else none

def unit? (a b c d : Char) : Option Nat := do
  let a ← hexDigit? a
  let b ← hexDigit? b
  let c ← hexDigit? c
  let d ← hexDigit? d
  return ((a * 16 + b) * 16 + c) * 16 + d

def escaped? (c : Char) : Option Char :=
  match c with
  | '"' => some '"'
  | '\\' => some '\\'
  | '/' => some '/'
  | 'b' => some '\x08'
  | 'f' => some '\x0c'
  | 'n' => some '\n'
  | 'r' => some '\r'
  | 't' => some '\t'
  | _ => none

-- Fewer than four bytes after the `u` of an escape are a text that ended too early.
def shortUnit (cs : List Char) : Flaw :=
  if (String.ofList cs).utf8ByteSize < 4 then .truncated else .malformed

def pieces : List Char → List Piece × Ending
  | [] => ([], .cut .truncated)
  | ['\\'] => ([], .cut .truncated)
  | '\\' :: 'u' :: a :: b :: c :: d :: cs =>
      match unit? a b c d with
      | some n => let (ps, ending) := pieces cs; (.unit n :: ps, ending)
      | none => ([], .cut .malformed)
  | '\\' :: 'u' :: cs => ([], .cut (shortUnit cs))
  | '\\' :: c :: cs =>
      match escaped? c with
      | some e => let (ps, ending) := pieces cs; (.char e :: ps, ending)
      | none => ([], .cut .malformed)
  | c :: cs =>
      if c = '"' then ([], .closed cs)
      else if c.toNat < 0x20 then ([], .cut .malformed)
      else let (ps, ending) := pieces cs; (.char c :: ps, ending)

def isLead (n : Nat) : Bool :=
  0xd800 ≤ n && n < 0xdc00

def isTrail (n : Nat) : Bool :=
  0xdc00 ≤ n && n < 0xe000

-- The characters that pieces stand for: a lead and a trail unit make one character, and neither
-- stands alone. `none` if the last piece is a lead that still waits for its trail.
def join : List Piece → Except Flaw (Option (List Char))
  | [] => .ok (some [])
  | .char c :: ps => do return (← join ps).map (c :: ·)
  | .unit n :: ps =>
      if isTrail n then .error .malformed
      else if isLead n then
        match ps with
        | [] => .ok none
        | .char _ :: _ => .error .malformed
        | .unit m :: ps =>
            if isTrail m then do
              return (← join ps).map (Char.ofNat (0x10000 + (n - 0xd800) * 0x400 + (m - 0xdc00)) :: ·)
            else .error .malformed
      else do return (← join ps).map (Char.ofNat n :: ·)

def quoted (cs : List Char) : Except Fault (Option String × List Char) :=
  match pieces cs with
  | (ps, .closed rest) =>
      match join ps with
      | .ok (some s) => .ok (some (String.ofList s), rest)
      | _ => .ok (none, rest)
  | (ps, .cut flaw) =>
      match join ps with
      | .ok _ => .error (.always flaw)
      | .error earlier => .error ⟨earlier, flaw, earlier⟩

def word (value : Draft) : List Char → List Char → Draft × List Char
  | [], rest => (value, rest)
  | _ :: _, [] => (.broken ⟨.truncated, .truncated, .malformed⟩, [])
  | w :: ws, c :: cs =>
      if w = c then word value ws cs else (.broken (.always .malformed), [])

def scalar : List Char → Draft × List Char
  | [] => (.broken (.always .truncated), [])
  | 'n' :: cs => word .null ['u', 'l', 'l'] cs
  | 't' :: cs => word (.bool true) ['r', 'u', 'e'] cs
  | 'f' :: cs => word (.bool false) ['a', 'l', 's', 'e'] cs
  | '"' :: cs =>
      match quoted cs with
      | .ok (s, rest) => (.text s, rest)
      | .error fault => (.broken fault, [])
  | c :: cs =>
      if c = '-' || (digit? c).isSome then number (c :: cs)
      else (.broken (.always .malformed), [])

-- What stands where a member's name is due. One who wants a name and
-- nothing else judges it as a value of the wrong shape.
def nameFault : List Char → Fault
  | [] => .always .truncated
  | c :: cs =>
      if c = '[' || c = '{' then ⟨.malformed, .malformed, .mismatched⟩
      else ⟨.malformed, .malformed, (scalar (c :: cs)).1.mismatch⟩

def afterColon (cs : List Char) : Except Fault (List Char) :=
  match skipBlanks cs with
  | [] => .error (.always .truncated)
  | ':' :: rest => .ok (skipBlanks rest)
  | _ :: _ => .error (.always .malformed)

inductive Next where
  | more (rest : List Char)
  | stop (stop : Stop) (rest : List Char)

def afterPart (bracket : Char) (cs : List Char) : Next :=
  match skipBlanks cs with
  | [] => .stop (.cut false (.always .truncated)) []
  | ',' :: rest =>
      match skipBlanks rest with
      | [] => .stop (.cut true (.always .truncated)) []
      | c :: cs =>
          if c = bracket then .stop (.cut true (.always .malformed)) [] else .more (c :: cs)
  | c :: rest =>
      if c = bracket then .stop .closed rest else .stop (.cut false (.always .malformed)) []

mutual
def value : Nat → List Char → Draft × List Char
  | 0, _ => (.broken (.always .truncated), [])
  | fuel + 1, '[' :: cs =>
      match skipBlanks cs with
      | ']' :: rest => (.list [] .closed, rest)
      | [] => (.list [] (.cut false (.always .truncated)), [])
      | cs => let (items, stop, rest) := items fuel cs; (.list items stop, rest)
  | fuel + 1, '{' :: cs =>
      match skipBlanks cs with
      | '}' :: rest => (.record [] .closed, rest)
      | cs => let (members, stop, rest) := members fuel cs; (.record members stop, rest)
  | _ + 1, cs => scalar cs

def items : Nat → List Char → List Draft × Stop × List Char
  | 0, _ => ([], .cut false (.always .truncated), [])
  | fuel + 1, cs =>
      let (item, rest) := value fuel cs
      match item.fault? with
      | some fault => ([item], .cut false fault, [])
      | none =>
          match afterPart ']' rest with
          | .stop stop rest => ([item], stop, rest)
          | .more rest => let (more, stop, rest) := items fuel rest; (item :: more, stop, rest)

def members : Nat → List Char → List (Option String × Draft) × Stop × List Char
  | 0, _ => ([], .cut false (.always .truncated), [])
  | fuel + 1, '"' :: cs =>
      match quoted cs with
      | .error fault => ([], .cut false fault, [])
      | .ok (name, rest) =>
          match afterColon rest with
          | .error fault => ([(name, .broken fault)], .cut false fault, [])
          | .ok rest =>
              let (found, rest) := value fuel rest
              match found.fault? with
              | some fault => ([(name, found)], .cut false fault, [])
              | none =>
                  match afterPart '}' rest with
                  | .stop stop rest => ([(name, found)], stop, rest)
                  | .more rest =>
                      let (more, stop, rest) := members fuel rest
                      ((name, found) :: more, stop, rest)
  | _ + 1, cs => ([], .cut false (nameFault cs), [])
end

end Scan

namespace Draft

-- The draft of a whole text and what follows its value. Two
-- calls at most are made for a character.
def scan (cs : List Char) : Draft × List Char :=
  Scan.value (2 * cs.length + 1) (Scan.skipBlanks cs)

end Draft

def Draft.readText? {α : Type} (read : Draft → Except Flaw α) (text : String) : Except Flaw α := do
  let (draft, rest) := Draft.scan text.toList
  let a ← read draft
  if (Scan.skipBlanks rest).isEmpty then .ok a else .error .malformed

end BuildDigest
