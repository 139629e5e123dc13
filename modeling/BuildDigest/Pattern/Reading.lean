import BuildDigest.Pattern.Basic

/-!
Patterns as they are written. Where this reader departs from the usual one: the flag `u` has no
effect, so that `(?-u)` still speaks of code points; of the properties it knows the general
categories and those in `CharSet.properties`, and refuses scripts such as `\p{Greek}`; and it refuses
no pattern for its size or for the depth of its groups.
-/

set_option autoImplicit false

namespace BuildDigest.Pattern

structure Flags where
  fold : Bool := false
  multiline : Bool := false
  dotAll : Bool := false
  carriageReturn : Bool := false
  spaced : Bool := false

-- Greed makes no difference to whether a pattern occurs.
def Flags.set (f : Flags) (on : Bool) : Char → Option Flags
  | 'i' => some { f with fold := on }
  | 'm' => some { f with multiline := on }
  | 's' => some { f with dotAll := on }
  | 'R' => some { f with carriageReturn := on }
  | 'x' => some { f with spaced := on }
  | 'U' => some f
  | 'u' => some f
  | _ => none

def skipSpaced (comment : Bool) : List Char → List Char
  | [] => []
  | c :: cs =>
      if comment then skipSpaced (c ≠ '\n') cs
      else if c = '#' then skipSpaced true cs
      else if Text.isBlank c then skipSpaced false cs
      else c :: cs

def Flags.skip (f : Flags) (cs : List Char) : List Char :=
  if f.spaced then skipSpaced false cs else cs

def Flags.caseless (f : Flags) (s : CharSet) : CharSet :=
  if f.fold then .folded s else s

def Flags.charSet (f : Flags) (c : Char) : CharSet :=
  f.caseless (.single c)

def Flags.dot (f : Flags) : CharSet :=
  if f.dotAll then .all
  else if f.carriageReturn then .compl (.union (.single '\n') (.single '\r'))
  else .compl (.single '\n')

def Flags.start (f : Flags) : Look :=
  if f.multiline then if f.carriageReturn then .lineStartReturn else .lineStart else .textStart

def Flags.finish (f : Flags) : Look :=
  if f.multiline then if f.carriageReturn then .lineEndReturn else .lineEnd else .textEnd

def isMeta (c : Char) : Bool :=
  ['\\', '.', '+', '*', '?', '(', ')', '|', '[', ']', '{', '}', '^', '$', '#', '&', '-', '~'].contains c

-- Signs of ASCII may be escaped without need, but for the angle brackets.
def isEscapable (c : Char) : Bool :=
  isMeta c || (c.toNat < 0x80 && !c.isAlphanum && c ≠ '<' && c ≠ '>')

inductive Escaped where
  | char (c : Char)
  | set (s : CharSet)
  | look (l : Look)

def hexDigit? (c : Char) : Option Nat :=
  if '0' ≤ c && c ≤ '9' then some (c.toNat - '0'.toNat)
  else if 'a' ≤ c && c ≤ 'f' then some (c.toNat - 'a'.toNat + 10)
  else if 'A' ≤ c && c ≤ 'F' then some (c.toNat - 'A'.toNat + 10)
  else none

def codePoint? (digits : List Char) : Option Char := do
  if digits.isEmpty then none
  let n ← digits.foldlM (fun n c => do return 16 * n + (← hexDigit? c)) 0
  if n.isValidChar then some (Char.ofNat n) else none

def braced? (cs : List Char) : Option (List Char × List Char) :=
  match cs.span (· ≠ '}') with
  | (inside, _ :: rest) => some (inside, rest)
  | (_, []) => none

def hex? (width : Nat) : List Char → Option (Char × List Char)
  | '{' :: cs => do
      let (digits, rest) ← braced? cs
      return (← codePoint? digits, rest)
  | cs => do
      if cs.length < width then none
      return (← codePoint? (cs.take width), cs.drop width)

def property? (inside : List Char) : Option CharSet :=
  match inside.span fun c => c ≠ '=' && c ≠ ':' with
  | (name, []) => CharSet.ofProperty? name
  | (key, _ :: value) =>
      let negated := key.getLast? = some '!'
      let key := (if negated then key.dropLast else key).map Char.toLower
      if key = ['g', 'c'] then do
        let set ← CharSet.ofProperty? value
        return if negated then .compl set else set
      else none

def propertyClass? : List Char → Option (CharSet × List Char)
  | '{' :: cs => do
      let (inside, rest) ← braced? cs
      return (← property? inside, rest)
  | c :: cs => do return (← CharSet.ofProperty? [c], cs)
  | [] => none

-- A question about a word's edge that is written in braces; other braces belong to a repetition.
def wordEdge? (cs : List Char) : Option (Look × List Char) :=
  match cs with
  | '{' :: c :: inside =>
      if c.isAlpha || c = '-' then do
        let (name, rest) ← braced? (c :: inside)
        match String.ofList name with
        | "start" => some (.wordStart, rest)
        | "end" => some (.wordEnd, rest)
        | "start-half" => some (.wordStartHalf, rest)
        | "end-half" => some (.wordEndHalf, rest)
        | _ => none
      else some (.wordEdge, cs)
  | _ => some (.wordEdge, cs)

def escape? (f : Flags) : List Char → Option (Escaped × List Char)
  | [] => none
  | c :: cs =>
      let set (s : CharSet) : Option (Escaped × List Char) := some (.set s, cs)
      let char (c : Char) : Option (Escaped × List Char) := some (.char c, cs)
      let look (l : Look) : Option (Escaped × List Char) := some (.look l, cs)
      match c with
      | 'd' => set .digit
      | 'D' => set (.compl .digit)
      | 's' => set .blank
      | 'S' => set (.compl .blank)
      | 'w' => set .word
      | 'W' => set (.compl .word)
      | 'p' => do let (s, rest) ← propertyClass? cs; return (.set (f.caseless s), rest)
      | 'P' => do let (s, rest) ← propertyClass? cs; return (.set (.compl (f.caseless s)), rest)
      | 'x' => do let (c, rest) ← hex? 2 cs; return (.char c, rest)
      | 'u' => do let (c, rest) ← hex? 4 cs; return (.char c, rest)
      | 'U' => do let (c, rest) ← hex? 8 cs; return (.char c, rest)
      | 'a' => char '\x07'
      | 'f' => char '\x0c'
      | 't' => char '\t'
      | 'n' => char '\n'
      | 'r' => char '\r'
      | 'v' => char '\x0b'
      | 'A' => look .textStart
      | 'z' => look .textEnd
      | 'B' => look .noWordEdge
      | '<' => look .wordStart
      | '>' => look .wordEnd
      | 'b' => do let (l, rest) ← wordEdge? cs; return (.look l, rest)
      | c => if isEscapable c then char c else none

def classItem? (f : Flags) : List Char → Option (Escaped × List Char)
  | '\\' :: cs => escape? f cs
  | c :: cs => some (.char c, cs)
  | [] => none

def classRange? (f : Flags) (cs : List Char) : Option (CharSet × List Char) := do
  let (first, rest) ← classItem? f cs
  let rest := f.skip rest
  let alone := match first with
    | .char c => some (.single c)
    | .set s => some s
    | .look _ => none
  match rest with
  | '-' :: afterHyphen =>
      match f.skip afterHyphen with
      | [] => none
      | next :: others =>
          if next = ']' || next = '-' then return (← alone, rest)
          else
            match first, ← classItem? f (next :: others) with
            | .char low, (.char high, rest) =>
                if low ≤ high then some (.range low high, rest) else none
            | _, _ => none
  | _ => return (← alone, rest)

def asciiClass? (f : Flags) (cs : List Char) : Option (CharSet × List Char) :=
  let (negated, cs) := match cs with
    | '^' :: rest => (true, rest)
    | _ => (false, cs)
  match cs.span (· ≠ ':') with
  | (name, ':' :: ']' :: rest) => do
      let set := f.caseless (← CharSet.ofAsciiClass? (String.ofList name))
      return (if negated then .compl set else set, rest)
  | _ => none

inductive SetOp where
  | inter
  | diff
  | symmDiff

def SetOp.apply : SetOp → CharSet → CharSet → CharSet
  | inter => .inter
  | diff => .diff
  | symmDiff => .symmDiff

def setOp? : List Char → Option (SetOp × List Char)
  | '&' :: '&' :: cs => some (.inter, cs)
  | '-' :: '-' :: cs => some (.diff, cs)
  | '~' :: '~' :: cs => some (.symmDiff, cs)
  | _ => none

def settle (f : Flags) (waiting : Option (SetOp × CharSet)) (right : CharSet) : CharSet :=
  match waiting with
  | none => right
  | some (op, left) => op.apply (f.caseless left) (f.caseless right)

-- The start of a class: whether it is negated, and the hyphens, or
-- the closing bracket, that stand for themselves there.
def classStart (f : Flags) (cs : List Char) : Bool × CharSet × List Char :=
  let (negated, cs) := match f.skip cs with
    | '^' :: rest => (true, f.skip rest)
    | cs => (false, cs)
  match cs with
  | '-' :: rest => (negated, .single '-', hyphens f rest.length rest)
  | ']' :: rest => (negated, .single ']', rest)
  | _ => (negated, .none, cs)
where
  hyphens (f : Flags) : Nat → List Char → List Char
    | 0, cs => cs
    | n + 1, cs =>
        match f.skip cs with
        | '-' :: rest => hyphens f n rest
        | cs => cs

def classBody? (f : Flags) (negated : Bool) :
    Nat → Option (SetOp × CharSet) → CharSet → List Char → Option (CharSet × List Char)
  | 0, _, _, _ => none
  | fuel + 1, waiting, set, cs =>
    match f.skip cs with
    | [] => none
    | c :: cs =>
      if c = ']' then
        let set := f.caseless (settle f waiting set)
        some (if negated then .compl set else set, cs)
      else if c = '[' then
        let ascii := match cs with
          | ':' :: rest => asciiClass? f rest
          | _ => none
        match ascii with
        | some (inner, rest) => classBody? f negated fuel waiting (.union set inner) rest
        | none => do
            let (negatedInside, start, rest) := classStart f cs
            let (inner, rest) ← classBody? f negatedInside fuel none start rest
            classBody? f negated fuel waiting (.union set inner) rest
      else
        match setOp? (c :: cs) with
        | some (op, rest) => classBody? f negated fuel (some (op, settle f waiting set)) .none rest
        | none => do
            let (item, rest) ← classRange? f (c :: cs)
            classBody? f negated fuel waiting (.union set item) rest

def class? (f : Flags) (cs : List Char) : Option (CharSet × List Char) :=
  let (negated, start, rest) := classStart f cs
  classBody? f negated (cs.length + 1) none start rest

def blanks (cs : List Char) : List Char :=
  cs.dropWhile Text.isBlank

def count? (cs : List Char) : Option (Option Nat × List Char) :=
  let (digits, rest) := (blanks cs).span fun c => '0' ≤ c && c ≤ '9'
  if digits.isEmpty then some (none, blanks rest)
  else
    let n := digits.foldl (fun n c => 10 * n + (c.toNat - '0'.toNat)) 0
    if n < 0x100000000 then some (some n, blanks rest) else none

def limits? (cs : List Char) : Option (Nat × Option Nat × List Char) := do
  let (low, rest) ← count? cs
  let low ← low
  match rest with
  | '}' :: rest => return (low, some low, rest)
  | ',' :: '}' :: rest => return (low, none, rest)
  | ',' :: rest => do
      let (high, rest) ← count? rest
      let high ← high
      match rest with
      | '}' :: rest => if low ≤ high then return (low, some high, rest) else none
      | _ => none
  | _ => none

def skipLazy : List Char → List Char
  | '?' :: cs => cs
  | cs => cs

def repetition? : List Char → Option (Option (Nat × Option Nat × List Char))
  | '*' :: cs => some (some (0, none, skipLazy cs))
  | '+' :: cs => some (some (1, none, skipLazy cs))
  | '?' :: cs => some (some (0, some 1, skipLazy cs))
  | '{' :: cs => some ((limits? cs).map fun (low, high, rest) => (low, high, skipLazy rest))
  | _ => none

-- Flags up to the sign that ends them, which is left standing: each at
-- most once, and a hyphen, after which they are taken away.
def flags? (f : Flags) (seen : List Char) : List Char → Option (Flags × List Char)
  | [] => none
  | c :: cs =>
      if c = ':' || c = ')' then
        if seen.head? = some '-' then none else some (f, c :: cs)
      else if seen.contains c then none
      else if c = '-' then flags? f (c :: seen) cs
      else do flags? (← f.set (!seen.contains '-') c) (c :: seen) cs

def isAlphabetic (c : Char) : Bool :=
  CharSet.alphabetic.mem c

def isNameStart (c : Char) : Bool :=
  c = '_' || isAlphabetic c

def isNamePart (c : Char) : Bool :=
  c = '_' || c = '.' || c = '[' || c = ']' || isAlphabetic c || CharSet.number.mem c

def groupName? (cs : List Char) : Option (String × List Char) :=
  match cs.span (· ≠ '>') with
  | (first :: others, _ :: rest) =>
      if isNameStart first && others.all isNamePart then
        some (String.ofList (first :: others), rest)
      else none
  | _ => none

inductive Opening where
  | group (f : Flags) (name : Option String) (rest : List Char)
  | setFlags (f : Flags) (rest : List Char)

def opening? (f : Flags) : List Char → Option Opening
  | '?' :: 'P' :: '<' :: cs => do
      let (name, rest) ← groupName? cs
      return .group f (some name) rest
  | '?' :: '<' :: cs => do
      let (name, rest) ← groupName? cs
      return .group f (some name) rest
  | '?' :: cs => do
      let (g, rest) ← flags? f [] cs
      match rest with
      | ':' :: rest => return .group g none rest
      | _ :: rest => if cs.head? = some ')' then none else return .setFlags g rest
      | [] => none
  | cs => some (.group f none cs)

def charAtom (s : CharSet) : Pattern :=
  .atom (.char s)

def lookAtom (l : Look) : Pattern :=
  .atom (.look l)

-- One part of a sequence: `none` stands for flags, which cannot be repeated.
abbrev Part := Option Pattern

def sequence (parts : List Part) : Pattern :=
  parts.foldl (fun p part => match part with
    | none => p
    | some q => .seq q p) .empty

def alternative (earlier : Option Pattern) (p : Pattern) : Pattern :=
  match earlier with
  | none => p
  | some q => .alt q p

-- Reads alternatives up to the end or to a closing parenthesis, which is left standing. `names`
-- are those of the groups so far, `earlier` the alternatives before this one, and `parts` what is
-- read of it.
def alternatives? : Nat → Flags → List String → Option Pattern → List Part → List Char →
    Option (Pattern × List String × List Char)
  | 0, _, _, _, _, _ => none
  | fuel + 1, f, names, earlier, parts, cs =>
    match f.skip cs with
    | [] => some (alternative earlier (sequence parts), names, [])
    | c :: cs =>
      let next (p : Pattern) (rest : List Char) :=
        alternatives? fuel f names earlier (some p :: parts) rest
      match repetition? (c :: cs) with
      | some limits => do
          let (low, high, rest) ← limits
          match parts with
          | some p :: before =>
              alternatives? fuel f names earlier (some (.times low high p) :: before) rest
          | _ => none
      | none =>
          match c with
          | ')' => some (alternative earlier (sequence parts), names, c :: cs)
          | '|' => alternatives? fuel f names (some (alternative earlier (sequence parts))) [] cs
          | '(' => do
              match ← opening? f cs with
              | .setFlags g rest => alternatives? fuel g names earlier (none :: parts) rest
              | .group g name rest =>
                  if name.any names.contains then none
                  let (p, names, rest) ← alternatives? fuel g (name.toList ++ names) none [] rest
                  match rest with
                  | ')' :: rest => alternatives? fuel f names earlier (some p :: parts) rest
                  | _ => none
          | '[' => do
              let (s, rest) ← class? f cs
              next (charAtom s) rest
          | '.' => next (charAtom f.dot) cs
          | '^' => next (lookAtom f.start) cs
          | '$' => next (lookAtom f.finish) cs
          | '\\' => do
              match ← escape? f cs with
              | (.char c, rest) => next (charAtom (f.charSet c)) rest
              | (.set s, rest) => next (charAtom s) rest
              | (.look l, rest) => next (lookAtom l) rest
          | c => next (charAtom (f.charSet c)) cs

def ofText? (text : String) : Option Pattern := do
  let cs := text.toList
  let (p, _, rest) ← alternatives? (cs.length + 1) {} [] none [] cs
  if rest.isEmpty then some p else none

end BuildDigest.Pattern
