import BuildDigest.Pattern.Category.Casing
import BuildDigest.Pattern.Category.Letter
import BuildDigest.Pattern.Category.Mark
import BuildDigest.Pattern.Category.Number
import BuildDigest.Pattern.Category.Other
import BuildDigest.Pattern.Category.Punctuation
import BuildDigest.Pattern.Category.Symbol
import BuildDigest.Pattern.DigitRanges
import BuildDigest.Pattern.FoldRows
import BuildDigest.Pattern.WordRanges
import BuildDigest.Text.Blank

set_option autoImplicit false

namespace BuildDigest

namespace Pattern

def inRanges (n : Nat) : List (Nat × Nat) → Bool
  | [] => false
  | (low, high) :: rest => low ≤ n && (n ≤ high || inRanges n rest)

def isWord (c : Char) : Bool :=
  inRanges c.toNat wordRanges

def isDigit (c : Char) : Bool :=
  inRanges c.toNat digitRanges

def inRow (n : Nat) (row : Nat × Nat × Nat × Int) : Bool :=
  row.1 ≤ n && n ≤ row.2.1 && (n - row.1) % row.2.2.1 = 0

-- The code point that stands for all those that differ from `n` in case alone.
def fold (n : Nat) : Nat :=
  match foldRows.find? (inRow n) with
  | some row => (n + row.2.2.2).toNat
  | none => n

def variants (c : Char) : List Char :=
  let folded := fold c.toNat
  let unfolded := foldRows.filterMap fun row =>
    let n := ((folded : Int) - row.2.2.2).toNat
    if inRow n row then some (Char.ofNat n) else none
  c :: Char.ofNat folded :: unfolded

end Pattern

inductive CharSet where
  | none
  | range (low high : Char)
  | word
  | digit
  | blank
  | ranges (rs : List (Nat × Nat))
  | union (s t : CharSet)
  | inter (s t : CharSet)
  | diff (s t : CharSet)
  | symmDiff (s t : CharSet)
  | compl (s : CharSet)
  | folded (s : CharSet)

namespace CharSet

def mem (c : Char) : CharSet → Bool
  | none => false
  | range low high => low ≤ c && c ≤ high
  | word => Pattern.isWord c
  | digit => Pattern.isDigit c
  | blank => Text.isBlank c
  | ranges rs => Pattern.inRanges c.toNat rs
  | union s t => s.mem c || t.mem c
  | inter s t => s.mem c && t.mem c
  | diff s t => s.mem c && !t.mem c
  | symmDiff s t => s.mem c != t.mem c
  | compl s => !s.mem c
  | folded s => (Pattern.variants c).any fun d => s.mem d

def single (c : Char) : CharSet :=
  range c c

def all : CharSet :=
  compl none

def unionOf (sets : List CharSet) : CharSet :=
  sets.foldr union none

open Pattern.Category

def cased : CharSet := unionOf [ranges uppercaseLetter, ranges lowercaseLetter, ranges titlecaseLetter]

def letter : CharSet := unionOf [cased, ranges modifierLetter, ranges otherLetter]

def mark : CharSet := unionOf [ranges nonspacingMark, ranges spacingMark, ranges enclosingMark]

def number : CharSet := unionOf [digit, ranges letterNumber, ranges otherNumber]

def punctuation : CharSet :=
  unionOf [ranges connectorPunctuation, ranges dashPunctuation, ranges openPunctuation,
    ranges closePunctuation, ranges initialPunctuation, ranges finalPunctuation,
    ranges otherPunctuation]

def symbol : CharSet :=
  unionOf [ranges mathSymbol, ranges currencySymbol, ranges modifierSymbol, ranges otherSymbol]

def separator : CharSet :=
  unionOf [ranges spaceSeparator, ranges lineSeparator, ranges paragraphSeparator]

-- What is neither letter, mark, number, punctuation, symbol nor separator.
def other : CharSet :=
  compl (unionOf [letter, mark, number, punctuation, symbol, separator])

def unassigned : CharSet :=
  diff other (unionOf [ranges control, ranges format, ranges privateUse])

def lowercase : CharSet := union (ranges lowercaseLetter) (ranges otherLowercase)

def uppercase : CharSet := union (ranges uppercaseLetter) (ranges otherUppercase)

def alphabetic : CharSet :=
  unionOf [lowercase, uppercase, letter, ranges letterNumber, ranges otherAlphabetic]

def properties : List (String × CharSet) :=
  [("any", all), ("assigned", compl unassigned), ("ascii", range '\x00' '\x7f'),
    ("l", letter), ("letter", letter), ("lc", cased), ("casedletter", cased),
    ("lu", ranges uppercaseLetter), ("uppercaseletter", ranges uppercaseLetter),
    ("ll", ranges lowercaseLetter), ("lowercaseletter", ranges lowercaseLetter),
    ("lt", ranges titlecaseLetter), ("titlecaseletter", ranges titlecaseLetter),
    ("lm", ranges modifierLetter), ("modifierletter", ranges modifierLetter),
    ("lo", ranges otherLetter), ("otherletter", ranges otherLetter),
    ("m", mark), ("mark", mark), ("combiningmark", mark),
    ("mn", ranges nonspacingMark), ("nonspacingmark", ranges nonspacingMark),
    ("mc", ranges spacingMark), ("spacingmark", ranges spacingMark),
    ("me", ranges enclosingMark), ("enclosingmark", ranges enclosingMark),
    ("n", number), ("number", number), ("nd", digit), ("decimalnumber", digit), ("digit", digit),
    ("nl", ranges letterNumber), ("letternumber", ranges letterNumber),
    ("no", ranges otherNumber), ("othernumber", ranges otherNumber),
    ("p", punctuation), ("punctuation", punctuation), ("punct", punctuation),
    ("pc", ranges connectorPunctuation), ("connectorpunctuation", ranges connectorPunctuation),
    ("pd", ranges dashPunctuation), ("dashpunctuation", ranges dashPunctuation),
    ("ps", ranges openPunctuation), ("openpunctuation", ranges openPunctuation),
    ("pe", ranges closePunctuation), ("closepunctuation", ranges closePunctuation),
    ("pi", ranges initialPunctuation), ("initialpunctuation", ranges initialPunctuation),
    ("pf", ranges finalPunctuation), ("finalpunctuation", ranges finalPunctuation),
    ("po", ranges otherPunctuation), ("otherpunctuation", ranges otherPunctuation),
    ("s", symbol), ("symbol", symbol), ("sm", ranges mathSymbol),
    ("mathsymbol", ranges mathSymbol), ("sc", ranges currencySymbol),
    ("currencysymbol", ranges currencySymbol), ("sk", ranges modifierSymbol),
    ("modifiersymbol", ranges modifierSymbol), ("so", ranges otherSymbol),
    ("othersymbol", ranges otherSymbol), ("z", separator), ("separator", separator),
    ("zs", ranges spaceSeparator), ("spaceseparator", ranges spaceSeparator),
    ("zl", ranges lineSeparator), ("lineseparator", ranges lineSeparator),
    ("zp", ranges paragraphSeparator), ("paragraphseparator", ranges paragraphSeparator),
    ("c", other), ("other", other), ("cc", ranges control), ("control", ranges control),
    ("cntrl", ranges control), ("cf", ranges format), ("format", ranges format),
    ("co", ranges privateUse), ("privateuse", ranges privateUse), ("cn", unassigned),
    ("unassigned", unassigned), ("alphabetic", alphabetic), ("alpha", alphabetic),
    ("lowercase", lowercase), ("lower", lowercase), ("uppercase", uppercase),
    ("upper", uppercase), ("whitespace", blank), ("space", blank)]

def ofProperty? (name : List Char) : Option CharSet :=
  let plain := (name.filter fun c => !(Text.isBlank c || c = '-' || c = '_')).map Char.toLower
  let plain := if plain.take 2 = ['i', 's'] then plain.drop 2 else plain
  properties.lookup (String.ofList plain)

def ofAsciiClass? (name : String) : Option CharSet :=
  let digits := range '0' '9'
  let upper := range 'A' 'Z'
  let lower := range 'a' 'z'
  let letters := union upper lower
  let visible := range '!' '~'
  match name with
  | "alnum" => some (union letters digits)
  | "alpha" => some letters
  | "ascii" => some (range '\x00' '\x7f')
  | "blank" => some (union (single '\t') (single ' '))
  | "cntrl" => some (union (range '\x00' '\x1f') (single '\x7f'))
  | "digit" => some digits
  | "graph" => some visible
  | "lower" => some lower
  | "print" => some (range ' ' '~')
  | "punct" => some (diff visible (union letters digits))
  | "space" => some (union (range '\t' '\r') (single ' '))
  | "upper" => some upper
  | "word" => some (unionOf [letters, digits, single '_'])
  | "xdigit" => some (unionOf [digits, range 'A' 'F', range 'a' 'f'])
  | _ => Option.none

end CharSet

end BuildDigest
