import BuildDigest.Json.Basic
import BuildDigest.Text.Blank
import BuildDigest.Wire.Reading

set_option autoImplicit false

-- The event reader: one event a line.
namespace BuildDigest.Feed

inductive Fault where
  | unreadable (line : Nat) (reason : String)
  | undecodable (line : Nat) (text : String) (flaw : Flaw)
  -- A source of items that is not read from lines fails in its own words.
  | other (message : String)
  deriving DecidableEq

namespace Fault

def notUtf8 : String := "stream did not contain valid UTF-8"

def lineText (line : Nat) : String :=
  String.ofList (Json.decimal line)

-- What a reader of JSON says of a text that it refuses is up to the reader: these are the `words`.
def message (words : String → String) : Fault → String
  | unreadable line reason =>
      "failed to read build event: line " ++ lineText line ++ ": " ++ reason
  | undecodable line text _ =>
      "failed to get build event: line " ++ lineText line ++ ": " ++ words text
  | other message => message

end Fault

abbrev Item := Except Fault Event

def lineFeed : UInt8 := 10

def carriageReturn : UInt8 := 13

-- `current` is what came before the bytes on their first line, the last byte first.
def linesFrom (current : List UInt8) : List UInt8 → List (List UInt8)
  | [] => if current.isEmpty then [] else [current.reverse]
  | b :: rest =>
      if b = lineFeed then
        let line := match current with
          | c :: before => if c = carriageReturn then before else c :: before
          | [] => []
        line.reverse :: linesFrom [] rest
      else linesFrom (b :: current) rest

def lines (bytes : List UInt8) : List (List UInt8) :=
  linesFrom [] bytes

def textOf? (line : List UInt8) : Option String :=
  String.fromUTF8? ⟨line.toArray⟩

def item? (number : Nat) (line : List UInt8) : Option Item :=
  match textOf? line with
  | none => some (.error (.unreadable number Fault.notUtf8))
  | some text =>
      if Text.isAllBlank text then none
      else some ((Event.ofText? text).mapError (.undecodable number text))

def itemsFrom : Nat → List (List UInt8) → List Item
  | _, [] => []
  | number, line :: rest => (item? number line).toList ++ itemsFrom (number + 1) rest

def items (bytes : List UInt8) : List Item :=
  itemsFrom 1 (lines bytes)

-- What can be read of a source: its bytes, and the reason if reading fails behind them.
structure Content where
  bytes : List UInt8
  failure? : Option String := none

instance : Coe (List UInt8) Content :=
  ⟨fun bytes => { bytes }⟩

def endedLines (bytes : List UInt8) : List UInt8 :=
  (bytes.reverse.dropWhile (· ≠ lineFeed)).reverse

-- The line at which reading fails is lost with all that was read of it.
def Content.items (c : Content) : List Item :=
  match c.failure? with
  | none => Feed.items c.bytes
  | some reason =>
      Feed.items (endedLines c.bytes) ++
        [.error (.unreadable (c.bytes.count lineFeed + 1) reason)]

end BuildDigest.Feed
