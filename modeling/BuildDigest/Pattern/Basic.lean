import BuildDigest.Pattern.CharSet
import BuildDigest.Pattern.Regular

set_option autoImplicit false

namespace BuildDigest

namespace Pattern

inductive Look where
  | textStart
  | textEnd
  | lineStart
  | lineEnd
  -- As `lineStart`, where a carriage return ends a line too, alone or before a line feed.
  | lineStartReturn
  | lineEndReturn
  | wordEdge
  | noWordEdge
  | wordStart
  | wordEnd
  | wordStartHalf
  | wordEndHalf
  deriving DecidableEq

def isWord? (c : Option Char) : Bool :=
  c.any isWord

def Look.holds (before after : Option Char) : Look → Bool
  | textStart => before.isNone
  | textEnd => after.isNone
  | lineStart => before.isNone || before = some '\n'
  | lineEnd => after.isNone || after = some '\n'
  | lineStartReturn =>
      before.isNone || before = some '\n' || (before = some '\r' && after ≠ some '\n')
  | lineEndReturn =>
      after.isNone || after = some '\r' || (after = some '\n' && before ≠ some '\r')
  | wordEdge => isWord? before != isWord? after
  | noWordEdge => isWord? before == isWord? after
  | wordStart => !isWord? before && isWord? after
  | wordEnd => isWord? before && !isWord? after
  | wordStartHalf => !isWord? before
  | wordEndHalf => !isWord? after

inductive Atom where
  | char (set : CharSet)
  | look (l : Look)

-- The positions of a text, from one behind `before` on, where `holds` is true of the two sides.
def positions (holds : Option Char → Option Char → Bool) : Option Char → List Char → Nat
  | before, [] => (holds before none).toNat
  | before, c :: rest => 2 * positions holds (some c) rest + (holds before (some c)).toNat

structure Marked where
  places : Nat
  width : Nat

def Atom.mark (text : List Char) : Atom → Marked
  | char set => ⟨positions (fun _ after => after.any fun c => set.mem c) none text, 1⟩
  | look l => ⟨positions (fun before after => l.holds before after) none text, 0⟩

def Marked.move (m : Marked) (s : Nat) : Nat :=
  (s &&& m.places) <<< m.width

end Pattern

abbrev Pattern := Regular Pattern.Atom

namespace Pattern

def occursIn (p : Pattern) (text : String) : Bool :=
  let cs := text.toList
  let everywhere := 1 <<< (cs.length + 1) - 1
  (p.map (Atom.mark cs)).reach cs.length Marked.move everywhere ≠ 0

end Pattern

end BuildDigest
