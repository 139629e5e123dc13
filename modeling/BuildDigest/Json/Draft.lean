import BuildDigest.Json.Numeral

set_option autoImplicit false

namespace BuildDigest

-- Why a text was not read: it ended too early, it breaks the rules of
-- JSON, or it is JSON of another shape than the one wanted.
inductive Flaw where
  | truncated
  | malformed
  | mismatched
  deriving DecidableEq

-- A place where a text stops making sense. The flaw to report depends on who comes there: a
-- reader of the value, one who passes over it, or one who needs a quoted name.
structure Fault where
  read : Flaw
  skip : Flaw
  name : Flaw
  deriving DecidableEq

def Fault.always (f : Flaw) : Fault :=
  ⟨f, f, f⟩

inductive Stop where
  | closed
  | cut (comma : Bool) (fault : Fault)
  deriving DecidableEq

-- A value as far as the text goes. A text is `none` when its escapes leave a surrogate alone: it
-- can be passed over but not read. A container holds its parts up to the one that is cut, with
-- that one's fault as its own.
inductive Draft where
  | null
  | bool (b : Bool)
  | number (n : Numeral)
  | text (s : Option String)
  | list (items : List Draft) (stop : Stop)
  | record (members : List (Option String × Draft)) (stop : Stop)
  | broken (fault : Fault)

def Stop.ended : Stop → Except Flaw Unit
  | .closed => .ok ()
  | .cut _ fault => .error fault.read

-- As `ended`, for one who wants nothing but the bracket: a comma is already wrong.
def Stop.endedAtOnce : Stop → Except Flaw Unit
  | .closed => .ok ()
  | .cut true _ => .error .malformed
  | .cut false fault => .error fault.read

namespace Draft

def fault? : Draft → Option Fault
  | .broken fault => some fault
  | .list _ (.cut _ fault) => some fault
  | .record _ (.cut _ fault) => some fault
  | _ => none

def skip (d : Draft) : Except Flaw Unit :=
  match d.fault? with
  | some fault => .error fault.skip
  | none => .ok ()

-- The flaw of a value of the wrong shape. A scalar is read before its
-- shape is judged; a container is refused at its opening bracket.
def mismatch : Draft → Flaw
  | .number .huge => .malformed
  | .text none => .malformed
  | .broken fault => fault.read
  | _ => .mismatched

def readBool : Draft → Except Flaw Bool
  | .bool b => .ok b
  | d => .error d.mismatch

def readText : Draft → Except Flaw String
  | .text (some s) => .ok s
  | d => .error d.mismatch

def readInt (low high : Int) (d : Draft) : Except Flaw Int :=
  match d with
  | .number (.integer n) => if low ≤ n && n ≤ high then .ok n else .error .mismatched
  | d => .error d.mismatch

def readName : Option String → Except Flaw String
  | some name => .ok name
  | none => .error .malformed

def readAny : Nat → Draft → Except Flaw Unit
  | _, .null => .ok ()
  | _, .bool _ => .ok ()
  | _, .number n => if n = .huge then .error .malformed else .ok ()
  | _, .text s => if s.isNone then .error .malformed else .ok ()
  | _, .broken fault => .error fault.read
  | 0, .list _ _ => .error .malformed
  | 0, .record _ _ => .error .malformed
  | room + 1, .list items stop => do
      items.forM (readAny room)
      stop.ended
  | room + 1, .record members stop => do
      members.forM fun (name, value) => do
        let _ ← readName name
        readAny room value
      stop.ended

end Draft

end BuildDigest
