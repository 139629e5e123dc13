import BuildDigest.Json.Scan
import BuildDigest.Time.Reading
import BuildDigest.Wire.Layout

set_option autoImplicit false

namespace BuildDigest.Wire

-- At most so many containers may stand inside one another, the outermost included.
def depthLimit : Nat := 127

abbrev Reader := (base : Base) → Draft → Except Flaw base.Value

def readSlot (read : Reader) : (slot : Slot) → Draft → Except Flaw slot.Value
  | .plain base, d => read base d
  | .optional _, .null => .ok none
  | .optional base, d => do return some (← read base d)

abbrev Found : List Field → Type
  | [] => Unit
  | f :: fs => Option f.slot.Value × Found fs

namespace Found

def nothing : (fs : List Field) → Found fs
  | [] => ()
  | _ :: fs => (none, nothing fs)

-- Puts what `read` makes of the member `name` in its place,
-- which must be free. `none` if no field has that name.
def put (name : String) (read : (f : Field) → Except Flaw f.slot.Value) :
    (fs : List Field) → Found fs → Option (Except Flaw (Found fs))
  | [], _ => none
  | f :: fs, (value, rest) =>
      if f.name = name then
        match value with
        | some _ => some (.error .mismatched)
        | none => some do return (some (← read f), rest)
      else (put name read fs rest).map fun result => do return (value, ← result)

def complete : (fs : List Field) → Found fs → Except Flaw (Row fs)
  | [], _ => .ok ()
  | f :: fs, (value, rest) =>
      match value.or f.absent with
      | some value => do return (value, ← complete fs rest)
      | none => .error .mismatched

end Found

def readMembers (read : Reader) (fs : List Field) :
    Found fs → List (Option String × Draft) → Except Flaw (Found fs)
  | found, [] => .ok found
  | found, (name, value) :: rest => do
      let name ← Draft.readName name
      match Found.put name (fun f => readSlot read f.slot value) fs found with
      | some result => readMembers read fs (← result) rest
      | none => do
          value.skip
          readMembers read fs found rest

def readRecord (read : Reader) (fs : List Field) (members : List (Option String × Draft))
    (stop : Stop) : Except Flaw (Row fs) := do
  let found ← readMembers read fs (Found.nothing fs) members
  stop.ended
  found.complete

def readItems (read : Reader) : (fs : List Field) → List Draft → Stop → Except Flaw (Row fs)
  | [], [], stop => stop.endedAtOnce
  | [], _ :: _, _ => .error .malformed
  | f :: fs, [], stop => do
      stop.ended
      Found.complete (f :: fs) (Found.nothing (f :: fs))
  | f :: fs, item :: items, stop => do
      let value ← readSlot read f.slot item
      return (value, ← readItems read fs items stop)

-- The value of a record that stands for a word. In a payload an empty record does for `null`.
def readUnit (held : Bool) : Draft → Except Flaw Unit
  | .null => .ok ()
  | .record [] .closed => if held then .ok () else .error .mismatched
  | d => .error d.mismatch

-- A word: its text, or a record whose one member has it for a name and says nothing.
def readWord {α : Type} [Word α] (held : Bool) (room : Nat) : Draft → Except Flaw α
  | .text (some s) =>
      match Word.ofName? s with
      | some word => .ok word
      | none => .error .mismatched
  | .broken fault => .error fault.name
  | .record members stop =>
      if room = 0 then .error .malformed
      else
        match members, stop with
        | [], .closed => .error .malformed
        | [], .cut _ fault => .error fault.name
        | (name, value) :: rest, stop => do
            let name ← Draft.readName name
            match Word.ofName? name with
            | none => .error .mismatched
            | some word => do
                readUnit held value
                if rest.isEmpty then stop.endedAtOnce else .error .malformed
                return word
  | _ => .error .malformed

def kindName : String := "kind"

def readKind (room : Nat) (found : Option String) :
    List (Option String × Draft) → Except Flaw (Option String)
  | [] => .ok found
  | (name, value) :: rest => do
      let name ← Draft.readName name
      if name = kindName then
        match found with
        | some _ => .error .mismatched
        | none => do
            let kind ← value.readText
            readKind room (some kind) rest
      else do
        value.readAny room
        readKind room found rest

def readContents (kind : String) (unknown : Except Flaw Payload)
    (row : (fs : List Field) → Except Flaw (Row fs)) : Except Flaw Payload :=
  match (Word.ofName? kind : Option Kind) with
  | none => unknown
  | some kind =>
      let layout := kind.message.layout
      ((row layout.fields).map fun r => Payload.of kind (layout.pack r)).mapError
        fun _ => .mismatched

def readPayload (room : Nat) (read : Reader) : Draft → Except Flaw Payload
  | .record members stop => do
      let kind ← readKind room none members
      stop.ended
      match kind with
      | none => .error .mismatched
      | some kind =>
          let contents := members.filter fun m => m.1 ≠ some kindName
          readContents kind (.ok .unknown) fun fs => readRecord read fs contents .closed
  | .list [] stop => do
      stop.ended
      .error .mismatched
  | .list (first :: items) stop => do
      let kind ← first.readText
      items.forM (Draft.readAny room)
      stop.ended
      readContents kind (if items.isEmpty then .ok .unknown else .error .mismatched)
        fun fs => readItems read fs items .closed
  | d => .error d.mismatch

def readTexts : KeyMap String → List (Option String × Draft) → Except Flaw (KeyMap String)
  | found, [] => .ok found
  | found, (name, value) :: rest => do
      let name ← Draft.readName name
      let text ← value.readText
      readTexts (found.insert name text) rest

def enter {α : Type} (room : Nat) (read : Except Flaw α) : Except Flaw α :=
  if room = 0 then .error .malformed else read

-- Reads a value where `room` more containers may be opened; what stands inside
-- the first of them is read by `inner`, as part of a payload or not.
def readLevel (held : Bool) (room : Nat) (inner : Bool → Reader) : Reader
  | .bool, d => d.readBool
  | .int32, d => do return Int32.ofInt (← d.readInt (-0x80000000) 0x7fffffff)
  | .int64, d => do return Int64.ofInt (← d.readInt (-0x8000000000000000) 0x7fffffffffffffff)
  | .uint64, d => do return UInt64.ofNat (← d.readInt 0 0xffffffffffffffff).toNat
  | .text, d => d.readText
  | .time, d => do
      match Timestamp.ofText? (← d.readText) with
      | some t => .ok t
      | none => .error .mismatched
  | .texts, .record members stop => enter room do
      let found ← readTexts ∅ members
      stop.ended
      return found
  | .texts, d => .error d.mismatch
  | .choice _, d => readWord held room d
  | .message m, .record members stop => enter room do
      return m.layout.pack (← readRecord (inner held) m.layout.fields members stop)
  | .message m, .list items stop => enter room do
      return m.layout.pack (← readItems (inner held) m.layout.fields items stop)
  | .message _, d => .error d.mismatch
  | .payload, .record members stop =>
      enter room (readPayload (room - 1) (inner true) (.record members stop))
  | .payload, .list items stop =>
      enter room (readPayload (room - 1) (inner true) (.list items stop))
  | .payload, d => .error d.mismatch
  | .list item, .list items stop => enter room do
      let values ← items.mapM (inner held item)
      stop.ended
      return values
  | .list _, d => .error d.mismatch

def read : Nat → Bool → Reader
  | 0, held => readLevel held 0 fun _ _ _ => .error .malformed
  | room + 1, held => readLevel held (room + 1) (read room)

def readValue (base : Base) (text : String) : Except Flaw base.Value :=
  Draft.readText? (read depthLimit false base) text

def readMessage (m : Message) (text : String) : Except Flaw m.Type :=
  readValue (.message m) text

end BuildDigest.Wire

namespace BuildDigest

def Event.ofText? (text : String) : Except Flaw Event :=
  Wire.readMessage .event text

end BuildDigest
