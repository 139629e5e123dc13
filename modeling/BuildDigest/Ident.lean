import BuildDigest.Hash.Blake3
import BuildDigest.Hash.Sha1

set_option autoImplicit false

namespace BuildDigest

namespace Ident

def source (kind : String) (parts : List String) : String :=
  parts.foldl (fun text part => text ++ "|" ++ part) kind

-- The id of a problem: the first twelve bytes of the hash of its source, behind a mark.
def ofProblem (kind : String) (parts : List String) : String :=
  "prb-" ++ String.ofList (Hash.hex ((Hash.Blake3.digest (Hash.utf8 (source kind parts))).take 12))

end Ident

structure Uuid where
  a : UInt32
  b : UInt32
  c : UInt32
  d : UInt32
  deriving DecidableEq

namespace Uuid

-- The name space of addresses, 6ba7b811-9dad-11d1-80b4-00c04fd430c8.
def addresses : Uuid :=
  ⟨0x6ba7b811, 0x9dad11d1, 0x80b400c0, 0x4fd430c8⟩

def bytes (u : Uuid) : List UInt8 :=
  [u.a, u.b, u.c, u.d].flatMap Hash.bigOfWord

def ofName (space : Uuid) (name : String) : Uuid :=
  let h := Hash.Sha1.digest (space.bytes ++ Hash.utf8 name)
  ⟨h.a, (h.b &&& 0xffff0fff) ||| 0x5000, (h.c &&& 0x3fffffff) ||| 0x80000000, h.d⟩

def ofAddress (address : String) : Uuid :=
  ofName addresses address

def text (u : Uuid) : String :=
  let digits := Hash.hex u.bytes
  let group := fun (start length : Nat) => (digits.drop start).take length
  String.ofList (group 0 8 ++ '-' :: group 8 4 ++ '-' :: group 12 4 ++ '-' :: group 16 4 ++
    '-' :: group 20 12)

end Uuid

end BuildDigest
