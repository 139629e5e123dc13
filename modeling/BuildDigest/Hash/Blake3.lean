import BuildDigest.Hash.Bytes

set_option autoImplicit false

namespace BuildDigest.Hash.Blake3

abbrev Chain := Vector UInt32 8

abbrev Block := Vector UInt32 16

def initial : Chain :=
  #v[0x6a09e667, 0xbb67ae85, 0x3c6ef372, 0xa54ff53a, 0x510e527f, 0x9b05688c, 0x1f83d9ab, 0x5be0cd19]

def chunkStart : UInt32 := 1
def chunkEnd : UInt32 := 2
def parent : UInt32 := 4
def root : UInt32 := 8

def mix (v : Block) (a b c d : Fin 16) (x y : UInt32) : Block :=
  let v := v.set a (v[a] + v[b] + x)
  let v := v.set d (rotateRight (v[d] ^^^ v[a]) 16)
  let v := v.set c (v[c] + v[d])
  let v := v.set b (rotateRight (v[b] ^^^ v[c]) 12)
  let v := v.set a (v[a] + v[b] + y)
  let v := v.set d (rotateRight (v[d] ^^^ v[a]) 8)
  let v := v.set c (v[c] + v[d])
  v.set b (rotateRight (v[b] ^^^ v[c]) 7)

def mixAll (v m : Block) : Block :=
  let v := mix v 0 4 8 12 m[0] m[1]
  let v := mix v 1 5 9 13 m[2] m[3]
  let v := mix v 2 6 10 14 m[4] m[5]
  let v := mix v 3 7 11 15 m[6] m[7]
  let v := mix v 0 5 10 15 m[8] m[9]
  let v := mix v 1 6 11 12 m[10] m[11]
  let v := mix v 2 7 8 13 m[12] m[13]
  mix v 3 4 9 14 m[14] m[15]

def permute (m : Block) : Block :=
  #v[m[2], m[6], m[3], m[10], m[7], m[0], m[4], m[13], m[1], m[11], m[12], m[5], m[9], m[14], m[15],
    m[8]]

def rounds : Nat → Block → Block → Block
  | 0, v, _ => v
  | n + 1, v, m => rounds n (mixAll v m) (permute m)

structure Node where
  chain : Chain
  block : Block
  counter : UInt64
  length : UInt32
  flags : UInt32

def Node.compress (n : Node) (mark : UInt32) : Chain :=
  let start : Block := #v[n.chain[0], n.chain[1], n.chain[2], n.chain[3], n.chain[4], n.chain[5],
    n.chain[6], n.chain[7], initial[0], initial[1], initial[2], initial[3], n.counter.toUInt32,
    (n.counter >>> 32).toUInt32, n.length, n.flags ||| mark]
  let v := rounds 7 start n.block
  #v[v[0] ^^^ v[8], v[1] ^^^ v[9], v[2] ^^^ v[10], v[3] ^^^ v[11], v[4] ^^^ v[12], v[5] ^^^ v[13],
    v[6] ^^^ v[14], v[7] ^^^ v[15]]

def wordsOf (bytes : List UInt8) : Block :=
  let padded := bytes.toArray
  Vector.ofFn fun i =>
    let byte := fun (k : Nat) => padded.getD (4 * i.val + k) 0
    wordOfLittle (byte 0) (byte 1) (byte 2) (byte 3)

def blockNode (chain : Chain) (counter : UInt64) (flags : UInt32) (bytes : List UInt8) : Node :=
  ⟨chain, wordsOf bytes, counter, UInt32.ofNat bytes.length, flags⟩

-- The last block of a chunk, after the others have been compressed into its chain.
def chunkNode (counter : UInt64) : Chain → UInt32 → List (List UInt8) → Node
  | chain, flags, [] => blockNode chain counter (flags ||| chunkEnd) []
  | chain, flags, [last] => blockNode chain counter (flags ||| chunkEnd) last
  | chain, flags, block :: rest =>
      chunkNode counter ((blockNode chain counter flags block).compress 0) 0 rest

def leaves : UInt64 → List (List UInt8) → List Node
  | _, [] => []
  | counter, chunk :: rest =>
      chunkNode counter initial chunkStart (parts 64 chunk) :: leaves (counter + 1) rest

def join (left right : Node) : Node :=
  ⟨initial, (left.compress 0 ++ right.compress 0).cast rfl, 0, 64, parent⟩

def joinLevel : List Node → List Node
  | left :: right :: rest => join left right :: joinLevel rest
  | nodes => nodes

-- The root of the tree over `nodes`; each level is at most
-- half as wide as the one below, rounded up.
def rootOf (first : Node) : Nat → List Node → Node
  | _, [] => first
  | _, [node] => node
  | 0, node :: _ => node
  | levels + 1, nodes => rootOf first levels (joinLevel nodes)

def digest (bytes : List UInt8) : List UInt8 :=
  let nodes := leaves 0 (parts 1024 bytes)
  let top := rootOf (chunkNode 0 initial chunkStart []) nodes.length nodes
  (top.compress root).toList.flatMap littleOfWord

end BuildDigest.Hash.Blake3
