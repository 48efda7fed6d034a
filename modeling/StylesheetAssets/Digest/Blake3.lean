/-!
The hash function BLAKE3 with its default output of 256 bits.

Input is cut into chunks of 1024 bytes and these into blocks of 64. Each chunk is compressed
block by block; the chunks are the leaves of a binary tree whose left subtrees are full.
-/
namespace StylesheetAssets.Digest.Blake3

abbrev Block := Vector UInt32 16
abbrev Chaining := Vector UInt32 8

def initial : Chaining :=
  #v[0x6A09E667, 0xBB67AE85, 0x3C6EF372, 0xA54FF53A, 0x510E527F, 0x9B05688C, 0x1F83D9AB, 0x5BE0CD19]

/-- Where each word of the next round's message comes from. -/
def permutation : Vector (Fin 16) 16 := #v[2, 6, 3, 10, 7, 0, 4, 13, 1, 11, 12, 5, 9, 14, 15, 8]

def permute (message : Block) : Block := permutation.map fun i => message[i]

def rotateRight (word : UInt32) (count : UInt32) : UInt32 :=
  (word >>> count) ||| (word <<< (32 - count))

/-- The quarter round on the words `a b c d` of the state, fed two message words. -/
def mix (v : Block) (a b c d : Fin 16) (x y : UInt32) : Block :=
  let v := v.set a (v[a] + v[b] + x)
  let v := v.set d (rotateRight (v[d] ^^^ v[a]) 16)
  let v := v.set c (v[c] + v[d])
  let v := v.set b (rotateRight (v[b] ^^^ v[c]) 12)
  let v := v.set a (v[a] + v[b] + y)
  let v := v.set d (rotateRight (v[d] ^^^ v[a]) 8)
  let v := v.set c (v[c] + v[d])
  v.set b (rotateRight (v[b] ^^^ v[c]) 7)

/-- Mixes the columns of the state, then its diagonals. -/
def round (v m : Block) : Block :=
  let v := mix v 0 4 8 12 m[0] m[1]
  let v := mix v 1 5 9 13 m[2] m[3]
  let v := mix v 2 6 10 14 m[4] m[5]
  let v := mix v 3 7 11 15 m[6] m[7]
  let v := mix v 0 5 10 15 m[8] m[9]
  let v := mix v 1 6 11 12 m[10] m[11]
  let v := mix v 2 7 8 13 m[12] m[13]
  mix v 3 4 9 14 m[14] m[15]

def rounds : Nat → Block → Block → Block
  | 0, v, _ => v
  | n + 1, v, m => rounds n (round v m) (permute m)

def chunkStart : UInt32 := 1
def chunkEnd : UInt32 := 2
def parentNode : UInt32 := 4
def rootNode : UInt32 := 8

/-- A compression that is still to be done: whether it is the root decides its flags. -/
structure Output where
  chaining : Chaining
  block : Block
  counter : Nat
  length : Nat
  flags : UInt32

/-- The first half of the compressed state. -/
def Output.compress (o : Output) (flags : UInt32) : Chaining :=
  let h := o.chaining
  let state : Block :=
    #v[h[0], h[1], h[2], h[3], h[4], h[5], h[6], h[7],
      initial[0], initial[1], initial[2], initial[3],
      o.counter.toUInt32, (o.counter / 0x100000000).toUInt32, o.length.toUInt32, flags]
  let final := rounds 7 state o.block
  Vector.ofFn fun i : Fin 8 => final[i.val] ^^^ final[i.val + 8]

def Output.chainingValue (o : Output) : Chaining := o.compress o.flags

def Output.root (o : Output) : Chaining := o.compress (o.flags ||| rootNode)

def byteAt (data : ByteArray) (i : Nat) : UInt8 := if h : i < data.size then data[i] else 0

/-- The little-endian words of 64 bytes, zeros standing for bytes past the end. -/
def blockAt (data : ByteArray) (start : Nat) : Block :=
  Vector.ofFn fun i : Fin 16 =>
    let at' := start + 4 * i.val
    (byteAt data at').toUInt32 ||| ((byteAt data (at' + 1)).toUInt32 <<< 8) |||
      ((byteAt data (at' + 2)).toUInt32 <<< 16) ||| ((byteAt data (at' + 3)).toUInt32 <<< 24)

/-- Compresses the blocks of one chunk up to its last, which stays to be done. -/
def chunk (data : ByteArray) (index : Nat) : Output :=
  let start := 1024 * index
  let size := min 1024 (data.size - start)
  let last := (size - 1) / 64
  let chained := (List.range last).foldl (fun (h : Chaining) k =>
    Output.chainingValue
      ⟨h, blockAt data (start + 64 * k), index, 64, if k = 0 then chunkStart else 0⟩) initial
  ⟨chained, blockAt data (start + 64 * last), index, size - 64 * last,
    chunkEnd ||| (if last = 0 then chunkStart else 0)⟩

def parent (left right : Chaining) : Output :=
  ⟨initial, left ++ right, 0, 64, parentNode⟩

/-- The number of chunks on the left of a tree: the largest power of two that leaves something to
the right. -/
def leftSize (count : Nat) : Nat := Nat.pow 2 (count - 1).log2

theorem leftSize_pos (count : Nat) : 0 < leftSize count := Nat.two_pow_pos _

theorem leftSize_lt {count : Nat} (h : ¬count ≤ 1) : leftSize count < count := by
  have : leftSize count ≤ count - 1 := Nat.log2_self_le (by omega)
  omega

/-- The subtree over `count` chunks from `first` on. -/
def tree (data : ByteArray) (first count : Nat) : Output :=
  if _single : count ≤ 1 then chunk data first
  else
    parent (tree data first (leftSize count)).chainingValue
      (tree data (first + leftSize count) (count - leftSize count)).chainingValue
termination_by count
decreasing_by
  · exact leftSize_lt _single
  · have := leftSize_pos count
    omega

def wordBytes (w : UInt32) : Vector UInt8 4 :=
  #v[w.toUInt8, (w >>> 8).toUInt8, (w >>> 16).toUInt8, (w >>> 24).toUInt8]

def hash (data : ByteArray) : Vector UInt8 32 :=
  let words := (tree data 0 ((data.size + 1023) / 1024)).root
  Vector.ofFn fun i : Fin 32 => (wordBytes words[i.val / 4])[i.val % 4]

end StylesheetAssets.Digest.Blake3
