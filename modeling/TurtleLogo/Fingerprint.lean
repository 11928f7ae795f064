import TurtleLogo.Text

/-!
# Fingerprints

A program is known by the BLAKE3 digest of its text, 32 bytes written in hexadecimal. The text is
cut into chunks of 1024 bytes, a chunk into blocks of 64; the compression function chains the blocks
of a chunk, and the chunks are joined pairwise into a binary tree whose left subtrees are complete.
-/

set_option autoImplicit false

namespace TurtleLogo

namespace Fingerprint

structure Row where
  a : UInt32
  b : UInt32
  c : UInt32
  d : UInt32
  deriving DecidableEq, Repr

structure Chaining where
  low : Row
  high : Row
  deriving DecidableEq, Repr

structure State where
  r0 : Row
  r1 : Row
  r2 : Row
  r3 : Row

def initial : Chaining :=
  ⟨⟨0x6A09E667, 0xBB67AE85, 0x3C6EF372, 0xA54FF53A⟩,
    ⟨0x510E527F, 0x9B05688C, 0x1F83D9AB, 0x5BE0CD19⟩⟩

def rotateRight (w : UInt32) (n : UInt32) : UInt32 :=
  (w >>> n) ||| (w <<< (32 - n))

def mix (column : Row) (x y : UInt32) : Row :=
  let a := column.a + column.b + x
  let d := rotateRight (column.d ^^^ a) 16
  let c := column.c + d
  let b := rotateRight (column.b ^^^ c) 12
  let a := a + b + y
  let d := rotateRight (d ^^^ a) 8
  let c := c + d
  let b := rotateRight (b ^^^ c) 7
  ⟨a, b, c, d⟩

def word (message : Array UInt32) (i : Nat) : UInt32 :=
  message.getD i 0

def round (s : State) (m : Array UInt32) : State :=
  let p := mix ⟨s.r0.a, s.r1.a, s.r2.a, s.r3.a⟩ (word m 0) (word m 1)
  let q := mix ⟨s.r0.b, s.r1.b, s.r2.b, s.r3.b⟩ (word m 2) (word m 3)
  let r := mix ⟨s.r0.c, s.r1.c, s.r2.c, s.r3.c⟩ (word m 4) (word m 5)
  let t := mix ⟨s.r0.d, s.r1.d, s.r2.d, s.r3.d⟩ (word m 6) (word m 7)
  let i := mix ⟨p.a, q.b, r.c, t.d⟩ (word m 8) (word m 9)
  let j := mix ⟨q.a, r.b, t.c, p.d⟩ (word m 10) (word m 11)
  let k := mix ⟨r.a, t.b, p.c, q.d⟩ (word m 12) (word m 13)
  let l := mix ⟨t.a, p.b, q.c, r.d⟩ (word m 14) (word m 15)
  ⟨⟨i.a, j.a, k.a, l.a⟩, ⟨l.b, i.b, j.b, k.b⟩, ⟨k.c, l.c, i.c, j.c⟩, ⟨j.d, k.d, l.d, i.d⟩⟩

/-- The order in which the next round takes the message words. -/
def schedule : List Nat :=
  [2, 6, 3, 10, 7, 0, 4, 13, 1, 11, 12, 5, 9, 14, 15, 8]

def rounds : (count : Nat) → State → Array UInt32 → State
  | 0, s, _ => s
  | count + 1, s, m => rounds count (round s m) (schedule.map (word m)).toArray

def Row.xor (p q : Row) : Row :=
  ⟨p.a ^^^ q.a, p.b ^^^ q.b, p.c ^^^ q.c, p.d ^^^ q.d⟩

/-- What is compressed in one go: a block of up to 64 bytes, its place and its role. -/
structure Node where
  input : Chaining
  block : Text
  counter : Nat
  flags : UInt32

def wordOfBytes (bytes : Text) : UInt32 :=
  bytes.foldr (fun b w => w * 256 + b.toUInt32) 0

def wordsFrom : (count : Nat) → Text → List UInt32
  | 0, _ => []
  | count + 1, bytes => wordOfBytes (bytes.take 4) :: wordsFrom count (bytes.drop 4)

def compress (n : Node) : Chaining :=
  let state : State :=
    ⟨n.input.low, n.input.high, initial.low,
      ⟨UInt32.ofNat n.counter, UInt32.ofNat (n.counter / Nat.pow 2 32),
        UInt32.ofNat n.block.length, n.flags⟩⟩
  let s := rounds 7 state (wordsFrom 16 n.block).toArray
  ⟨s.r0.xor s.r2, s.r1.xor s.r3⟩

def chunkStart : UInt32 := 1
def chunkEnd : UInt32 := 2
def parent : UInt32 := 4
def root : UInt32 := 8

/-- Chains the blocks of a chunk up to its last one, which is left to be compressed. -/
def chunkNode (counter : Nat) (input : Chaining) (flags : UInt32) (bytes : Text) : Node :=
  if bytes.length ≤ 64 then ⟨input, bytes, counter, flags ||| chunkEnd⟩
  else
    chunkNode counter (compress ⟨input, bytes.take 64, counter, flags⟩) 0 (bytes.drop 64)
termination_by bytes.length
decreasing_by simp only [List.length_drop]; omega

def bytesOfWord (w : UInt32) : Text :=
  [w.toUInt8, (w >>> 8).toUInt8, (w >>> 16).toUInt8, (w >>> 24).toUInt8]

def Row.bytes (r : Row) : Text :=
  bytesOfWord r.a ++ bytesOfWord r.b ++ bytesOfWord r.c ++ bytesOfWord r.d

def Chaining.bytes (c : Chaining) : Text :=
  c.low.bytes ++ c.high.bytes

/-- The bytes of the left subtree: the most chunks that are a power of two and leave something. -/
def leftLength (length : Nat) : Nat :=
  1024 * Nat.pow 2 ((length - 1) / 1024).log2

theorem leftLength_pos (length : Nat) : 0 < leftLength length :=
  Nat.mul_pos (by decide) (Nat.pow_pos (by decide))

theorem leftLength_lt {length : Nat} (long : 1024 < length) : leftLength length < length := by
  have nonzero : (length - 1) / 1024 ≠ 0 := by omega
  have := Nat.log2_self_le nonzero
  rw [leftLength, Nat.pow_eq]
  omega

def treeNode (counter : Nat) (bytes : Text) : Node :=
  if long : 1024 < bytes.length then
    let left := leftLength bytes.length
    have := leftLength_pos bytes.length
    have := leftLength_lt long
    let first := compress (treeNode counter (bytes.take left))
    let second := compress (treeNode (counter + left / 1024) (bytes.drop left))
    ⟨initial, first.bytes ++ second.bytes, 0, parent⟩
  else chunkNode counter initial chunkStart bytes
termination_by bytes.length
decreasing_by
  · simp only [List.length_take]; omega
  · simp only [List.length_drop]; omega

def digest (t : Text) : Text :=
  let n := treeNode 0 t
  (compress { n with flags := n.flags ||| root }).bytes

def of (t : Text) : Text :=
  Text.hexBytes (digest t)

end Fingerprint

end TurtleLogo
