import ChainClient.Digest.Word

/-!
# BLAKE2b

BLAKE2b without key and salt, with a digest of one to 64 bytes and a personalization of 16 bytes.
-/

namespace ChainClient

namespace Digest

/-- The initial words that BLAKE2b and SHA-512 share: fractions of square roots of primes. -/
def initialWords : List UInt64 :=
  [0x6A09E667F3BCC908, 0xBB67AE8584CAA73B, 0x3C6EF372FE94F82B, 0xA54FF53A5F1D36F1,
    0x510E527FADE682D1, 0x9B05688C2B3E6C1F, 0x1F83D9ABFB41BD6B, 0x5BE0CD19137E2179]

namespace Blake2b

/-- The order in which each round takes the words of the message. -/
def schedule : List (List Nat) :=
  [[0, 1, 2, 3, 4, 5, 6, 7, 8, 9, 10, 11, 12, 13, 14, 15],
    [14, 10, 4, 8, 9, 15, 13, 6, 1, 12, 0, 2, 11, 7, 5, 3],
    [11, 8, 12, 0, 5, 2, 15, 13, 10, 14, 3, 6, 7, 1, 9, 4],
    [7, 9, 3, 1, 13, 12, 11, 14, 2, 6, 5, 10, 4, 0, 15, 8],
    [9, 0, 5, 7, 2, 4, 10, 15, 14, 1, 11, 12, 6, 8, 3, 13],
    [2, 12, 6, 10, 0, 11, 8, 3, 4, 13, 7, 5, 15, 14, 1, 9],
    [12, 5, 1, 15, 14, 13, 4, 10, 0, 7, 6, 3, 9, 2, 8, 11],
    [13, 11, 7, 14, 12, 1, 3, 9, 5, 0, 15, 4, 8, 6, 2, 10],
    [6, 15, 14, 9, 11, 3, 0, 8, 12, 2, 13, 7, 1, 4, 10, 5],
    [10, 2, 8, 4, 7, 6, 1, 5, 15, 11, 9, 14, 3, 12, 13, 0],
    [0, 1, 2, 3, 4, 5, 6, 7, 8, 9, 10, 11, 12, 13, 14, 15],
    [14, 10, 4, 8, 9, 15, 13, 6, 1, 12, 0, 2, 11, 7, 5, 3]]

/-- Four words of the working state that are mixed together. -/
structure Quad where
  a : UInt64
  b : UInt64
  c : UInt64
  d : UInt64

/-- Mixes one message word into four words, with two rotations. -/
def Quad.halfMix (q : Quad) (word : UInt64) (first second : Nat) : Quad :=
  let a := q.a + q.b + word
  let d := rotateRight (q.d ^^^ a) first
  let c := q.c + d
  let b := rotateRight (q.b ^^^ c) second
  ⟨a, b, c, d⟩

/-- Mixes two message words into four words. -/
def Quad.mix (q : Quad) (x y : UInt64) : Quad :=
  (q.halfMix x 32 24).halfMix y 16 63

/-- The working state, as the columns of four rows. -/
def columns (rows : List UInt64) (shift : Nat) : List Quad :=
  (List.range 4).map fun i =>
    ⟨rows.getD i 0, rows.getD (4 + (i + shift) % 4) 0, rows.getD (8 + (i + 2 * shift) % 4) 0,
      rows.getD (12 + (i + 3 * shift) % 4) 0⟩

/-- The working state whose columns were taken with the given shift. -/
def ofColumns (quads : List Quad) (shift : Nat) : List UInt64 :=
  let quad (i : Nat) := quads.getD (i % 4) ⟨0, 0, 0, 0⟩
  (List.range 4).map (fun i => (quad i).a) ++
    (List.range 4).map (fun i => (quad (i + 4 - shift)).b) ++
    (List.range 4).map (fun i => (quad (i + 4 - 2 * shift)).c) ++
    (List.range 4).map (fun i => (quad (i + 4 - 3 * shift)).d)

/-- Mixes eight message words into the columns, or the diagonals when they are shifted by one. -/
def halfRound (shift : Nat) (rows words : List UInt64) : List UInt64 :=
  let mixed := (List.range 4).zipWith (fun i (q : Quad) =>
    q.mix (words.getD (2 * i) 0) (words.getD (2 * i + 1) 0)) (columns rows shift)
  ofColumns mixed shift

/-- One round, with the message words in its order. -/
def round (message : List UInt64) (rows : List UInt64) (order : List Nat) : List UInt64 :=
  let words := order.map fun i => message.getD i 0
  halfRound 1 (halfRound 0 rows (words.take 8)) (words.drop 8)

/-- Takes one block into the chain value; `count` is the number of message bytes so far. -/
def compress (chain : List UInt64) (block : Bytes) (count : Nat) (last : Bool) : List UInt64 :=
  let message := littleWords (block ++ List.replicate (128 - block.length) 0)
  let low := UInt64.ofNat count
  let high := UInt64.ofNat (count / UInt64.size)
  let tail := match initialWords with
    | [i0, i1, i2, i3, i4, i5, i6, i7] =>
      [i0, i1, i2, i3, i4 ^^^ low, i5 ^^^ high, if last then ~~~ i6 else i6, i7]
    | _ => []
  let mixed := schedule.foldl (round message) (chain ++ tail)
  xorWords chain (xorWords (mixed.take 8) (mixed.drop 8))

/-- Takes the blocks into the chain value one after the other. -/
def compressAll (chain : List UInt64) (count : Nat) : List Bytes → List UInt64
  | [] => compress chain [] count true
  | [block] => compress chain block (count + block.length) true
  | block :: blocks =>
    compressAll (compress chain block (count + block.length) false) (count + block.length) blocks

/-- The first chain value: the parameters mixed into the initial words. -/
def start (digestSize : Nat) (person : Bytes) : List UInt64 :=
  let parameters := [UInt8.ofNat digestSize, 0, 1, 1] ++ List.replicate 44 0 ++ person
  xorWords initialWords (littleWords parameters)

end Blake2b

/-- The BLAKE2b digest of a message. -/
def blake2b (digestSize : Nat) (person message : Bytes) : Bytes :=
  (ofLittleWords (Blake2b.compressAll (Blake2b.start digestSize person) 0
    (chunks 128 message))).take digestSize

end Digest

end ChainClient
