import ChainClient.Digest.Word

/-!
# Keccak-256

The sponge of 1600 bits with a rate of 136 bytes and the original padding: a single one bit behind
the message and one at the end of its last block.
-/

namespace ChainClient

namespace Digest

namespace Keccak

/-- The bytes of a block. -/
def rate : Nat := 136

/-- The constants that distinguish the rounds. -/
def roundConstants : List UInt64 :=
  [0x0000000000000001, 0x0000000000008082, 0x800000000000808A, 0x8000000080008000,
    0x000000000000808B, 0x0000000080000001, 0x8000000080008081, 0x8000000000008009,
    0x000000000000008A, 0x0000000000000088, 0x0000000080008009, 0x000000008000000A,
    0x000000008000808B, 0x800000000000008B, 0x8000000000008089, 0x8000000000008003,
    0x8000000000008002, 0x8000000000000080, 0x000000000000800A, 0x800000008000000A,
    0x8000000080008081, 0x8000000000008080, 0x0000000080000001, 0x8000000080008008]

/-- How far each lane is rotated; lane `x + 5 * y` stands in column `x` of row `y`. -/
def rotations : List Nat :=
  [0, 1, 62, 28, 27, 36, 44, 6, 55, 20, 3, 10, 43, 25, 39, 41, 45, 15, 21, 8, 18, 2, 61, 56, 14]

/-- A lane of the state. -/
def lane (state : List UInt64) (x y : Nat) : UInt64 :=
  state.getD (x % 5 + 5 * (y % 5)) 0

/-- A state from its lanes. -/
def ofLanes (f : Nat → Nat → UInt64) : List UInt64 :=
  (List.range 25).map fun i => f (i % 5) (i / 5)

/-- Adds to each lane the parities of two neighbouring columns. -/
def mixColumns (state : List UInt64) : List UInt64 :=
  let parity := (List.range 5).map fun x => (List.range 5).foldl (fun p y => p ^^^ lane state x y) 0
  let effect := (List.range 5).map fun x =>
    parity.getD ((x + 4) % 5) 0 ^^^ rotateLeft (parity.getD ((x + 1) % 5) 0) 1
  ofLanes fun x y => lane state x y ^^^ effect.getD x 0

/-- Rotates the lanes and moves each to its new place. -/
def moveLanes (state : List UInt64) : List UInt64 :=
  let rotated := state.zipWith rotateLeft rotations
  ofLanes fun x y => lane rotated (x + 3 * y) x

/-- Combines each lane with the two behind it in its row. -/
def mixRows (state : List UInt64) : List UInt64 :=
  ofLanes fun x y => lane state x y ^^^ (~~~ lane state (x + 1) y &&& lane state (x + 2) y)

/-- One round. -/
def round (state : List UInt64) (constant : UInt64) : List UInt64 :=
  match mixRows (moveLanes (mixColumns state)) with
  | first :: rest => (first ^^^ constant) :: rest
  | [] => []

/-- The permutation of the state. -/
def permute (state : List UInt64) : List UInt64 :=
  roundConstants.foldl round state

/-- The message behind which the padding fills the last block. -/
def pad (message : Bytes) : Bytes :=
  let missing := rate - message.length % rate
  if missing = 1 then message ++ [0x81]
  else message ++ [0x01] ++ List.replicate (missing - 2) 0 ++ [0x80]

/-- Takes one block into the state. -/
def absorb (state : List UInt64) (block : Bytes) : List UInt64 :=
  permute (xorWords state (littleWords block ++ List.replicate 8 0))

end Keccak

/-- The Keccak-256 digest of a message. -/
def keccak256 (message : Bytes) : Bytes :=
  let state := (chunks Keccak.rate (Keccak.pad message)).foldl Keccak.absorb (List.replicate 25 0)
  (ofLittleWords state).take 32

end Digest

end ChainClient
