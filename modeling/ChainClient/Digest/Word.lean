import ChainClient.Bytes

/-!
# Words of digests

The 32-bit and 64-bit words on which digests compute, their rotations, and byte strings cut into
words and blocks.
-/

namespace ChainClient

namespace Digest

/-- Rotation to the left. -/
def rotateLeft (word : UInt64) (count : Nat) : UInt64 :=
  if count % 64 = 0 then word
  else word <<< UInt64.ofNat (count % 64) ||| word >>> UInt64.ofNat (64 - count % 64)

/-- Rotation to the right. -/
def rotateRight (word : UInt64) (count : Nat) : UInt64 :=
  rotateLeft word (64 - count % 64)

/-- Rotation of a 32-bit word to the right. -/
def rotateRight32 (word : UInt32) (count : Nat) : UInt32 :=
  if count % 32 = 0 then word
  else word >>> UInt32.ofNat (count % 32) ||| word <<< UInt32.ofNat (32 - count % 32)

/-- A byte string cut into pieces of `size` bytes; `fuel` bounds the number of pieces. -/
def chunksWith (size : Nat) : (fuel : Nat) → Bytes → List Bytes
  | 0, _ => []
  | _ + 1, [] => []
  | fuel + 1, bytes => bytes.take size :: chunksWith size fuel (bytes.drop size)

/-- A byte string cut into pieces of `size` bytes, the last of which may be shorter. -/
def chunks (size : Nat) (bytes : Bytes) : List Bytes :=
  chunksWith size bytes.length bytes

/-- The 64-bit words of a byte string, low byte first. -/
def littleWords (bytes : Bytes) : List UInt64 :=
  (chunks 8 bytes).map fun piece => UInt64.ofNat (Bytes.toNatLittle piece)

/-- The bytes of 64-bit words, low byte first. -/
def ofLittleWords (words : List UInt64) : Bytes :=
  words.flatMap fun word => Bytes.ofNatLittle 8 word.toNat

/-- The 64-bit words of a byte string, high byte first. -/
def bigWords (bytes : Bytes) : List UInt64 :=
  (chunks 8 bytes).map fun piece => UInt64.ofNat (Bytes.toNat piece)

/-- The bytes of 64-bit words, high byte first. -/
def ofBigWords (words : List UInt64) : Bytes :=
  words.flatMap fun word => Bytes.ofNatWidth 8 word.toNat

/-- The 32-bit words of a byte string, high byte first. -/
def bigWords32 (bytes : Bytes) : List UInt32 :=
  (chunks 4 bytes).map fun piece => UInt32.ofNat (Bytes.toNat piece)

/-- The bytes of 32-bit words, high byte first. -/
def ofBigWords32 (words : List UInt32) : Bytes :=
  words.flatMap fun word => Bytes.ofNatWidth 4 word.toNat

/-- Words of two lists combined position by position by exclusive or. -/
def xorWords (left right : List UInt64) : List UInt64 :=
  left.zipWith (· ^^^ ·) right

end Digest

end ChainClient
