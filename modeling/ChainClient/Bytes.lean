/-!
# Byte strings

Byte strings as lists of bytes, and the big-endian reading of a natural number.
-/

namespace ChainClient

/-- A byte string. -/
abbrev Bytes := List UInt8

namespace Bytes

/-- The number a byte string denotes when its first byte is the most significant one. -/
def toNat (bytes : Bytes) : Nat :=
  bytes.foldl (fun n byte => 256 * n + byte.toNat) 0

/-- The `width` low bytes of a number, most significant first. -/
def ofNatWidth : (width : Nat) → Nat → Bytes
  | 0, _ => []
  | width + 1, n => ofNatWidth width (n / 256) ++ [UInt8.ofNat n]

/-- How many numbers `width` bytes can denote. -/
abbrev capacity (width : Nat) : Nat :=
  Nat.pow 256 width

/-- The number that the `width` low bytes of a number denote. -/
def truncate (width n : Nat) : Fin (capacity width) :=
  ⟨n % capacity width, Nat.mod_lt _ (Nat.pow_pos (by decide))⟩

/-- How many bytes a number takes when no leading byte is zero. -/
def widthOf (n : Nat) : Nat :=
  if n = 0 then 0 else n.log2 / 8 + 1

/-- The shortest big-endian form of a number; zero takes no byte. -/
def ofNat (n : Nat) : Bytes :=
  ofNatWidth (widthOf n) n

/-- The number a byte string denotes when its first byte is the least significant one. -/
def toNatLittle (bytes : Bytes) : Nat :=
  toNat bytes.reverse

/-- The `width` low bytes of a number, least significant first. -/
def ofNatLittle (width n : Nat) : Bytes :=
  (ofNatWidth width n).reverse

@[simp] theorem toNat_nil : toNat [] = 0 := rfl

@[simp] theorem toNat_append_singleton (bytes : Bytes) (byte : UInt8) :
    toNat (bytes ++ [byte]) = 256 * toNat bytes + byte.toNat := by
  simp [toNat]

@[simp] theorem length_ofNatWidth (width n : Nat) : (ofNatWidth width n).length = width := by
  induction width generalizing n with
  | zero => rfl
  | succ width ih => simp [ofNatWidth, ih]

/-- Reading what was written gives the number back, less the bytes that did not fit. -/
@[simp] theorem toNat_ofNatWidth (width n : Nat) :
    toNat (ofNatWidth width n) = n % capacity width := by
  induction width generalizing n with
  | zero => simp [ofNatWidth, capacity, Nat.mod_one]
  | succ width ih =>
    have further : capacity (width + 1) = 256 * capacity width := Nat.mul_comm _ _
    rw [ofNatWidth, toNat_append_singleton, ih, further, Nat.mod_mul]
    simp
    omega

end Bytes

end ChainClient
