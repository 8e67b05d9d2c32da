import ChainClient.Bytes

/-!
# Varints

A natural number as groups of seven bits, the lowest first, one in each byte; the high bit of a byte
says that another one follows. Writing takes as few bytes as possible; reading takes any form that
is not too long.
-/

namespace ChainClient

namespace Wire

namespace Varint

/-- The most bytes of a varint. -/
def maxBytes : Nat := 10

/-- Reads a varint of at most `most` bytes. -/
def read? : (most : Nat) → Bytes → Option (Nat × Bytes)
  | 0, _ => none
  | _ + 1, [] => none
  | most + 1, byte :: rest =>
    if byte.toNat < 128 then some (byte.toNat, rest)
    else match read? most rest with
      | some (high, rest) => some (byte.toNat - 128 + 128 * high, rest)
      | none => none

/-- Writes a number in at most `most` bytes; bits past the last byte are lost. -/
def write : (most : Nat) → Nat → Bytes
  | 0, _ => []
  | most + 1, n =>
    if n < 128 then [UInt8.ofNat n] else UInt8.ofNat (128 + n % 128) :: write most (n / 128)

/-- A varint read as a 64-bit number; higher bits are dropped. -/
def read64? (input : Bytes) : Option (UInt64 × Bytes) :=
  (read? maxBytes input).map fun (n, rest) => (UInt64.ofNat n, rest)

/-- The varint of a 64-bit number. -/
def write64 (n : UInt64) : Bytes :=
  write maxBytes n.toNat

/-- Reading what was written gives the number back and leaves what follows. -/
theorem read?_write (most n : Nat) (rest : Bytes) (fits : n < Nat.pow 128 most) (positive : 0 < most) :
    read? most (write most n ++ rest) = some (n, rest) := by
  induction most generalizing n with
  | zero => omega
  | succ most ih =>
    by_cases small : n < 128
    · have byte : (UInt8.ofNat n).toNat = n := by simp; omega
      simp [write, read?, small, byte]
    · have byte : (UInt8.ofNat (128 + n % 128)).toNat = 128 + n % 128 := by simp; omega
      have more : 0 < most := by
        rcases most with _ | most
        · simp at fits; omega
        · omega
      have high : n / 128 < Nat.pow 128 most :=
        Nat.div_lt_of_lt_mul (Nat.mul_comm _ _ ▸ fits)
      have large : ¬ 128 + n % 128 < 128 := by omega
      simp only [write, small, if_false, List.cons_append, read?, byte, large, ih _ high more]
      congr 2
      omega

@[simp] theorem read64?_write64 (n : UInt64) (rest : Bytes) :
    read64? (write64 n ++ rest) = some (n, rest) := by
  have fits : n.toNat < Nat.pow 128 maxBytes := Nat.lt_trans n.toNat_lt (by decide)
  simp [read64?, write64, read?_write _ _ _ fits (by decide)]

end Varint

end Wire

end ChainClient
