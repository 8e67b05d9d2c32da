import ChainClient.Bytes

/-!
# Nonces

A nonce is a number below 2^256 that makes a transaction unique. It is no counter: it is made from
fresh entropy.
-/

namespace ChainClient

/-- A number that makes a transaction unique. -/
abbrev Nonce := Fin (Bytes.capacity 32)

namespace Nonce

/-- The nonce of 32 bytes of entropy. -/
def ofEntropy (entropy : Bytes) : Nonce :=
  Bytes.truncate 32 entropy.toNat

end Nonce

end ChainClient
