import ChainClient.Digest.Blake2b

/-!
# SHA-2

SHA-256 and SHA-512: the padding, the message schedule and the rounds that both share in shape,
once with 32-bit and once with 64-bit words.
-/

namespace ChainClient

namespace Digest

namespace Sha2

/-- A message with its padding: a one bit, zeros, and the length in bits in `lengthBytes` bytes at
the end of the last block. -/
def pad (block lengthBytes : Nat) (message : Bytes) : Bytes :=
  let used := (message.length + 1 + lengthBytes) % block
  let zeros := (block - used) % block
  message ++ [0x80] ++ List.replicate zeros 0 ++ Bytes.ofNatWidth lengthBytes (8 * message.length)

/-- How a variant of SHA-2 computes on words of type `W`. -/
structure Variant (W : Type) where
  zero : W
  add : W → W → W
  xor : W → W → W
  and : W → W → W
  not : W → W
  /-- The two functions of the message schedule. -/
  scheduleSmall : W → W
  scheduleLarge : W → W
  /-- The two functions of the rounds. -/
  roundFirst : W → W
  roundSecond : W → W
  constants : List W

variable {W : Type}

/-- Extends the last sixteen words of a schedule, newest first, by `count` words. -/
def extend (v : Variant W) : (count : Nat) → (newestFirst : List W) → List W
  | 0, words => words
  | count + 1, words =>
    let word (back : Nat) := words.getD (back - 1) v.zero
    let next := v.add (v.add (v.scheduleLarge (word 2)) (word 7))
      (v.add (v.scheduleSmall (word 15)) (word 16))
    extend v count (next :: words)

/-- The eight words of the working state. -/
structure State (W : Type) where
  a : W
  b : W
  c : W
  d : W
  e : W
  f : W
  g : W
  h : W

/-- One round with a message word and its constant. -/
def round (v : Variant W) (s : State W) (word constant : W) : State W :=
  let choice := v.xor (v.and s.e s.f) (v.and (v.not s.e) s.g)
  let majority := v.xor (v.xor (v.and s.a s.b) (v.and s.a s.c)) (v.and s.b s.c)
  let first := v.add (v.add (v.add s.h (v.roundSecond s.e)) choice) (v.add constant word)
  let second := v.add (v.roundFirst s.a) majority
  ⟨v.add first second, s.a, s.b, s.c, v.add s.d first, s.e, s.f, s.g⟩

/-- The state of eight words. -/
def State.ofList (zero : W) (words : List W) : State W :=
  let word (i : Nat) := words.getD i zero
  ⟨word 0, word 1, word 2, word 3, word 4, word 5, word 6, word 7⟩

/-- The eight words of a state. -/
def State.toList (s : State W) : List W :=
  [s.a, s.b, s.c, s.d, s.e, s.f, s.g, s.h]

/-- Takes the sixteen words of one block into the chain value. -/
def compress (v : Variant W) (chain block : List W) : List W :=
  let words := (extend v (v.constants.length - 16) block.reverse).reverse
  let state := (words.zip v.constants).foldl (fun s pair => round v s pair.1 pair.2)
    (State.ofList v.zero chain)
  chain.zipWith v.add state.toList

/-- SHA-256. -/
def variant32 : Variant UInt32 where
  zero := 0
  add := (· + ·)
  xor := (· ^^^ ·)
  and := (· &&& ·)
  not := (~~~ ·)
  scheduleSmall w := rotateRight32 w 7 ^^^ rotateRight32 w 18 ^^^ w >>> 3
  scheduleLarge w := rotateRight32 w 17 ^^^ rotateRight32 w 19 ^^^ w >>> 10
  roundFirst w := rotateRight32 w 2 ^^^ rotateRight32 w 13 ^^^ rotateRight32 w 22
  roundSecond w := rotateRight32 w 6 ^^^ rotateRight32 w 11 ^^^ rotateRight32 w 25
  constants :=
    [0x428A2F98, 0x71374491, 0xB5C0FBCF, 0xE9B5DBA5, 0x3956C25B, 0x59F111F1, 0x923F82A4, 0xAB1C5ED5,
      0xD807AA98, 0x12835B01, 0x243185BE, 0x550C7DC3, 0x72BE5D74, 0x80DEB1FE, 0x9BDC06A7, 0xC19BF174,
      0xE49B69C1, 0xEFBE4786, 0x0FC19DC6, 0x240CA1CC, 0x2DE92C6F, 0x4A7484AA, 0x5CB0A9DC, 0x76F988DA,
      0x983E5152, 0xA831C66D, 0xB00327C8, 0xBF597FC7, 0xC6E00BF3, 0xD5A79147, 0x06CA6351, 0x14292967,
      0x27B70A85, 0x2E1B2138, 0x4D2C6DFC, 0x53380D13, 0x650A7354, 0x766A0ABB, 0x81C2C92E, 0x92722C85,
      0xA2BFE8A1, 0xA81A664B, 0xC24B8B70, 0xC76C51A3, 0xD192E819, 0xD6990624, 0xF40E3585, 0x106AA070,
      0x19A4C116, 0x1E376C08, 0x2748774C, 0x34B0BCB5, 0x391C0CB3, 0x4ED8AA4A, 0x5B9CCA4F, 0x682E6FF3,
      0x748F82EE, 0x78A5636F, 0x84C87814, 0x8CC70208, 0x90BEFFFA, 0xA4506CEB, 0xBEF9A3F7, 0xC67178F2]

/-- The first chain value of SHA-256. -/
def start32 : List UInt32 :=
  [0x6A09E667, 0xBB67AE85, 0x3C6EF372, 0xA54FF53A,
    0x510E527F, 0x9B05688C, 0x1F83D9AB, 0x5BE0CD19]

/-- SHA-512. -/
def variant64 : Variant UInt64 where
  zero := 0
  add := (· + ·)
  xor := (· ^^^ ·)
  and := (· &&& ·)
  not := (~~~ ·)
  scheduleSmall w := rotateRight w 1 ^^^ rotateRight w 8 ^^^ w >>> 7
  scheduleLarge w := rotateRight w 19 ^^^ rotateRight w 61 ^^^ w >>> 6
  roundFirst w := rotateRight w 28 ^^^ rotateRight w 34 ^^^ rotateRight w 39
  roundSecond w := rotateRight w 14 ^^^ rotateRight w 18 ^^^ rotateRight w 41
  constants :=
    [0x428A2F98D728AE22, 0x7137449123EF65CD, 0xB5C0FBCFEC4D3B2F, 0xE9B5DBA58189DBBC,
      0x3956C25BF348B538, 0x59F111F1B605D019, 0x923F82A4AF194F9B, 0xAB1C5ED5DA6D8118,
      0xD807AA98A3030242, 0x12835B0145706FBE, 0x243185BE4EE4B28C, 0x550C7DC3D5FFB4E2,
      0x72BE5D74F27B896F, 0x80DEB1FE3B1696B1, 0x9BDC06A725C71235, 0xC19BF174CF692694,
      0xE49B69C19EF14AD2, 0xEFBE4786384F25E3, 0x0FC19DC68B8CD5B5, 0x240CA1CC77AC9C65,
      0x2DE92C6F592B0275, 0x4A7484AA6EA6E483, 0x5CB0A9DCBD41FBD4, 0x76F988DA831153B5,
      0x983E5152EE66DFAB, 0xA831C66D2DB43210, 0xB00327C898FB213F, 0xBF597FC7BEEF0EE4,
      0xC6E00BF33DA88FC2, 0xD5A79147930AA725, 0x06CA6351E003826F, 0x142929670A0E6E70,
      0x27B70A8546D22FFC, 0x2E1B21385C26C926, 0x4D2C6DFC5AC42AED, 0x53380D139D95B3DF,
      0x650A73548BAF63DE, 0x766A0ABB3C77B2A8, 0x81C2C92E47EDAEE6, 0x92722C851482353B,
      0xA2BFE8A14CF10364, 0xA81A664BBC423001, 0xC24B8B70D0F89791, 0xC76C51A30654BE30,
      0xD192E819D6EF5218, 0xD69906245565A910, 0xF40E35855771202A, 0x106AA07032BBD1B8,
      0x19A4C116B8D2D0C8, 0x1E376C085141AB53, 0x2748774CDF8EEB99, 0x34B0BCB5E19B48A8,
      0x391C0CB3C5C95A63, 0x4ED8AA4AE3418ACB, 0x5B9CCA4F7763E373, 0x682E6FF3D6B2B8A3,
      0x748F82EE5DEFB2FC, 0x78A5636F43172F60, 0x84C87814A1F0AB72, 0x8CC702081A6439EC,
      0x90BEFFFA23631E28, 0xA4506CEBDE82BDE9, 0xBEF9A3F7B2C67915, 0xC67178F2E372532B,
      0xCA273ECEEA26619C, 0xD186B8C721C0C207, 0xEADA7DD6CDE0EB1E, 0xF57D4F7FEE6ED178,
      0x06F067AA72176FBA, 0x0A637DC5A2C898A6, 0x113F9804BEF90DAE, 0x1B710B35131C471B,
      0x28DB77F523047D84, 0x32CAAB7B40C72493, 0x3C9EBE0A15C9BEBC, 0x431D67C49C100D4C,
      0x4CC5D4BECB3E42B6, 0x597F299CFC657E2A, 0x5FCB6FAB3AD6FAEC, 0x6C44198C4A475817]

end Sha2

/-- The SHA-256 digest of a message. -/
def sha256 (message : Bytes) : Bytes :=
  let blocks := (chunks 64 (Sha2.pad 64 8 message)).map bigWords32
  ofBigWords32 (blocks.foldl (Sha2.compress Sha2.variant32) Sha2.start32)

/-- The SHA-512 digest of a message. -/
def sha512 (message : Bytes) : Bytes :=
  let blocks := (chunks 128 (Sha2.pad 128 16 message)).map bigWords
  ofBigWords (blocks.foldl (Sha2.compress Sha2.variant64) initialWords)

/-- The keyed digest HMAC over SHA-256, for keys of at most one block. -/
def hmacSha256 (key message : Bytes) : Bytes :=
  let padded := key ++ List.replicate (64 - key.length) 0
  sha256 (padded.map (· ^^^ 0x5C) ++ sha256 (padded.map (· ^^^ 0x36) ++ message))

end Digest

end ChainClient
