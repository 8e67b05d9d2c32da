import ChainClient.Curve.Modular
import ChainClient.Digest.Sha2

/-!
# secp256k1

The curve `y² = x³ + 7` over a prime field, encodings of its points, and recoverable signatures: the
nonce of a signature is derived from the key and the digest, `s` is the smaller of the two
possible values, and a recovery number tells which point had the abscissa `r`.
-/

namespace ChainClient

namespace Curve

namespace Secp256k1

/-- The modulus of the field. -/
abbrev fieldModulus : Nat :=
  0xFFFFFFFFFFFFFFFFFFFFFFFFFFFFFFFFFFFFFFFFFFFFFFFFFFFFFFFEFFFFFC2F

/-- The order of the group. -/
abbrev order : Nat :=
  0xFFFFFFFFFFFFFFFFFFFFFFFFFFFFFFFEBAAEDCE6AF48A03BBFD25E8CD0364141

/-- An element of the field. -/
abbrev Element := Fin fieldModulus

/-- A number of group elements. -/
abbrev Scalar := Fin order

/-- A point in Jacobian coordinates, `(x / z², y / z³)`; the neutral one has `z = 0`. -/
structure Point where
  x : Element
  y : Element
  z : Element
deriving DecidableEq

namespace Point

/-- The neutral point. -/
def neutral : Point := ⟨1, 1, 0⟩

/-- The point with the given affine coordinates. -/
def affine (x y : Element) : Point := ⟨x, y, 1⟩

/-- The sum of a point with itself. -/
def double (q : Point) : Point :=
  let yy := q.y * q.y
  let s := 4 * q.x * yy
  let m := 3 * q.x * q.x
  let x := m * m - 2 * s
  ⟨x, m * (s - x) - 8 * yy * yy, 2 * q.y * q.z⟩

/-- The sum of two points. -/
def add (a b : Point) : Point :=
  if a.z = 0 then b
  else if b.z = 0 then a
  else
    let aa := a.z * a.z
    let bb := b.z * b.z
    let u := a.x * bb
    let h := b.x * aa - u
    let s := a.y * bb * b.z
    let r := b.y * aa * a.z - s
    if h = 0 then if r = 0 then double a else neutral
    else
      let hh := h * h
      let v := u * hh
      let x := r * r - hh * h - 2 * v
      ⟨x, r * (v - x) - s * hh * h, h * a.z * b.z⟩

/-- The multiple of a point. -/
def mul (count : Nat) (q : Point) : Point :=
  multiple neutral double add count q

/-- The affine coordinates of a point, unless it is neutral. -/
def coordinates? (q : Point) : Option (Element × Element) :=
  if q.z = 0 then none
  else
    let w := inverse q.z
    let ww := w * w
    some (q.x * ww, q.y * ww * w)

end Point

/-- The generator of the group. -/
def generator : Point :=
  .affine 0x79BE667EF9DCBBAC55A06295CE870B07029BFCDB2DCE28D959F2815B16F81798
    0x483ADA7726A3C4655DA4FBFC0E1108A8FD17B448A68554199C47D08FFB10D4B8

/-- The right side of the curve's equation. -/
def curveSquare (x : Element) : Element :=
  x * x * x + 7

/-- The ordinate with the given parity at an abscissa, if the curve has a point there. -/
def ordinate? (x : Element) (odd : Bool) : Option Element :=
  let square := curveSquare x
  let y := power square ((fieldModulus + 1) / 4)
  if y * y ≠ square then none
  else if (y.val % 2 = 1) = odd then some y else some (-y)

/-- The field element of 32 bytes, if they are below the modulus. -/
def element? (bytes : Bytes) : Option Element :=
  if h : bytes.toNat < fieldModulus then some ⟨bytes.toNat, h⟩ else none

/-- The 32 bytes of a number. -/
def bytes32 (n : Nat) : Bytes :=
  Bytes.ofNatWidth 32 n

/-- A public key: the affine coordinates of a point of the curve. -/
structure PublicKey where
  x : Element
  y : Element
deriving DecidableEq

namespace PublicKey

/-- The public key at an affine point. -/
def ofPoint? (q : Point) : Option PublicKey :=
  q.coordinates?.map fun (x, y) => ⟨x, y⟩

/-- The form of 65 bytes, in which both coordinates are written. -/
def uncompressed (key : PublicKey) : Bytes :=
  0x04 :: bytes32 key.x.val ++ bytes32 key.y.val

/-- Reads a key with one coordinate and a parity. -/
def parseCompressed? (head : UInt8) (body : Bytes) : Option PublicKey := do
  let x ← element? body
  let y ← ordinate? x (head == 0x03)
  return ⟨x, y⟩

/-- Reads a key with both coordinates; the hybrid heads repeat the parity. -/
def parseFull? (head : UInt8) (body : Bytes) : Option PublicKey := do
  let x ← element? (body.take 32)
  let y ← element? (body.drop 32)
  let odd := y.val % 2 == 1
  let headFits := head == 0x04 || head == (if odd then 0x07 else 0x06)
  if headFits ∧ y * y = curveSquare x then some ⟨x, y⟩ else none

/-- Reads a key of 33 or 65 bytes. -/
def parse? : Bytes → Option PublicKey
  | [] => none
  | head :: body =>
    if body.length = 32 ∧ (head = 0x02 ∨ head = 0x03) then parseCompressed? head body
    else if body.length = 64 ∧ (head = 0x04 ∨ head = 0x06 ∨ head = 0x07) then
      parseFull? head body
    else none

end PublicKey

/-- A private key: a scalar other than zero. -/
structure PrivateKey where
  scalar : Nat
  pos : 0 < scalar
  lt_order : scalar < order

namespace PrivateKey

/-- The private key that 32 bytes denote, if they are in range. -/
def ofBytes? (bytes : Bytes) : Option PrivateKey :=
  if h : 0 < bytes.toNat ∧ bytes.toNat < order then some ⟨bytes.toNat, h.1, h.2⟩ else none

/-- The point of the private key. -/
def point (key : PrivateKey) : Point :=
  generator.mul key.scalar

/-- The public key in its form of 65 bytes. -/
def publicKey (key : PrivateKey) : Bytes :=
  match PublicKey.ofPoint? key.point with
  | some pub => pub.uncompressed
  | none => []

end PrivateKey

/-- The scalar of a digest. -/
def scalarOf (digest : Bytes) : Scalar :=
  Fin.ofNat order digest.toNat

/-- A source of nonces: a key and a value that each digest in turn refreshes. -/
structure NonceSource where
  key : Bytes
  value : Bytes

namespace NonceSource

/-- Mixes a byte and some material into the source. -/
def update (s : NonceSource) (separator : UInt8) (material : Bytes) : NonceSource :=
  let key := Digest.hmacSha256 s.key (s.value ++ [separator] ++ material)
  ⟨key, Digest.hmacSha256 key s.value⟩

/-- The source for a private key and a digest. -/
def start (key : PrivateKey) (digest : Bytes) : NonceSource :=
  let material := bytes32 key.scalar ++ bytes32 (scalarOf digest).val
  let fresh : NonceSource := ⟨List.replicate 32 0, List.replicate 32 1⟩
  (fresh.update 0x00 material).update 0x01 material

/-- The next candidate of the source. -/
def candidate (s : NonceSource) : Bytes :=
  Digest.hmacSha256 s.key s.value

/-- The source behind a candidate that was no use. -/
def retry (s : NonceSource) : NonceSource :=
  (NonceSource.mk s.key s.candidate).update 0x00 []

end NonceSource

/-- A recoverable signature. -/
structure RecoverableSignature where
  r : Nat
  s : Nat
  recovery : Nat
deriving DecidableEq

namespace RecoverableSignature

/-- The form of 65 bytes. -/
def toBytes (signature : RecoverableSignature) : Bytes :=
  bytes32 signature.r ++ bytes32 signature.s ++ [UInt8.ofNat signature.recovery]

@[simp] theorem length_toBytes (signature : RecoverableSignature) :
    signature.toBytes.length = 65 := by
  simp [toBytes, bytes32]

/-- Reads 65 bytes. Both numbers have to be below the order, the recovery number below four. -/
def parse? (bytes : Bytes) : Option RecoverableSignature :=
  let r := Bytes.toNat (bytes.take 32)
  let s := Bytes.toNat ((bytes.drop 32).take 32)
  match bytes.drop 64 with
  | [recovery] =>
    if r < order ∧ s < order ∧ recovery.toNat < 4 then some ⟨r, s, recovery.toNat⟩ else none
  | _ => none

/-- The signature with the smaller `s`; the other one belongs to the opposite point. -/
def normalize (signature : RecoverableSignature) : RecoverableSignature :=
  if order / 2 < signature.s then
    ⟨signature.r, order - signature.s, signature.recovery ^^^ 1⟩
  else signature

end RecoverableSignature

/-- The signature of a digest with a nonce, if the nonce is of use. -/
def signWith? (key : PrivateKey) (digest : Bytes) (nonce : Nat) : Option RecoverableSignature :=
  if nonce = 0 ∨ order ≤ nonce then none
  else match (generator.mul nonce).coordinates? with
    | none => none
    | some (x, y) =>
      let r : Scalar := Fin.ofNat order x.val
      let s : Scalar := inverse (Fin.ofNat order nonce) *
        (scalarOf digest + r * Fin.ofNat order key.scalar)
      let recovery := (if order ≤ x.val then 2 else 0) + y.val % 2
      if r = 0 ∨ s = 0 then none else some (RecoverableSignature.normalize ⟨r.val, s.val, recovery⟩)

/-- How many nonces are tried. One in 2^127 is of no use, so the first is used in practice. -/
def nonceTries : Nat := 64

/-- The signature with the first nonce of the source that is of use. -/
def signFrom (key : PrivateKey) (digest : Bytes) :
    (tries : Nat) → NonceSource → RecoverableSignature
  | 0, _ => ⟨0, 0, 0⟩
  | tries + 1, source =>
    match signWith? key digest source.candidate.toNat with
    | some signature => signature
    | none => signFrom key digest tries source.retry

/-- The signature of a digest. -/
def sign (key : PrivateKey) (digest : Bytes) : RecoverableSignature :=
  signFrom key digest nonceTries (NonceSource.start key digest)

/-- The point that a signature's nonce led to. -/
def noncePoint? (signature : RecoverableSignature) : Option Point :=
  let abscissa := signature.r + if 2 ≤ signature.recovery then order else 0
  if h : abscissa < fieldModulus then
    let x : Element := ⟨abscissa, h⟩
    (ordinate? x (signature.recovery % 2 == 1)).map fun y => .affine x y
  else none

/-- The public key under which a signature of a digest is valid. -/
def recover? (digest : Bytes) (signature : RecoverableSignature) : Option PublicKey :=
  if signature.r = 0 ∨ signature.s = 0 then none
  else match noncePoint? signature with
    | none => none
    | some point =>
      let w : Scalar := inverse (Fin.ofNat order signature.r)
      let onNonce : Scalar := Fin.ofNat order signature.s * w
      let onGenerator : Scalar := -(scalarOf digest * w)
      PublicKey.ofPoint? ((generator.mul onGenerator.val).add (point.mul onNonce.val))

end Secp256k1

end Curve

end ChainClient
