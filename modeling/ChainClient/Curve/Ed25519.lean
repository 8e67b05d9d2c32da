import ChainClient.Curve.Modular
import ChainClient.Digest.Sha2

/-!
# Ed25519

The twisted Edwards curve `-x² + y² = 1 + d x² y²` over the field modulo 2^255 - 19, the encoding of
its points in 32 bytes, and its signatures. A signature is checked by the equation without cofactor:
the point it holds has to be, byte for byte, the one computed from the rest.
-/

namespace ChainClient

namespace Curve

namespace Ed25519

/-- The modulus of the field. -/
abbrev fieldModulus : Nat :=
  0x7fffffffffffffffffffffffffffffffffffffffffffffffffffffffffffffed

/-- The order of the base point. -/
abbrev order : Nat :=
  0x1000000000000000000000000000000014def9dea2f79cd65812631a5cf5d3ed

/-- An element of the field. -/
abbrev Element := Fin fieldModulus

/-- The constant of the curve's equation. -/
def curveConstant : Element :=
  37095705934669439343138083508754565189542113879843219016388785533085940283555

/-- A square root of minus one. -/
def rootOfMinusOne : Element :=
  19681161376707505956807079304988542015446066515923890162744021073123829784752

/-- The highest bit of 32 bytes. It holds the parity of an encoded point's abscissa. -/
def parityBit : Nat := 1 <<< 255

/-- The highest bit of a scalar. -/
def topBit : Nat := 1 <<< 254

/-- A point in extended coordinates: `(x / z, y / z)` with `t = x * y / z`. -/
structure Point where
  x : Element
  y : Element
  z : Element
  t : Element
deriving DecidableEq

namespace Point

/-- The neutral point. -/
def neutral : Point := ⟨0, 1, 1, 0⟩

/-- The point with the given affine coordinates. -/
def affine (x y : Element) : Point := ⟨x, y, 1, x * y⟩

/-- The sum of two points. -/
def add (p q : Point) : Point :=
  let a := (p.y - p.x) * (q.y - q.x)
  let b := (p.y + p.x) * (q.y + q.x)
  let c := 2 * curveConstant * p.t * q.t
  let d := 2 * p.z * q.z
  let e := b - a
  let f := d - c
  let g := d + c
  let h := b + a
  ⟨e * f, g * h, f * g, e * h⟩

/-- The multiple of a point. -/
def mul (count : Nat) (p : Point) : Point :=
  multiple neutral (fun q => add q q) add count p

/-- The opposite point. -/
def neg (p : Point) : Point :=
  ⟨-p.x, p.y, p.z, -p.t⟩

/-- The 32 bytes of a point: its ordinate, with the parity of the abscissa in the highest bit. -/
def encode (p : Point) : Bytes :=
  let w := inverse p.z
  let x := p.x * w
  let y := p.y * w
  Bytes.ofNatLittle 32 (y.val + (x.val % 2) * parityBit)

/-- The abscissa with the given parity at an ordinate, if the curve has a point there. -/
def abscissa? (y : Element) (odd : Bool) : Option Element :=
  let u := y * y - 1
  let v := curveConstant * y * y + 1
  let x := u * v * v * v * power (u * power v 7) ((fieldModulus - 5) / 8)
  let check := v * x * x
  let root := if check = u then some x
    else if check = -u then some (x * rootOfMinusOne) else none
  root.map fun x => if (x.val % 2 = 1) = odd then x else -x

/-- The point of 32 bytes. The ordinate is taken modulo the field's modulus. -/
def decode? (bytes : Bytes) : Option Point :=
  let n := Bytes.toNatLittle bytes
  let y := Fin.ofNat fieldModulus (n % parityBit)
  (abscissa? y (n / parityBit % 2 == 1)).map fun x => affine x y

end Point

/-- The base point. -/
def base : Point :=
  .affine 15112221349535400772501151409588531511454012693041857206046113283949847762202
    46316835694926478169428394003475163141307993866256225615783033603165251855960

/-- The scalar that a digest denotes. -/
def scalarOf (digest : Bytes) : Nat :=
  Bytes.toNatLittle digest % order

/-- What a seed is expanded to: the secret scalar and the material of the nonces. -/
structure Secret where
  scalar : Nat
  material : Bytes

/-- The secret of a seed. The scalar is a multiple of eight with its highest bit set. -/
def Secret.ofSeed (seed : Bytes) : Secret :=
  let digest := Digest.sha512 seed
  let n := Bytes.toNatLittle (digest.take 32)
  ⟨n % topBit / 8 * 8 + topBit, digest.drop 32⟩

/-- The public key of a seed. -/
def publicKey (seed : Bytes) : Bytes :=
  (base.mul (Secret.ofSeed seed).scalar).encode

/-- The signature of a message, 64 bytes. -/
def sign (seed message : Bytes) : Bytes :=
  let secret := Secret.ofSeed seed
  let nonce := scalarOf (Digest.sha512 (secret.material ++ message))
  let point := (base.mul nonce).encode
  let challenge := scalarOf (Digest.sha512 (point ++ publicKey seed ++ message))
  point ++ Bytes.ofNatLittle 32 ((nonce + challenge * secret.scalar) % order)

/-- The signature of a message is valid under a public key. -/
def verify (publicKey message signature : Bytes) : Bool :=
  let point := signature.take 32
  let scalar := Bytes.toNatLittle (signature.drop 32)
  if order ≤ scalar then false
  else match Point.decode? publicKey with
    | none => false
    | some key =>
      let challenge := scalarOf (Digest.sha512 (point ++ publicKey ++ message))
      ((base.mul scalar).add (key.neg.mul challenge)).encode == point

end Ed25519

end Curve

end ChainClient
