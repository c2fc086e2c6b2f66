import FacetsNode.Lib.Encoding

/-!
# ECDSA over P-256

`crypto/elliptic` and `crypto/ecdsa`, as far as a verifier needs them: uncompressed points, and the
verification of a signature over a digest. Points are in Jacobian coordinates and a product of two
scalars and two points is taken bit by bit from the top, so a verification is one recursion over the
bits of the scalars and can be evaluated.

As with the hash, no proof looks inside; what is used is that verification is a function.
-/

namespace FacetsNode

namespace P256

/-- The field. -/
def p : Nat := 0xffffffff00000001000000000000000000000000ffffffffffffffffffffffff
/-- The order of the group. -/
def n : Nat := 0xffffffff00000000ffffffffffffffffbce6faada7179e84f3b9cac2fc632551
/-- The curve is `y² = x³ - 3x + b`. -/
def b : Nat := 0x5ac635d8aa3a93e7b3ebbd55769886bc651d06b0cc53b0f63bce3c3e27d2604b

def add (x y : Nat) : Nat := (x + y) % p
def sub (x y : Nat) : Nat := (x + p - y) % p
def mul (x y : Nat) : Nat := x * y % p

/-- A point in Jacobian coordinates; `z = 0` is the point at infinity. -/
structure Point where
  (x y z : Nat)

def infinity : Point := ⟨1, 1, 0⟩

def generator : Point :=
  ⟨0x6b17d1f2e12c4247f8bce6e563a440f277037d812deb33a0f4a13945d898c296,
   0x4fe342e2fe1a7f9b8ee7eb4a7c0f9e162bce33576b315ececbb6406837bf51f5, 1⟩

def onCurve (x y : Nat) : Bool := mul y y == add (sub (mul (mul x x) x) (mul 3 x)) b

def double (q : Point) : Point :=
  let delta := mul q.z q.z
  let gamma := mul q.y q.y
  let beta := mul q.x gamma
  let alpha := mul 3 (mul (sub q.x delta) (add q.x delta))
  let x := sub (mul alpha alpha) (mul 8 beta)
  ⟨x, sub (mul alpha (sub (mul 4 beta) x)) (mul 8 (mul gamma gamma)),
   sub (sub (mul (add q.y q.z) (add q.y q.z)) gamma) delta⟩

def addPoints (q r : Point) : Point :=
  if q.z = 0 then r
  else if r.z = 0 then q
  else
    let z1z1 := mul q.z q.z
    let z2z2 := mul r.z r.z
    let u1 := mul q.x z2z2
    let u2 := mul r.x z1z1
    let s1 := mul (mul q.y r.z) z2z2
    let s2 := mul (mul r.y q.z) z1z1
    let h := sub u2 u1
    let d := sub s2 s1
    if h = 0 then if d = 0 then double q else infinity
    else
      let hh := mul h h
      let hhh := mul h hh
      let v := mul u1 hh
      let x := sub (sub (mul d d) hhh) (mul 2 v)
      ⟨x, sub (mul d (sub v x)) (mul s1 hhh), mul (mul q.z r.z) h⟩

/-- The `count` lowest bits of a scalar, the top one first. -/
def bits (scalar : Nat) : Nat → List Bool
  | 0 => []
  | count + 1 => scalar.testBit count :: bits scalar count

/-- `u · G + v · Q`, both scalars bit by bit. -/
def combine (g q gq : Point) : List Bool → List Bool → Point → Point
  | u :: us, v :: vs, acc =>
    let doubled := double acc
    combine g q gq us vs
      (if u then addPoints doubled (if v then gq else g)
       else if v then addPoints doubled q else doubled)
  | _, _, acc => acc

/-- A power modulo the order of the group. -/
def powMod (base : Nat) : List Bool → Nat → Nat
  | [], acc => acc
  | bit :: rest, acc =>
    let squared := acc * acc % n
    powMod base rest (if bit then squared * base % n else squared)

/-- The inverse modulo the order of the group, which is prime. -/
def inverse (x : Nat) : Nat := powMod x (bits (n - 2) 256) 1

/-- The number a list of bytes spells, the top byte first. -/
def ofBytes (bytes : List UInt8) : Nat := bytes.foldl (fun acc x => acc * 256 + x.toNat) 0

/-- `elliptic.Unmarshal`: an uncompressed point of the curve. -/
def unmarshal (bytes : List UInt8) : Option (Nat × Nat) :=
  match bytes with
  | 4 :: rest =>
    let x := ofBytes (rest.take 32)
    let y := ofBytes (rest.drop 32)
    if rest.length = 64 ∧ x < p ∧ y < p ∧ onCurve x y = true then some (x, y) else none
  | _ => none

/-- `ecdsa.Verify`, of a digest of thirty-two bytes. -/
@[irreducible] def verify (key : Nat × Nat) (digest : List UInt8) (r s : Nat) : Bool :=
  if r = 0 ∨ n ≤ r ∨ s = 0 ∨ n ≤ s then false
  else
    let w := inverse s
    let q : Point := ⟨key.1, key.2, 1⟩
    let sum := combine generator q (addPoints generator q) (bits (ofBytes digest % n * w % n) 256)
      (bits (r * w % n) 256) infinity
    let zz := mul sum.z sum.z
    sum.z != 0 && (sum.x == mul r zz || r + n < p && sum.x == mul (r + n) zz)

end P256

end FacetsNode
