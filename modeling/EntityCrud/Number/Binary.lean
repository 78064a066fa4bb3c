/-! Binary floating-point numbers as bit patterns. A number of a binary interchange
format is a sign and a magnitude code; finite magnitudes are `m * 2 ^ q` with a
bounded significand `m`, and codes grow with the magnitude. Rounding is to the
nearest number, a tie going to the even code, decided on exact naturals. -/
namespace EntityCrud.Number

/-- A binary interchange format: significand bits, the leading one included, and exponent bits. -/
structure Format where
  precision : Nat
  exponentBits : Nat

namespace Format

def binary32 : Format := ⟨24, 8⟩

def binary64 : Format := ⟨53, 11⟩

/-- The number of codes that share one exponent. -/
def stride (f : Format) : Nat := Nat.pow 2 (f.precision - 1)

/-- The exponent of the least subnormal number. -/
def leastExponent (f : Format) : Int :=
  3 - Nat.pow 2 (f.exponentBits - 1) - f.precision

/-- The magnitude code of infinity; greater codes are not numbers. -/
def infinityCode (f : Format) : Nat := (Nat.pow 2 f.exponentBits - 1) * f.stride

/-- The weight of the sign bit. -/
def signPlace (f : Format) : Nat := Nat.pow 2 f.exponentBits * f.stride

/-- The quotient rounded to a natural, a half going to the even neighbour. -/
def roundHalfEven (num den : Nat) : Nat :=
  let floor := num / den
  let twice := 2 * (num % den)
  if twice < den then floor
  else if den < twice then floor + 1
  else if floor % 2 = 0 then floor else floor + 1

/-- `num / den` in units of `2 ^ q`, again as a quotient. -/
def scaled (num den : Nat) (q : Int) : Nat × Nat :=
  if 0 ≤ q then (num, den * Nat.pow 2 q.toNat) else (num * Nat.pow 2 (-q).toNat, den)

/-- The magnitude code nearest to the quotient of two positive naturals. The unit is chosen
so that the rounded significand fills the precision, unless that is below the least exponent. -/
def nearestCode (f : Format) (num den : Nat) : Nat :=
  let guess : Int := max f.leastExponent ((num.log2 : Int) - den.log2 - f.precision)
  let (n, d) := scaled num den guess
  let q := if n / d < Nat.pow 2 f.precision then guess else guess + 1
  let (n, d) := scaled num den q
  min f.infinityCode ((q - f.leastExponent).toNat * f.stride + roundHalfEven n d)

/-- The significand and exponent of a finite magnitude code. -/
def decode (f : Format) (code : Nat) : Nat × Int :=
  let exponent := code / f.stride
  let fraction := code % f.stride
  if exponent = 0 then (fraction, f.leastExponent)
  else (f.stride + fraction, f.leastExponent + exponent - 1)

end Format

/-- A 64-bit binary floating-point number. -/
structure Binary64 where
  bits : UInt64
  deriving DecidableEq, Repr, Inhabited

/-- A 32-bit binary floating-point number. -/
structure Binary32 where
  bits : UInt32
  deriving DecidableEq, Repr, Inhabited

namespace Binary64

def ofCode (negative : Bool) (code : Nat) : Binary64 :=
  ⟨UInt64.ofNat (code + if negative then Format.binary64.signPlace else 0)⟩

def isNegative (x : Binary64) : Bool := decide (Format.binary64.signPlace ≤ x.bits.toNat)

/-- The magnitude code, the bit pattern without the sign. -/
def code (x : Binary64) : Nat := x.bits.toNat % Format.binary64.signPlace

def isFinite (x : Binary64) : Bool := decide (x.code < Format.binary64.infinityCode)

/-- The number nearest to `digits * 10 ^ exponent`. Decimals beyond `10 ^ 400` and below
`10 ^ (-400)` are settled without forming the power: they are infinite and zero. -/
def ofDecimal (negative : Bool) (digits : Nat) (exponent : Int) : Binary64 :=
  let places : Int := (Nat.toDigits 10 digits).length
  ofCode negative <|
    if digits = 0 ∨ places + exponent < -400 then 0
    else if 400 < places + exponent then Format.binary64.infinityCode
    else if 0 ≤ exponent then Format.binary64.nearestCode (digits * Nat.pow 10 exponent.toNat) 1
    else Format.binary64.nearestCode digits (Nat.pow 10 (-exponent).toNat)

def ofInt (n : Int) : Binary64 := ofDecimal (decide (n < 0)) n.natAbs 0

end Binary64

namespace Binary32

def ofCode (negative : Bool) (code : Nat) : Binary32 :=
  ⟨UInt32.ofNat (code + if negative then Format.binary32.signPlace else 0)⟩

/-- The 32-bit number nearest to a 64-bit one; what is not finite becomes infinite. -/
def ofBinary64 (x : Binary64) : Binary32 :=
  ofCode x.isNegative <|
    if x.isFinite then
      let (m, q) := Format.binary64.decode x.code
      if m = 0 then 0
      else if 0 ≤ q then Format.binary32.nearestCode (m * Nat.pow 2 q.toNat) 1
      else Format.binary32.nearestCode m (Nat.pow 2 (-q).toNat)
    else Format.binary32.infinityCode

end Binary32

end EntityCrud.Number
