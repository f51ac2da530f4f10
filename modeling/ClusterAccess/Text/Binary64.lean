/-!
# Binary floating-point numbers

A `Binary64` is a number of the 64-bit binary format, kept as its bits so that two of them can be told
apart. `Binary64.ofDecimal` rounds a decimal to the nearest one, and `Binary64.toInt?` is the exact integer
that a number stands for, if it is one.
-/

namespace ClusterAccess.Text

structure Binary64 where
  bits : UInt64
  deriving DecidableEq, Repr

namespace Binary64

def ofFloat (x : Float) : Binary64 := ⟨x.toBits⟩

def toFloat (r : Binary64) : Float := Float.ofBits r.bits

def nan : Binary64 := ofFloat (0.0 / 0.0)

def infinity (negative : Bool) : Binary64 :=
  ofFloat (if negative then -1.0 / 0.0 else 1.0 / 0.0)

/-- The number nearest to `± digits · 10 ^ exponent`. A decimal beyond the range is not expanded. -/
def ofDecimal (negative : Bool) (digits : Nat) (exponent : Int) : Binary64 :=
  let magnitude : Int := digits.log2 * 3 / 10 + exponent
  let x : Float :=
    if digits = 0 || magnitude < -400 then 0.0
    else if 400 < magnitude then 1.0 / 0.0
    else Float.ofScientific digits (exponent < 0) exponent.natAbs
  ofFloat (if negative then -x else x)

/-- The biased exponent. -/
def exponentField (r : Binary64) : Nat := ((r.bits >>> 52) &&& 0x7FF).toNat

def fraction (r : Binary64) : Nat := (r.bits &&& 0xFFFFFFFFFFFFF).toNat

def isNegative (r : Binary64) : Bool := r.bits >>> 63 != 0

def isNan (r : Binary64) : Bool := r.exponentField = 0x7FF && r.fraction != 0

/-- The integer that the number is, if it is an integer. -/
def toInt? (r : Binary64) : Option Int :=
  let e := r.exponentField
  let sign : Int := if r.isNegative then -1 else 1
  if e = 0x7FF then none
  else if e = 0 then if r.fraction = 0 then some 0 else none
  else
    let m := Nat.pow 2 52 + r.fraction
    if 1075 ≤ e then some (sign * (m * Nat.pow 2 (e - 1075) : Nat))
    else
      let d := Nat.pow 2 (1075 - e)
      if m % d = 0 then some (sign * (m / d : Nat)) else none

/-- Numeric equality: no undefined number equals any, and the two zeros are equal. -/
def same (a b : Binary64) : Bool :=
  !a.isNan && !b.isNan && (a.bits = b.bits || (a.toInt? = some 0 && b.toInt? = some 0))

end Binary64

end ClusterAccess.Text
