/-! # Arithmetic at the edges

Choosing between two numbers when one may be no number, and whole numbers held to a range.
-/
namespace Metafile

/-- The larger of two numbers, the second one of equal ones; a NaN gives way to the other. -/
def larger (a b : Float32) : Float32 := if b < a || b.isNaN then a else b

def smaller (a b : Float32) : Float32 := if a < b || b.isNaN then a else b

/-- The number nearest to `x` between two bounds; a NaN stays what it is. -/
def clampNumber (x low high : Float32) : Float32 :=
  if x < low then low else if high < x then high else x

/-- The length of the vector `(x, y)`, infinite as soon as one of its sides is. Double precision
holds the squares of the sides exactly, and their sum is far from its limits. -/
def vectorLength (x y : Float32) : Float :=
  if x.isInf || y.isInf then 1.0 / 0.0
  else (x.toFloat * x.toFloat + y.toFloat * y.toFloat).sqrt

def radians (degrees : Float32) : Float32 := degrees * ((3.14159274101257324 : Float32) / 180)

def signOf (x : Float) : Float :=
  if x.isNaN then x else if x.toBits >>> 63 = 1 then -1 else 1

def clampInt (x low high : Int) : Int := max low (min x high)

def saturate32 (x : Int) : Int32 := Int32.ofInt (clampInt x Int32.minValue.toInt Int32.maxValue.toInt)

end Metafile
