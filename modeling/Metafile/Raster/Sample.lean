import Metafile.Raster.Outline

/-! # Sampling

A pixel belongs to a shape when its sample point does: the middle of the pixel, moved to the left
by less than any distance and up by a little less. An interval from `a` to `b` therefore takes the
middles `c` with `a < c ≤ b`. Conditions are evaluated at the middle; when one is undecided there,
the direction of the move decides.
-/
namespace Metafile

structure Vec where
  x : Float
  y : Float
deriving Repr, Inhabited

namespace Vec

def ofDevice (p : DevicePoint) : Vec := ⟨p.x.toFloat, p.y.toFloat⟩

def add (a b : Vec) : Vec := ⟨a.x + b.x, a.y + b.y⟩

def sub (a b : Vec) : Vec := ⟨a.x - b.x, a.y - b.y⟩

def neg (a : Vec) : Vec := ⟨-a.x, -a.y⟩

def scale (k : Float) (a : Vec) : Vec := ⟨k * a.x, k * a.y⟩

def dot (a b : Vec) : Float := a.x * b.x + a.y * b.y

/-- Positive when `b` is turned from `a` as the y axis is from the x axis. -/
def cross (a b : Vec) : Float := a.x * b.y - a.y * b.x

def length (a : Vec) : Float := (a.dot a).sqrt

def turned (a : Vec) : Vec := ⟨-a.y, a.x⟩

def unit (a : Vec) : Vec :=
  let length := a.length
  if length == 0 then ⟨0, 0⟩ else ⟨a.x / length, a.y / length⟩

def between (a b : Vec) (t : Float) : Vec := a.add ((b.sub a).scale t)

/-- Points closer than this on both axes count as one. -/
def tolerance : Float := 1 / 4096

def isNear (a b : Vec) : Bool := (a.x - b.x).abs ≤ tolerance && (a.y - b.y).abs ≤ tolerance

end Vec

def pixelMiddle (x y : Nat) : Vec := ⟨Float.ofNat x + 0.5, Float.ofNat y + 0.5⟩

/-- Whether a quantity is positive at a sample point, by its value at the middle of the pixel and
by how it grows along the axes there. The move to the left counts more when the two cancel out. -/
def isPositiveAt (value : Float) (growth : Vec) : Bool :=
  let change := growth.x + growth.y
  0 < value || (value == 0 && (change < 0 || (change == 0 && growth.x < 0)))

structure HalfPlane where
  origin : Vec
  /-- Upright on the line, pointing to the points that belong to it. -/
  inward : Vec
deriving Repr

namespace HalfPlane

def contains (h : HalfPlane) (p : Vec) : Bool := isPositiveAt (h.inward.dot (p.sub h.origin)) h.inward

def ofEdge (a b : Vec) : HalfPlane := ⟨a, (b.sub a).turned⟩

def opposite (h : HalfPlane) : HalfPlane := ⟨h.origin, h.inward.neg⟩

end HalfPlane

/-- A simple area, of which the area of a stroke is made: what some half-planes have in common
with each other and with a disc. -/
structure Patch where
  sides : List HalfPlane
  disc : Option (Vec × Float)
  least : Vec
  greatest : Vec
deriving Repr

namespace Patch

def around (a b : Vec) (reach : Float) (sides : List HalfPlane) : Patch where
  sides := sides
  disc := none
  least := ⟨min a.x b.x - reach, min a.y b.y - reach⟩
  greatest := ⟨max a.x b.x + reach, max a.y b.y + reach⟩

def sector (center : Vec) (radius : Float) (sides : List HalfPlane) : Patch :=
  { around center center radius sides with disc := some (center, radius) }

def isInDisc (p center : Vec) (radius : Float) : Bool :=
  let v := p.sub center
  isPositiveAt (radius * radius - v.dot v) v.neg

def contains (patch : Patch) (p : Vec) : Bool :=
  patch.least.x ≤ p.x && p.x ≤ patch.greatest.x && patch.least.y ≤ p.y && p.y ≤ patch.greatest.y &&
    patch.sides.all (·.contains p) && patch.disc.all fun (center, radius) => isInDisc p center radius

def reaches (patch : Patch) (width height : Nat) : Bool :=
  0 ≤ patch.greatest.x && 0 ≤ patch.greatest.y && patch.least.x ≤ Float.ofNat width &&
    patch.least.y ≤ Float.ofNat height

end Patch

end Metafile
