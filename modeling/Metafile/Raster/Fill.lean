import Metafile.Raster.Figure
import Metafile.Raster.Rasterizer

/-! # Filling

The area of a shape is the set of pixels whose sample it contains. For a path this is decided by
the lines that cross the row to the left of the sample, for an ellipse by its equation.
-/
namespace Metafile

namespace Mask

def blank (width height : Nat) : Mask := .ofBytes width height fun _ => 0

def generate (width height : Nat) (covered : Nat → Nat → Bool) : Mask :=
  .ofBytes width height fun i => level (covered (i % width) (i / width))

end Mask

/-- Whether a sample is inside, by the number of lines that pass it downwards, less those that
pass it upwards; the two numbers are odd together. -/
def FillRule.encloses (rule : FillRule) (turns : Int) : Bool :=
  match rule with
  | evenOdd => turns % 2 != 0
  | winding => turns != 0

structure Crossing where
  x : Float
  turn : Int

namespace Figure

def edges (f : Figure) : List (Vec × Vec) :=
  let places := f.start :: f.corners.map (·.place)
  places.zip (places.drop 1 ++ [f.start])

end Figure

/-- Where a line crosses a height; an end on that height counts as below it. -/
def crossing? (height : Float) (a b : Vec) : Option Crossing :=
  if (a.y < height) = (b.y < height) then none
  else
    some ⟨a.x + (height - a.y) * (b.x - a.x) / (b.y - a.y), if a.y < b.y then 1 else -1⟩

def maxSide : Float := 2147483647

namespace Bounds

def width (b : Bounds) : Float := b.right.toFloat - b.left.toFloat

def height (b : Bounds) : Float := b.bottom.toFloat - b.top.toFloat

def isFillable (b : Bounds) : Bool :=
  0 < b.width && 0 < b.height && b.width ≤ maxSide && b.height ≤ maxSide

def ellipseContains (box : Bounds) (p : Vec) : Bool :=
  let rx := box.width / 2
  let ry := box.height / 2
  let u := (p.x - (box.left.toFloat + rx)) / rx
  let v := (p.y - (box.top.toFloat + ry)) / ry
  isPositiveAt (1 - (u * u + v * v)) ⟨-u, -v⟩

end Bounds

def figuresMask (width height : Nat) (rule : FillRule) (figures : List Figure) : Mask :=
  let edges := figures.flatMap Figure.edges
  let rows := (Array.range height).map fun y =>
    edges.filterMap fun (a, b) => crossing? (pixelMiddle 0 y).y a b
  Mask.generate width height fun x y =>
    let middle := (pixelMiddle x y).x
    rule.encloses ((((rows[y]?.getD []).filter (·.x < middle)).map (·.turn)).foldr (· + ·) 0)

def Shape.fillMask (shape : Shape) (width height : Nat) (rule : FillRule) : Mask :=
  if shape.bounds?.any (·.isFillable) then
    match shape with
    | path _ => figuresMask width height rule shape.figures
    | ellipse box => Mask.generate width height fun x y => box.ellipseContains (pixelMiddle x y)
  else Mask.blank width height

end Metafile
