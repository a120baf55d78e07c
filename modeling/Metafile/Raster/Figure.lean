import Metafile.Raster.Sample

/-! # Figures

The figures of a shape as chains of short straight lines. Curves are cut finely enough that no
line leaves its curve by more than a small part of a pixel.
-/
namespace Metafile

structure Corner where
  place : Vec
  /-- The directions in which a piece of a curve leaves the corner before and arrives here; a
  straight line has none of its own. -/
  along : Option (Vec × Vec)
  smooth : Bool
deriving Repr, Inhabited

/-- A chain of corners; a figure of one corner that is not closed has no line. -/
structure Figure where
  start : Vec
  corners : List Corner
  closed : Bool
deriving Repr

namespace Figure

def flatness : Float := 1 / 512

def maxPieces : Nat := 2048

def pieces (bend : Float) : Nat :=
  min maxPieces ((bend / flatness).sqrt.ceil.toUInt64.toNat / 2 + 1)

/-- The corners of a curve behind its start, given by its place and its direction at each of the
points that cut it into a number of pieces. -/
def sampled (count : Nat) (place direction : Nat → Vec) : List Corner :=
  (List.range count).map fun i =>
    ⟨place (i + 1), some (direction i, direction (i + 1)), i + 1 < count⟩

def firstDirection : List Vec → Vec
  | [] => ⟨0, 0⟩
  | v :: rest => if v.x == 0 && v.y == 0 then firstDirection rest else v.unit

def quadCorners (a c b : Vec) : List Corner :=
  let count := 2 * pieces (((a.sub c).add (b.sub c)).length / 4)
  let fraction (i : Nat) := Float.ofNat i / Float.ofNat count
  sampled count
    (fun i =>
      let t := fraction i
      if i = count then b else (a.between c t).between (c.between b t) t)
    (fun i =>
      if i = 0 then firstDirection [c.sub a, b.sub a]
      else if i = count then firstDirection [b.sub c, b.sub a]
      else
        let t := fraction i
        ((c.between b t).sub (a.between c t)).unit)

def cubicCorners (a c d b : Vec) : List Corner :=
  let bend := max ((a.sub c).add (d.sub c)).length ((c.sub d).add (b.sub d)).length
  let count := 2 * pieces (bend * 0.75)
  let fraction (i : Nat) := Float.ofNat i / Float.ofNat count
  let first (t : Float) := (a.between c t).between (c.between d t) t
  let second (t : Float) := (c.between d t).between (d.between b t) t
  sampled count
    (fun i =>
      let t := fraction i
      if i = count then b else (first t).between (second t) t)
    (fun i =>
      if i = 0 then firstDirection [c.sub a, d.sub a, b.sub a]
      else if i = count then firstDirection [b.sub d, b.sub c, b.sub a]
      else
        let t := fraction i
        ((second t).sub (first t)).unit)

structure Builder where
  finished : List Figure
  start : Vec
  here : Vec
  corners : List Corner

namespace Builder

def finish (b : Builder) (closed : Bool) : Builder :=
  if b.corners.isEmpty && !closed then b
  else
    { b with
      finished := ⟨b.start, b.corners.reverse, closed⟩ :: b.finished
      corners := []
      here := b.start }

def extend (b : Builder) (corners : List Corner) (stop : Vec) : Builder :=
  { b with corners := corners.reverse ++ b.corners, here := stop }

def add (b : Builder) (segment : PathSegment) : Builder :=
  match segment with
  | .move p =>
      let p := Vec.ofDevice p
      { b.finish false with start := p, here := p }
  | .line p => b.extend [⟨Vec.ofDevice p, none, false⟩] (Vec.ofDevice p)
  | .quad c p =>
      b.extend (quadCorners b.here (Vec.ofDevice c) (Vec.ofDevice p)) (Vec.ofDevice p)
  | .cubic c d p =>
      b.extend (cubicCorners b.here (Vec.ofDevice c) (Vec.ofDevice d) (Vec.ofDevice p))
        (Vec.ofDevice p)
  | .close => b.finish true

end Builder

def ofPath (path : Path) : List Figure :=
  let built := path.foldl Builder.add ⟨[], ⟨0, 0⟩, ⟨0, 0⟩, []⟩
  (built.finish false).finished.reverse

def quarterTurn : Float := 1.5707963267948966

def arcCorners (center u v : Vec) (count : Nat) : List Corner :=
  let turned (i : Nat) (p q : Vec) : Vec :=
    let angle := quarterTurn * Float.ofNat i / Float.ofNat count
    if i = 0 then p else if i = count then q else (p.scale angle.cos).add (q.scale angle.sin)
  (sampled count (fun i => center.add (turned i u v)) (fun i => (turned i v u.neg).unit)).map
    fun c => { c with smooth := true }

/-- The outline of an ellipse, from its rightmost point on over the lowest one. Without width or
without height it is a line there and back. -/
def ofEllipse (box : Bounds) : Figure :=
  let rx := (box.right.toFloat - box.left.toFloat) / 2
  let ry := (box.bottom.toFloat - box.top.toFloat) / 2
  let center : Vec := ⟨box.left.toFloat + rx, box.top.toFloat + ry⟩
  let u : Vec := ⟨rx, 0⟩
  let v : Vec := ⟨0, ry⟩
  let ends := [u, v, u.neg, v.neg, u]
  { start := center.add u, closed := true
    corners :=
      if rx == 0 || ry == 0 then (ends.drop 1).map fun p => ⟨center.add p, none, false⟩
      else
        let count := 2 * pieces (max rx ry)
        (ends.zip (ends.drop 1)).flatMap fun (p, q) => arcCorners center p q count }

end Figure

namespace Shape

def figures : Shape → List Figure
  | path p => Figure.ofPath p
  | ellipse box => [Figure.ofEllipse box]

def bounds? : Shape → Option Bounds
  | path p => p.bounds?
  | ellipse box => some box

end Shape

end Metafile
