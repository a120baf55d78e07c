import Metafile.Raster.Dash
import Metafile.Raster.Fill

/-! # Strokes

A stroke covers what lies within half its width of the legs of a trace, the joins between them,
and the caps at the ends of an open trace. A trace without legs is a dot: round, square, or
nothing for flat caps.
-/
namespace Metafile

/-- The area over which a leg draws a line across it of a given half width. The line stands
upright on the direction of the pen at both ends. Where its two positions cross, they enclose an
area on either side of the crossing; where a curve turns back on itself, the pen turns in place. -/
def Leg.body (leg : Leg) (half : Float) : List Patch :=
  let chord := leg.stop.sub leg.start
  let turnsBack := chord.dot leg.leaving ≤ 0 || chord.dot leg.arriving ≤ 0
  let first := if turnsBack then chord.unit else leg.leaving
  let last := if turnsBack then chord.unit else leg.arriving
  let a := leg.start.sub (first.turned.scale half)
  let b := leg.stop.sub (last.turned.scale half)
  let c := leg.stop.add (last.turned.scale half)
  let d := leg.start.add (first.turned.scale half)
  let behindStart : HalfPlane := ⟨leg.start, first⟩
  let beforeStop : HalfPlane := ⟨leg.stop, last.neg⟩
  let between := [behindStart, beforeStop]
  let outside := [behindStart.opposite, beforeStop.opposite]
  let areas :=
    if (b.sub a).dot chord < 0 then [.ofEdge c d :: between, .ofEdge a b :: outside]
    else if (c.sub d).dot chord < 0 then [.ofEdge a b :: between, .ofEdge c d :: outside]
    else
      let edges := [(a, b), (c, d)].filter fun (p, q) => p.x != q.x || p.y != q.y
      [edges.map (fun (p, q) => .ofEdge p q) ++ between]
  areas.map (Patch.around leg.start leg.stop half) ++
    if turnsBack then [.sector leg.start half [], .sector leg.stop half []] else []

/-- What is added at a corner, where the pen turns from one direction into another: it lies behind
the end of the first leg and before the start of the second. A miter that would reach too far is
cut off like a bevel. -/
def joinPatches (join : LineJoin) (half : Float) (corner before after : Vec) : List Patch :=
  let turn := before.cross after
  let together := before.dot after
  let outward (d : Vec) : Vec := if turn < 0 then d.turned else d.turned.neg
  let u := outward before
  let v := outward after
  let between : List HalfPlane := [⟨corner, before⟩, ⟨corner, after.neg⟩]
  let edge (direction : Vec) : HalfPlane := ⟨corner.add (direction.scale half), direction.neg⟩
  let reach := half * Stroke.miterLimit
  if turn == 0 && 0 < together then []
  else
    match join with
    | .round => [.sector corner half between]
    | .bevel =>
        [.around corner corner reach (⟨corner.add (u.scale half), (u.add v).neg⟩ :: between)]
    | .miter =>
        if (1 + together) / 2 * (Stroke.miterLimit * Stroke.miterLimit) < 1 then
          [.around corner corner reach (⟨corner.add (u.scale half), (u.add v).neg⟩ :: between)]
        else [.around corner corner reach (edge u :: edge v :: between)]

def capPatches (cap : LineCap) (half : Float) (place outward : Vec) : List Patch :=
  let behind : HalfPlane := ⟨place, outward⟩
  let edge (direction : Vec) : HalfPlane := ⟨place.add (direction.scale half), direction.neg⟩
  match cap with
  | .butt => []
  | .round => [.sector place half [behind]]
  | .square =>
      [.around place place (2 * half)
        [behind, edge outward, edge outward.turned, edge outward.turned.neg]]

def dotPatches (cap : LineCap) (half : Float) (place : Vec) : List Patch :=
  let edge (direction : Vec) : HalfPlane := ⟨place.add (direction.scale half), direction.neg⟩
  match cap with
  | .butt => []
  | .round => [.sector place half []]
  | .square =>
      [.around place place (2 * half) [edge ⟨1, 0⟩, edge ⟨0, 1⟩, edge ⟨-1, 0⟩, edge ⟨0, -1⟩]]

namespace Trace

def joins (join : LineJoin) (half : Float) : List Leg → List Patch
  | a :: b :: rest =>
      joinPatches (if b.smooth then .round else join) half b.start a.arriving b.leaving ++
        joins join half (b :: rest)
  | _ => []

def patches (t : Trace) (stroke : Stroke) : List Patch :=
  let half := stroke.width.toFloat / 2
  match t.legs.head?, t.legs.getLast? with
  | some first, some last =>
      t.legs.flatMap (·.body half) ++ joins stroke.join half t.legs ++
        if t.closed then joinPatches stroke.join half first.start last.arriving first.leaving
        else
          capPatches stroke.cap half first.start first.leaving.neg ++
            capPatches stroke.cap half last.stop last.arriving
  | _, _ => dotPatches stroke.cap half t.start

end Trace

/-- The traces that a stroke draws of a shape: its figures, or their dashes. Too many dashes are
not drawn at all. -/
def Shape.traces (shape : Shape) (stroke : Stroke) : List Trace :=
  let whole := shape.figures.map Figure.trace
  match stroke.dashes? with
  | none => whole
  | some pattern =>
      let count := (whole.map fun t => Trace.dashCount t.length pattern).foldl (· + ·) 0
      if Float.ofNat Trace.maxDashes < count then [] else whole.flatMap (·.dashes pattern)

def Shape.strokeMask (shape : Shape) (width height : Nat) (stroke : Stroke) : Mask :=
  let reach := stroke.width.toFloat
  if shape.bounds?.any fun b => b.width + reach ≤ maxSide && b.height + reach ≤ maxSide then
    let patches := ((shape.traces stroke).flatMap (·.patches stroke)).filter (·.reaches width height)
    Mask.generate width height fun x y => patches.any (·.contains (pixelMiddle x y))
  else Mask.blank width height

end Metafile
