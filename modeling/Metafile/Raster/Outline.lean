import Metafile.Raster.Path

/-! # Outlines

A draft makes a path if it has more than one step and its points are finite and lie in a box whose
sides are finite, too.
-/
namespace Metafile

namespace Bounds

def maxLength : Float := 340282346638528859811704183484516925440

/-- A box exists if its edges are finite and in order and its sides are short enough. -/
def ofEdges? (left top right bottom : Float32) : Option Bounds :=
  if left.isFinite && top.isFinite && right.isFinite && bottom.isFinite && left ≤ right &&
      top ≤ bottom && right.toFloat - left.toFloat < maxLength &&
      bottom.toFloat - top.toFloat < maxLength then
    some ⟨left, top, right, bottom⟩
  else none

def around? (points : List DevicePoint) : Option Bounds :=
  match points with
  | [] => none
  | first :: rest =>
      if points.all fun p => p.x.isFinite && p.y.isFinite then
        ofEdges? (rest.foldl (fun x p => smaller x p.x) first.x)
          (rest.foldl (fun y p => smaller y p.y) first.y)
          (rest.foldl (fun x p => larger x p.x) first.x)
          (rest.foldl (fun y p => larger y p.y) first.y)
      else none

end Bounds

namespace Path

def bounds? (path : Path) : Option Bounds := Bounds.around? (path.flatMap PathSegment.points)

def map? (path : Path) (f : DevicePoint → DevicePoint) : Option Path :=
  let mapped : Path := path.map fun
    | .move p => .move (f p)
    | .line p => .line (f p)
    | .quad c p => .quad (f c) (f p)
    | .cubic c d p => .cubic (f c) (f d) (f p)
    | .close => .close
  mapped.bounds?.map fun _ => mapped

end Path

namespace PathDraft

/-- One more step, the last one first. A start with nothing behind it is given up, and only what
has been started is closed. -/
def add (made : Path) (step : PathSegment) : Path :=
  match step, made with
  | .move p, .move _ :: rest => .move p :: rest
  | .close, [] => []
  | .close, .close :: _ => made
  | _, _ => step :: made

def finish? (draft : PathDraft) : Option Path :=
  let made := draft.foldl add []
  if made.length < 2 then none else (Path.bounds? made).map fun _ => made.reverse

end PathDraft

end Metafile
