import Metafile.Numeric

/-! # Paths

A path is drawn from figures of straight and curved segments, in pixels of the raster. A draft says
what it is to be made of, step by step; not every draft makes a path.
-/
namespace Metafile

/-- A point of the raster's plane; the pixel `(0, 0)` covers the unit square at the origin. -/
structure DevicePoint where
  x : Float32
  y : Float32
deriving Repr, Inhabited

structure Bounds where
  left : Float32
  top : Float32
  right : Float32
  bottom : Float32
deriving Repr

inductive PathSegment where
  | move (start : DevicePoint)
  | line (stop : DevicePoint)
  | quad (control stop : DevicePoint)
  | cubic (control₁ control₂ stop : DevicePoint)
  | close
deriving Repr

def PathSegment.points : PathSegment → List DevicePoint
  | move p | line p => [p]
  | quad c p => [c, p]
  | cubic c d p => [c, d, p]
  | close => []

abbrev Path := List PathSegment

inductive Shape where
  | path (path : Path)
  | ellipse (bounds : Bounds)

abbrev PathDraft := List PathSegment

namespace PathDraft

def polyline (points : List DevicePoint) (closed : Bool) : PathDraft :=
  match points with
  | [] => []
  | first :: rest => .move first :: rest.map .line ++ if closed then [.close] else []

/-- Several lines in one path; figures without points are left out. -/
def polylines (figures : List (List DevicePoint)) (closed : Bool) : PathDraft :=
  figures.flatMap fun points => polyline points closed

def cubics : List DevicePoint → PathDraft
  | c :: d :: p :: rest => .cubic c d p :: cubics rest
  | _ => []

def curves (start : DevicePoint) (points : List DevicePoint) : PathDraft :=
  .move start :: cubics points

def boxes (boxes : List Bounds) : PathDraft :=
  boxes.flatMap fun b =>
    polyline [⟨b.left, b.top⟩, ⟨b.right, b.top⟩, ⟨b.right, b.bottom⟩, ⟨b.left, b.bottom⟩] true

end PathDraft

end Metafile
