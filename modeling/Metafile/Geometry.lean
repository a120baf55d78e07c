import Metafile.Bytes.Layout

/-! # Points, rectangles, colours and transforms

The small fixed structures that most records are made of, in the widths a file stores them.
-/
namespace Metafile

structure Point where
  x : Int32
  y : Int32
deriving DecidableEq, Repr, Inhabited

structure ShortPoint where
  x : Int16
  y : Int16
deriving DecidableEq, Repr

def ShortPoint.widen (p : ShortPoint) : Point := ⟨p.x.toInt32, p.y.toInt32⟩

structure Size where
  cx : Int32
  cy : Int32
deriving DecidableEq, Repr, Inhabited

structure Rect where
  left : Int32
  top : Int32
  right : Int32
  bottom : Int32
deriving DecidableEq, Repr, Inhabited

def Rect.normalized (r : Rect) : Rect where
  left := min r.left r.right
  top := min r.top r.bottom
  right := max r.left r.right
  bottom := max r.top r.bottom

/-- A colour as stored: red in the lowest byte, then green, then blue; the top byte is kept
but has no meaning. -/
structure ColorRef where
  value : UInt32
deriving DecidableEq, Repr, Inhabited

namespace ColorRef

def ofRgb (r g b : UInt8) : ColorRef :=
  ⟨r.toUInt32 ||| g.toUInt32 <<< 8 ||| b.toUInt32 <<< 16⟩

def red (c : ColorRef) : UInt8 := c.value.toUInt8

def green (c : ColorRef) : UInt8 := (c.value >>> 8).toUInt8

def blue (c : ColorRef) : UInt8 := (c.value >>> 16).toUInt8

def black : ColorRef := ofRgb 0 0 0

def white : ColorRef := ofRgb 255 255 255

end ColorRef

/-- The affine map `(x, y) ↦ (m11·x + m21·y + dx, m12·x + m22·y + dy)`. -/
structure Transform where
  m11 : Float32
  m12 : Float32
  m21 : Float32
  m22 : Float32
  dx : Float32
  dy : Float32
deriving BEq, Repr

namespace Transform

def identity : Transform := ⟨1, 0, 0, 1, 0, 0⟩

instance : Inhabited Transform := ⟨identity⟩

/-- Compares as numbers do: a negative zero is a zero, and a NaN is never the identity. -/
def isIdentity (t : Transform) : Bool := t == identity

def apply (t : Transform) (x y : Float) : Float × Float :=
  (t.m11.toFloat * x + t.m21.toFloat * y + t.dx.toFloat,
   t.m12.toFloat * x + t.m22.toFloat * y + t.dy.toFloat)

def andThen (t u : Transform) : Transform where
  m11 := t.m11 * u.m11 + t.m12 * u.m21
  m12 := t.m11 * u.m12 + t.m12 * u.m22
  m21 := t.m21 * u.m11 + t.m22 * u.m21
  m22 := t.m21 * u.m12 + t.m22 * u.m22
  dx := t.dx * u.m11 + t.dy * u.m21 + u.dx
  dy := t.dx * u.m12 + t.dy * u.m22 + u.dy

end Transform

instance : FixedLayout Point where
  width := 8
  ofBytes b := ⟨b.i32At 0, b.i32At 4⟩

instance : FixedLayout ShortPoint where
  width := 4
  width_pos := (FixedLayout.width_pos : 0 < FixedLayout.width UInt32)
  ofBytes b := ⟨b.i16At 0, b.i16At 2⟩

instance : FixedLayout Size where
  width := 8
  ofBytes b := ⟨b.i32At 0, b.i32At 4⟩

instance : FixedLayout Rect where
  width := 16
  ofBytes b := ⟨b.i32At 0, b.i32At 4, b.i32At 8, b.i32At 12⟩

instance : FixedLayout ColorRef where
  width := 4
  width_pos := (FixedLayout.width_pos : 0 < FixedLayout.width UInt32)
  ofBytes b := ⟨b.u32At 0⟩

instance : FixedLayout Transform where
  width := 24
  ofBytes b := ⟨b.f32At 0, b.f32At 4, b.f32At 8, b.f32At 12, b.f32At 16, b.f32At 20⟩

end Metafile
