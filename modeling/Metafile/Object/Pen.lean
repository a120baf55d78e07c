import Metafile.Numeric
import Metafile.Object.Description
import Metafile.Object.Stock

/-! # Pens

A pen is worked out from its description when it is selected; a stroke is what it draws with at
a given scale. Widths and dashes of a pen are logical lengths, those of a stroke are pixels.
-/
namespace Metafile

inductive LinePattern where
  | solid
  | dash
  | dot
  | dashDot
  | dashDotDot
  | null
  | insideFrame
  | userStyle
  | alternate
deriving DecidableEq, Repr

namespace LinePattern

def ofStyle? (style : UInt32) : Option LinePattern :=
  match (style &&& PenStyle.patternMask).toNat with
  | 0 => some solid
  | 1 => some dash
  | 2 => some dot
  | 3 => some dashDot
  | 4 => some dashDotDot
  | 5 => some null
  | 6 => some insideFrame
  | 7 => some userStyle
  | 8 => some alternate
  | _ => none

/-- Dashes and gaps in turn, as long as the pen is wide, but a pixel at least. -/
def dashes? (pattern : LinePattern) (width : Float32) : Option (List Float32) :=
  let w := larger width 1
  match pattern with
  | solid | insideFrame | null | userStyle => none
  | dash => some [w * 3, w]
  | dot | alternate => some [w, w]
  | dashDot => some [w * 3, w, w, w]
  | dashDotDot => some [w * 3, w, w, w, w, w]

end LinePattern

inductive LineCap where
  | round
  | square
  | butt
deriving DecidableEq, Repr

inductive LineJoin where
  | round
  | bevel
  | miter
deriving DecidableEq, Repr

structure Pen where
  pattern : LinePattern
  width : Float32
  color : ColorRef
  dashes : List Float32
  cap : LineCap
  join : LineJoin

structure Stroke where
  width : Float32
  cap : LineCap
  join : LineJoin
  dashes? : Option (List Float32)

namespace Stroke

def miterLimit : Float := 4

/-- A list of lengths can be used when it has pairs of dash and gap, no length is negative, and
the sum is a positive number. -/
def usableDashes? (lengths : List Float32) : Option (List Float32) :=
  let total := lengths.foldl (· + ·) 0
  if lengths.length < 2 ∨ lengths.length % 2 = 1 then none
  else if lengths.any (· < 0) then none
  else if total.isFinite && 0 < total then some lengths
  else none

end Stroke

namespace Pen

def solid (color : ColorRef) : Pen :=
  { pattern := .solid, width := 0, color, dashes := [], cap := .round, join := .round }

def default : Pen := solid .black

instance : Inhabited Pen := ⟨default⟩

def null : Pen := { default with pattern := .null }

def isNull (p : Pen) : Bool := p.pattern == .null

/-- An unknown pattern is drawn solid, a negative width counts as zero. -/
def ofDescription (d : PenDescription) : Pen :=
  { solid d.color with
    pattern := (LinePattern.ofStyle? d.style).getD .solid
    width := (max d.width 0).toFloat32 }

def nullBrushStyle : UInt32 := 1

def ofExtDescription (d : ExtPenDescription) : Pen where
  pattern :=
    if d.brushStyle = nullBrushStyle then .null else (LinePattern.ofStyle? d.style).getD .solid
  width := d.width.toFloat32
  color := d.color
  dashes := d.dashes.map (·.toFloat32)
  cap :=
    match (d.style &&& PenStyle.capMask).toNat with
    | 0x100 => .square
    | 0x200 => .butt
    | _ => .round
  join :=
    match (d.style &&& PenStyle.joinMask).toNat with
    | 0x1000 => .bevel
    | 0x2000 => .miter
    | _ => .round

def stock? (handle : UInt32) : Option Pen :=
  if handle = Stock.whitePen then some (solid .white)
  else if handle = Stock.blackPen ∨ handle = Stock.dcPen then some default
  else if handle = Stock.nullPen then some null
  else none

/-- The stroke at a scale of pixels to logical units, at least a pixel wide. An odd list of
dashes is run through twice, so that dashes and gaps change places. -/
def strokeAt (p : Pen) (scale : Float32) : Stroke :=
  let width := if 0 < p.width then larger (p.width * scale) 1 else 1
  let lengths? :=
    if p.pattern = .userStyle then
      let scaled := p.dashes.map (· * scale)
      some (if scaled.length % 2 = 1 then scaled ++ scaled else scaled)
    else p.pattern.dashes? width
  { width, cap := p.cap, join := p.join, dashes? := lengths?.bind Stroke.usableDashes? }

end Pen

end Metafile
