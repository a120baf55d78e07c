import Metafile.Bitmap.Dib
import Metafile.Object.Description
import Metafile.Text.Utf16

/-! # Records

A record is one instruction of the picture. Records that store their points compactly are the
same instruction as those that store them wide. Modes are kept as the numbers of the file; what an
unknown number means is for playback to say.
-/
namespace Metafile

structure Header where
  /-- The picture's edges in device units, all four inside it. -/
  bounds : Rect
  frame : Rect
  version : UInt32
  size : UInt32
  recordCount : UInt32
  handleCount : UInt16
  paletteSize : UInt32
  device : Size
  millimeters : Size
  description : String
deriving DecidableEq, Repr

structure Region where
  bounds : Rect
  rects : List Rect
deriving DecidableEq, Repr

structure Poly where
  bounds : Rect
  points : List Point
deriving DecidableEq, Repr

structure PolyPoly where
  bounds : Rect
  counts : List UInt32
  points : List Point
deriving DecidableEq, Repr

/-- Cuts a list into consecutive pieces of given lengths. -/
def splitLengths {α : Type} : List Nat → List α → List (List α)
  | [], _ => []
  | n :: ns, xs => xs.take n :: splitLengths ns (xs.drop n)

def PolyPoly.figures (p : PolyPoly) : List (List Point) :=
  splitLengths (p.counts.map (·.toNat)) p.points

/-- A transfer of pixels. When the file gives no source extent it equals the target's. -/
structure Transfer where
  bounds : Rect
  xDest : Int32
  yDest : Int32
  cxDest : Int32
  cyDest : Int32
  xSrc : Int32
  ySrc : Int32
  cxSrc : Int32
  cySrc : Int32
  rop : UInt32
  xformSrc : Transform
  bkColorSrc : ColorRef
  usageSrc : UInt32
  source : Option Dib

structure TextOptions where
  bits : UInt32
deriving DecidableEq, Repr

namespace TextOptions

def isOpaque (o : TextOptions) : Bool := o.bits &&& 0x0002 != 0

def isClipped (o : TextOptions) : Bool := o.bits &&& 0x0004 != 0

def hasGlyphIndices (o : TextOptions) : Bool := o.bits &&& 0x0010 != 0

/-- The advance array holds an (x, y) pair for each unit. -/
def hasAdvancePairs (o : TextOptions) : Bool := o.bits &&& 0x2000 != 0

end TextOptions

structure TextRun where
  reference : Point
  options : TextOptions
  rectangle : Rect
  /-- UTF-16 code units, or glyph numbers. -/
  codeUnits : List UInt16
  dx : List Int32
  dy : List Int32
deriving DecidableEq, Repr

def TextRun.text (t : TextRun) : String := Utf16.decode t.codeUnits

structure TextOut where
  bounds : Rect
  graphicsMode : UInt32
  exScale : Float32
  eyScale : Float32
  text : TextRun

inductive Record where
  | header (header : Header)
  | eof (palette : Palette)
  | setMapMode (mode : UInt32)
  | setWindowExtEx (size : Size)
  | setWindowOrgEx (point : Point)
  | setViewportExtEx (size : Size)
  | setViewportOrgEx (point : Point)
  | setWorldTransform (transform : Transform)
  | modifyWorldTransform (transform : Transform) (mode : UInt32)
  | setBkMode (mode : UInt32)
  | setPolyFillMode (mode : UInt32)
  | setTextAlign (align : UInt32)
  | setTextColor (color : ColorRef)
  | setBkColor (color : ColorRef)
  | saveDc
  /-- A negative index counts from the newest saved state. -/
  | restoreDc (index : Int32)
  | moveToEx (point : Point)
  | excludeClipRect (rect : Rect)
  | intersectClipRect (rect : Rect)
  | extSelectClipRgn (mode : UInt32) (region : Option Region)
  | createPen (handle : UInt32) (pen : PenDescription)
  | extCreatePen (handle : UInt32) (pen : ExtPenDescription)
  | createBrushIndirect (handle : UInt32) (brush : BrushDescription)
  | createDibPatternBrushPt (handle : UInt32) (usage : UInt32) (dib : Dib)
  | extCreateFontIndirectW (handle : UInt32) (font : FontDescription)
  | createPalette (handle : UInt32) (palette : Palette)
  | selectObject (handle : UInt32)
  | selectPalette (handle : UInt32)
  | deleteObject (handle : UInt32)
  | setPixelV (point : Point) (color : ColorRef)
  | lineTo (point : Point)
  | rectangle (rect : Rect)
  | ellipse (rect : Rect)
  | polyBezier (poly : Poly)
  | polygon (poly : Poly)
  | polyline (poly : Poly)
  | polyBezierTo (poly : Poly)
  | polylineTo (poly : Poly)
  | polyPolyline (poly : PolyPoly)
  | polyPolygon (poly : PolyPoly)
  | bitBlt (transfer : Transfer)
  | stretchBlt (transfer : Transfer)
  | stretchDiBits (transfer : Transfer)
  | extTextOutA (text : TextOut)
  | extTextOutW (text : TextOut)
  | skip (tag : UInt32) (size : UInt32)

namespace Record

def createdHandle? : Record → Option UInt32
  | createPen handle _ | extCreatePen handle _ | createBrushIndirect handle _
  | createDibPatternBrushPt handle _ _ | extCreateFontIndirectW handle _
  | createPalette handle _ => some handle
  | _ => none

def name : Record → String
  | header _ => "EMR_HEADER"
  | eof _ => "EMR_EOF"
  | setMapMode _ => "EMR_SETMAPMODE"
  | setWindowExtEx _ => "EMR_SETWINDOWEXTEX"
  | setWindowOrgEx _ => "EMR_SETWINDOWORGEX"
  | setViewportExtEx _ => "EMR_SETVIEWPORTEXTEX"
  | setViewportOrgEx _ => "EMR_SETVIEWPORTORGEX"
  | setWorldTransform _ => "EMR_SETWORLDTRANSFORM"
  | modifyWorldTransform _ _ => "EMR_MODIFYWORLDTRANSFORM"
  | setBkMode _ => "EMR_SETBKMODE"
  | setPolyFillMode _ => "EMR_SETPOLYFILLMODE"
  | setTextAlign _ => "EMR_SETTEXTALIGN"
  | setTextColor _ => "EMR_SETTEXTCOLOR"
  | setBkColor _ => "EMR_SETBKCOLOR"
  | saveDc => "EMR_SAVEDC"
  | restoreDc _ => "EMR_RESTOREDC"
  | moveToEx _ => "EMR_MOVETOEX"
  | excludeClipRect _ => "EMR_EXCLUDECLIPRECT"
  | intersectClipRect _ => "EMR_INTERSECTCLIPRECT"
  | extSelectClipRgn _ _ => "EMR_EXTSELECTCLIPRGN"
  | createPen _ _ => "EMR_CREATEPEN"
  | extCreatePen _ _ => "EMR_EXTCREATEPEN"
  | createBrushIndirect _ _ => "EMR_CREATEBRUSHINDIRECT"
  | createDibPatternBrushPt _ _ _ => "EMR_CREATEDIBPATTERNBRUSHPT"
  | extCreateFontIndirectW _ _ => "EMR_EXTCREATEFONTINDIRECTW"
  | createPalette _ _ => "EMR_CREATEPALETTE"
  | selectObject _ => "EMR_SELECTOBJECT"
  | selectPalette _ => "EMR_SELECTPALETTE"
  | deleteObject _ => "EMR_DELETEOBJECT"
  | setPixelV _ _ => "EMR_SETPIXELV"
  | lineTo _ => "EMR_LINETO"
  | rectangle _ => "EMR_RECTANGLE"
  | ellipse _ => "EMR_ELLIPSE"
  | polyBezier _ => "EMR_POLYBEZIER"
  | polygon _ => "EMR_POLYGON"
  | polyline _ => "EMR_POLYLINE"
  | polyBezierTo _ => "EMR_POLYBEZIERTO"
  | polylineTo _ => "EMR_POLYLINETO"
  | polyPolyline _ => "EMR_POLYPOLYLINE"
  | polyPolygon _ => "EMR_POLYPOLYGON"
  | bitBlt _ => "EMR_BITBLT"
  | stretchBlt _ => "EMR_STRETCHBLT"
  | stretchDiBits _ => "EMR_STRETCHDIBITS"
  | extTextOutA _ => "EMR_EXTTEXTOUTA"
  | extTextOutW _ => "EMR_EXTTEXTOUTW"
  | skip _ _ => "unsupported"

end Record

end Metafile
