/-! # Record types

The types that are interpreted, with the tag that a file stores for each. Records with any other
tag are kept as uninterpreted.
-/
namespace Metafile

inductive RecordType where
  | header
  | polyBezier
  | polygon
  | polyline
  | polyBezierTo
  | polyLineTo
  | polyPolyline
  | polyPolygon
  | setWindowExtEx
  | setWindowOrgEx
  | setViewportExtEx
  | setViewportOrgEx
  | eof
  | setPixelV
  | setMapMode
  | setBkMode
  | setPolyFillMode
  | setTextAlign
  | setTextColor
  | setBkColor
  | moveToEx
  | excludeClipRect
  | intersectClipRect
  | saveDc
  | restoreDc
  | setWorldTransform
  | modifyWorldTransform
  | selectObject
  | createPen
  | createBrushIndirect
  | deleteObject
  | ellipse
  | rectangle
  | selectPalette
  | createPalette
  | lineTo
  | extSelectClipRgn
  | bitBlt
  | stretchBlt
  | stretchDiBits
  | extCreateFontIndirectW
  | extTextOutA
  | extTextOutW
  | polyBezier16
  | polygon16
  | polyline16
  | polyBezierTo16
  | polyLineTo16
  | polyPolyline16
  | polyPolygon16
  | createDibPatternBrushPt
  | extCreatePen
deriving DecidableEq, Repr

namespace RecordType

def ofTag? (tag : UInt32) : Option RecordType :=
  match tag.toNat with
  | 1 => some header
  | 2 => some polyBezier
  | 3 => some polygon
  | 4 => some polyline
  | 5 => some polyBezierTo
  | 6 => some polyLineTo
  | 7 => some polyPolyline
  | 8 => some polyPolygon
  | 9 => some setWindowExtEx
  | 10 => some setWindowOrgEx
  | 11 => some setViewportExtEx
  | 12 => some setViewportOrgEx
  | 14 => some eof
  | 15 => some setPixelV
  | 17 => some setMapMode
  | 18 => some setBkMode
  | 19 => some setPolyFillMode
  | 22 => some setTextAlign
  | 24 => some setTextColor
  | 25 => some setBkColor
  | 27 => some moveToEx
  | 29 => some excludeClipRect
  | 30 => some intersectClipRect
  | 33 => some saveDc
  | 34 => some restoreDc
  | 35 => some setWorldTransform
  | 36 => some modifyWorldTransform
  | 37 => some selectObject
  | 38 => some createPen
  | 39 => some createBrushIndirect
  | 40 => some deleteObject
  | 42 => some ellipse
  | 43 => some rectangle
  | 48 => some selectPalette
  | 49 => some createPalette
  | 54 => some lineTo
  | 75 => some extSelectClipRgn
  | 76 => some bitBlt
  | 77 => some stretchBlt
  | 81 => some stretchDiBits
  | 82 => some extCreateFontIndirectW
  | 83 => some extTextOutA
  | 84 => some extTextOutW
  | 85 => some polyBezier16
  | 86 => some polygon16
  | 87 => some polyline16
  | 88 => some polyBezierTo16
  | 89 => some polyLineTo16
  | 90 => some polyPolyline16
  | 91 => some polyPolygon16
  | 94 => some createDibPatternBrushPt
  | 95 => some extCreatePen
  | _ => none

def tag : RecordType → UInt32
  | header => 1
  | polyBezier => 2
  | polygon => 3
  | polyline => 4
  | polyBezierTo => 5
  | polyLineTo => 6
  | polyPolyline => 7
  | polyPolygon => 8
  | setWindowExtEx => 9
  | setWindowOrgEx => 10
  | setViewportExtEx => 11
  | setViewportOrgEx => 12
  | eof => 14
  | setPixelV => 15
  | setMapMode => 17
  | setBkMode => 18
  | setPolyFillMode => 19
  | setTextAlign => 22
  | setTextColor => 24
  | setBkColor => 25
  | moveToEx => 27
  | excludeClipRect => 29
  | intersectClipRect => 30
  | saveDc => 33
  | restoreDc => 34
  | setWorldTransform => 35
  | modifyWorldTransform => 36
  | selectObject => 37
  | createPen => 38
  | createBrushIndirect => 39
  | deleteObject => 40
  | ellipse => 42
  | rectangle => 43
  | selectPalette => 48
  | createPalette => 49
  | lineTo => 54
  | extSelectClipRgn => 75
  | bitBlt => 76
  | stretchBlt => 77
  | stretchDiBits => 81
  | extCreateFontIndirectW => 82
  | extTextOutA => 83
  | extTextOutW => 84
  | polyBezier16 => 85
  | polygon16 => 86
  | polyline16 => 87
  | polyBezierTo16 => 88
  | polyLineTo16 => 89
  | polyPolyline16 => 90
  | polyPolygon16 => 91
  | createDibPatternBrushPt => 94
  | extCreatePen => 95

theorem ofTag?_tag (t : RecordType) : ofTag? t.tag = some t := by
  cases t <;> rfl

end RecordType

end Metafile
