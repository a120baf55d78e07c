import Metafile.Bitmap.Dib
import Metafile.Object.Description
import Metafile.Object.Stock

/-! # Brushes

A hatched brush keeps its hatch but fills the whole area with its colour. A pattern brush keeps
its bitmap; whether that can be drawn is found out when it is used.
-/
namespace Metafile

inductive BrushStyle where
  | solid
  | null
  | hatched
  | pattern
  | dibPattern
  | dibPatternPt
deriving DecidableEq, Repr

def BrushStyle.ofCode? (code : UInt32) : Option BrushStyle :=
  match code.toNat with
  | 0 => some solid
  | 1 => some null
  | 2 => some hatched
  | 3 => some pattern
  | 5 => some dibPattern
  | 6 => some dibPatternPt
  | _ => none

inductive Brush where
  | solid (color : ColorRef)
  | null
  | hatched (color : ColorRef) (hatch : UInt32)
  | pattern (dib : Dib)
deriving DecidableEq, Repr

namespace Brush

def default : Brush := solid .white

instance : Inhabited Brush := ⟨default⟩

def isNull : Brush → Bool
  | null => true
  | _ => false

/-- Any style that is neither empty nor hatched fills with the colour. -/
def ofDescription (d : BrushDescription) : Brush :=
  match BrushStyle.ofCode? d.style with
  | some .null => null
  | some .hatched => hatched d.color d.hatch
  | _ => solid d.color

def gray (level : UInt8) : Brush := solid (.ofRgb level level level)

def stock? (handle : UInt32) : Option Brush :=
  if handle = Stock.whiteBrush ∨ handle = Stock.dcBrush then some default
  else if handle = Stock.lightGrayBrush then some (gray 0xC0)
  else if handle = Stock.grayBrush then some (gray 0x80)
  else if handle = Stock.darkGrayBrush then some (gray 0x40)
  else if handle = Stock.blackBrush then some (solid .black)
  else if handle = Stock.nullBrush then some null
  else none

end Brush

end Metafile
