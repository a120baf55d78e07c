import Metafile.Raster.Rasterizer

/-! # Modes

The numbers by which records choose a mode. A number that stands for none leaves the mode as it
is.
-/
namespace Metafile

inductive MapMode where
  | text
  | loMetric
  | hiMetric
  | loEnglish
  | hiEnglish
  | twips
  | isotropic
  | anisotropic
deriving DecidableEq, Repr

namespace MapMode

def ofCode? (code : UInt32) : Option MapMode :=
  match code.toNat with
  | 1 => some text
  | 2 => some loMetric
  | 3 => some hiMetric
  | 4 => some loEnglish
  | 5 => some hiEnglish
  | 6 => some twips
  | 7 => some isotropic
  | 8 => some anisotropic
  | _ => none

/-- Whether the scale is the ratio of the viewport's extent to the window's. -/
def usesViewportExtent : MapMode → Bool
  | isotropic | anisotropic => true
  | _ => false

end MapMode

inductive TransformMode where
  | identity
  /-- The new transform comes before the old one. -/
  | leftMultiply
  /-- The new transform comes after the old one. -/
  | rightMultiply
  | set
deriving DecidableEq, Repr

namespace TransformMode

def ofCode? (code : UInt32) : Option TransformMode :=
  match code.toNat with
  | 1 => some identity
  | 2 => some leftMultiply
  | 3 => some rightMultiply
  | 4 => some set
  | _ => none

def change (mode : TransformMode) (world transform : Transform) : Transform :=
  match mode with
  | identity => .identity
  | leftMultiply => transform.andThen world
  | rightMultiply => world.andThen transform
  | set => transform

end TransformMode

inductive BackgroundMode where
  | transparent
  | opaqueCells
deriving DecidableEq, Repr

def BackgroundMode.ofCode? (code : UInt32) : Option BackgroundMode :=
  match code.toNat with
  | 1 => some transparent
  | 2 => some opaqueCells
  | _ => none

inductive FillMode where
  | alternate
  | winding
deriving DecidableEq, Repr

namespace FillMode

def ofCode? (code : UInt32) : Option FillMode :=
  match code.toNat with
  | 1 => some alternate
  | 2 => some winding
  | _ => none

def rule : FillMode → FillRule
  | alternate => .evenOdd
  | winding => .winding

end FillMode

end Metafile
