import Metafile.Playback.Context

/-! # Clipping in a context

Areas become masks of the size of the raster before they change the clip. A clip that no mask can be
made for stays as it is.
-/
namespace Metafile

namespace Context

variable (c : Context)

def mask? : Option Mask := c.rasterizer.mask? c.raster.width c.raster.height

def emptyMask : Except Error Mask :=
  match c.mask? with
  | some mask => .ok mask
  | none => .error (.drawing .noMask)

/-- The pixels inside a shape; without one, or without a mask for it, those of an empty mask. -/
def areaMask (shape? : Option Shape) : Except Error Mask :=
  match shape?.bind fun shape => c.mask?.map fun mask => c.rasterizer.cover mask shape with
  | some mask => .ok mask
  | none => c.emptyMask

def combineClip (shape? : Option Shape) (op : ClipOp) : Outcome :=
  c.proceed (c.areaMask shape?) fun area =>
    c.setState { c.state with clip := c.state.clip.combine area op }

def clipRect (r : Rect) (op : ClipOp) : Outcome := c.combineClip (c.rectShape? r) op

def regionBoxes (region : Region) : List Bounds :=
  let left := c.bounds.left.toFloat32
  let top := c.bounds.top.toFloat32
  region.rects.filterMap fun r =>
    let r := r.normalized
    c.rasterizer.box? (r.left.toFloat32 - left) (r.top.toFloat32 - top)
      (r.right.toFloat32 - left) (r.bottom.toFloat32 - top)

def regionMask (region : Region) : Except Error Mask := do
  let mask ← c.emptyMask
  match c.rasterizer.path? (.boxes (c.regionBoxes region)) with
  | some shape => return c.rasterizer.cover mask shape
  | none => return mask

/-- Combines the clip with a region. Without a region, replacing the clip takes it away, and any
other operation does nothing. -/
def selectClipRegion (mode : UInt32) (region? : Option Region) : Outcome :=
  match ClipOp.ofMode? mode, region? with
  | none, _ => (c, some (.drawing (.unknownRegionMode mode)))
  | some .replace, none => c.setState { c.state with clip := none }
  | some _, none => c.done
  | some op, some region =>
      c.proceed (c.regionMask region) fun area =>
        c.setState { c.state with clip := c.state.clip.combine area op }

end Context

end Metafile
