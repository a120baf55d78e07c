import Metafile.Playback.Draw

/-! # Playing records

`Context.apply` carries out one record. The result is a context in any case, with an error when the
record could not be carried out as a whole; which errors end playback is for the caller to say.
-/
namespace Metafile

namespace Context

def insertObject (c : Context) (handle : UInt32) (object : GraphicsObject) : Outcome :=
  c.proceed (c.objects.insert handle object) fun objects => ({ c with objects }, none)

def selectStock (c : Context) (handle : UInt32) : Outcome :=
  match Pen.stock? handle, Brush.stock? handle with
  | some pen, _ =>
      ({ c with objects := c.objects.deselect .pen, state := { c.state with pen } }, none)
  | none, some brush =>
      ({ c with objects := c.objects.deselect .brush, state := { c.state with brush } }, none)
  | none, none =>
      if handle = Stock.defaultPalette then
        ({ c with objects := c.objects.deselect .palette }, none)
      else if handle ∈ Stock.fonts then
        ({ c with
            objects := c.objects.deselect .font
            state := { c.state with font := .default } }, none)
      else (c, some (.unknownHandle handle))

def selectObject (c : Context) (handle : UInt32) : Outcome :=
  if Stock.isStock handle then c.selectStock handle
  else
    c.proceed (c.objects.select handle) fun (_, objects) =>
      let c := { c with objects }
      c.proceed (c.objects.get handle) fun object => c.setState (c.state.drawWith object)

/-- Selects a palette. The default palette needs no selection. -/
def selectPalette (c : Context) (handle : UInt32) : Outcome :=
  if handle = Stock.defaultPalette then c.done
  else c.proceed (c.objects.select handle) fun (_, objects) => ({ c with objects }, none)

/-- Deletes an object; what is drawn with stays what it is. Stock objects are never deleted. -/
def deleteObject (c : Context) (handle : UInt32) : Outcome :=
  if Stock.isStock handle then c.done
  else c.proceed (c.objects.delete handle) fun (_, objects) => ({ c with objects }, none)

def restore (c : Context) (index : Int32) : Outcome :=
  match c.saved.popTo? index with
  | some (state, saved) => ({ c with state, saved }, none)
  | none => c.done

def apply (c : Context) (record : Record) : Outcome :=
  let s := c.state
  match record with
  | .header _ | .eof _ | .skip _ _ => c.done
  | .setMapMode mode => c.setState { s with mapMode := (MapMode.ofCode? mode).getD s.mapMode }
  | .setWindowExtEx size => c.setState { s with windowExt := some size }
  | .setWindowOrgEx point => c.setState { s with windowOrg := point }
  | .setViewportExtEx size => c.setState { s with viewportExt := some size }
  | .setViewportOrgEx point => c.setState { s with viewportOrg := point }
  | .setWorldTransform transform => c.setState { s with world := transform }
  | .modifyWorldTransform transform mode =>
      c.setState { s with
        world := ((TransformMode.ofCode? mode).map (·.change s.world transform)).getD s.world }
  | .setBkMode mode => c.setState { s with bkMode := (BackgroundMode.ofCode? mode).getD s.bkMode }
  | .setPolyFillMode mode =>
      c.setState { s with fillMode := (FillMode.ofCode? mode).getD s.fillMode }
  | .setTextAlign align => c.setState { s with textAlign := ⟨align⟩ }
  | .setTextColor color => c.setState { s with textColor := color }
  | .setBkColor color => c.setState { s with bkColor := color }
  | .moveToEx point => c.setState { s with current := point }
  | .saveDc => ({ c with saved := c.saved.push s }, none)
  | .restoreDc index => c.restore index
  | .intersectClipRect rect => c.clipRect rect .intersect
  | .excludeClipRect rect => c.clipRect rect .difference
  | .extSelectClipRgn mode region? => c.selectClipRegion mode region?
  | .createPen handle pen => c.insertObject handle (.pen pen)
  | .extCreatePen handle pen => c.insertObject handle (.extPen pen)
  | .createBrushIndirect handle brush => c.insertObject handle (.brush brush)
  | .createDibPatternBrushPt handle _ dib => c.insertObject handle (.bitmap dib)
  | .extCreateFontIndirectW handle font => c.insertObject handle (.font font)
  | .createPalette handle palette => c.insertObject handle (.palette palette)
  | .selectObject handle => c.selectObject handle
  | .selectPalette handle => c.selectPalette handle
  | .deleteObject handle => c.deleteObject handle
  | .setPixelV point color => c.setPixel point color
  | .lineTo point => (c.lineTo point).done
  | .polylineTo poly => (c.polylineTo poly).done
  | .polyBezierTo poly => (c.polyBezierTo poly).done
  | .polyline poly => (c.stroke (c.lineShape? poly.points false)).done
  | .polyBezier poly => (c.stroke (c.curveShape? poly.points)).done
  | .polyPolyline poly => (c.stroke (c.figuresShape? poly false)).done
  | .rectangle rect => c.fillAndStroke (c.rectShape? rect)
  | .ellipse rect => c.fillAndStroke (c.ellipseShape? rect)
  | .polygon poly => c.fillAndStroke (c.lineShape? poly.points true)
  | .polyPolygon poly => c.fillAndStroke (c.figuresShape? poly true)
  | .bitBlt t | .stretchBlt t | .stretchDiBits t => c.transfer t
  | .extTextOutA t | .extTextOutW t => c.drawTextOut t.text

/-- Carries out records one after the other; a record that fails is passed over. -/
def play (c : Context) (records : List Record) : Context :=
  records.foldl (fun c record => (c.apply record).1) c

end Context

end Metafile
