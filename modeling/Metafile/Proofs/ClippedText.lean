import Metafile.Proofs.ClipIndependence
import Metafile.Proofs.Effects
import Metafile.Proofs.SaveRestore

/-! # Text under a clip of its own

A text record may ask for its rectangle as a clip. It comes to the same to save the state, to clip
to the rectangle, to draw the text without a clip of its own, and to restore the state; only that
the text leaves the current position where it has moved it. -/
namespace Metafile

namespace TextOptions

def unclipped (o : TextOptions) : TextOptions := ⟨o.bits &&& ~~~0x0004⟩

theorem isClipped_unclipped (o : TextOptions) : o.unclipped.isClipped = false := by
  have cleared : (o.bits &&& ~~~0x0004) &&& 0x0004 = 0 := by
    rw [UInt32.and_assoc]
    exact UInt32.and_zero
  unfold isClipped unclipped
  rw [cleared]
  rfl

theorem bits_unclipped_and (o : TextOptions) {mask : UInt32} (other : ~~~0x0004 &&& mask = mask) :
    o.unclipped.bits &&& mask = o.bits &&& mask := by
  unfold unclipped
  rw [UInt32.and_assoc, other]

theorem isOpaque_unclipped (o : TextOptions) : o.unclipped.isOpaque = o.isOpaque := by
  unfold isOpaque
  rw [o.bits_unclipped_and rfl]

theorem hasGlyphIndices_unclipped (o : TextOptions) :
    o.unclipped.hasGlyphIndices = o.hasGlyphIndices := by
  unfold hasGlyphIndices
  rw [o.bits_unclipped_and rfl]

end TextOptions

def TextRun.unclipped (t : TextRun) : TextRun := { t with options := t.options.unclipped }

def Record.unclipped : Record → Record
  | .extTextOutA t => .extTextOutA { t with text := t.text.unclipped }
  | .extTextOutW t => .extTextOutW { t with text := t.text.unclipped }
  | record => record

/-- A save and a clip, and the record under it without a clip of its own. -/
def Record.underClip (record : Record) (rect : Rect) : List Record :=
  [.saveDc, .intersectClipRect rect, record.unclipped]

namespace Context

variable (c : Context) {text : TextRun}

theorem drawCharacters_unclipped (text : TextRun) :
    c.drawCharacters text.unclipped = c.drawCharacters text := by
  have run : ∀ (c : Context) reference,
      c.deviceText text.unclipped reference = c.deviceText text reference := by
    intro c reference
    unfold deviceText TextRun.unclipped
    rw [text.options.hasGlyphIndices_unclipped]
  unfold drawCharacters
  simp only [run]
  rfl

theorem backed_of_plain (plain : text.options.isOpaque = false) : c.backed text = c := by
  rw [backed, plain]
  rfl

theorem drawTextOut_clipped (clipped : text.options.isClipped = true)
    (plain : text.options.isOpaque = false) :
    c.drawTextOut text =
      c.proceed (c.areaMask (c.rectShape? text.rectangle)) (c.drawInside text) := by
  unfold drawTextOut
  dsimp only
  rw [c.backed_of_plain plain, if_pos clipped, drawNarrowed_eq]

theorem drawTextOut_unclipped (plain : text.options.isOpaque = false) :
    c.drawTextOut text.unclipped = c.drawCharacters text := by
  have plain' : text.unclipped.options.isOpaque = false :=
    text.options.isOpaque_unclipped.trans plain
  have still : ¬ text.unclipped.options.isClipped = true :=
    Bool.not_eq_true _ ▸ text.options.isClipped_unclipped
  unfold drawTextOut
  dsimp only
  rw [c.backed_of_plain plain', if_neg still, drawCharacters_unclipped]

/-- Drawing under another clip leaves of the state what it was, once the clip is taken back. -/
theorem taken_back {clip : Clip} {next : Context} (drawn : (c.withClip clip).Drawn next) :
    next.withClip c.state.clip =
      { next with state := { c.state with current := next.state.current }, saved := c.saved } := by
  obtain ⟨current, state⟩ := drawn.state
  have saved : next.saved = c.saved := drawn.saved
  unfold withClip
  rw [state, ← saved]
  rfl

def CanMask (c : Context) : Prop := c.mask?.isSome = true

theorem CanMask.exists_area {c : Context} (able : c.CanMask) (shape? : Option Shape) :
    ∃ area, c.areaMask shape? = .ok area := by
  obtain ⟨blank, found⟩ := Option.isSome_iff_exists.mp able
  unfold areaMask emptyMask
  rw [found]
  cases shape? <;> exact ⟨_, rfl⟩

def narrowed (area : Mask) : Context :=
  c.under (c.state.clip.combine area .intersect) (c.saved.push c.state)

theorem intersectClipRect_saved {rect : Rect} {area : Mask}
    (made : c.areaMask (c.rectShape? rect) = .ok area) :
    (c.apply .saveDc).1.apply (.intersectClipRect rect) = (c.narrowed area, none) := by
  change (c.apply .saveDc).1.proceed (c.areaMask (c.rectShape? rect)) _ = _
  rw [made]
  rfl

theorem drawTextOut_narrowed (clipped : text.options.isClipped = true)
    (plain : text.options.isOpaque = false) {area : Mask}
    (made : c.areaMask (c.rectShape? text.rectangle) = .ok area) :
    let inner := (c.narrowed area).drawTextOut text.unclipped
    inner.1.saved = c.saved.push c.state ∧
    c.drawTextOut text =
      ({ inner.1 with
          state := { c.state with current := inner.1.state.current }
          saved := c.saved }, inner.2) := by
  intro inner
  let clip := c.state.clip.combine area .intersect
  let lent := c.withClip clip
  have unseen : inner = Outcome.under (lent.drawCharacters text) clip (c.saved.push c.state) :=
    (drawTextOut_unclipped _ plain).trans
      (drawCharacters_of_same (c := lent) (fun _ _ _ => rfl) text)
  rw [unseen, c.drawTextOut_clipped clipped plain, made]
  have back := c.taken_back (lent.drawCharacters_drawn text)
  exact ⟨rfl, congrArg (Prod.mk · (lent.drawCharacters text).2) back⟩

/-- Text under a clip of its own does the same as a save, a clip to its rectangle, the text without
its own clip, and a restore. Only the current position is not restored: it stays where the text has
left it. -/
theorem apply_clippedText {record : Record} {t : TextOut}
    (isText : record = .extTextOutA t ∨ record = .extTextOutW t)
    (clipped : t.text.options.isClipped = true) (plain : t.text.options.isOpaque = false)
    (able : c.CanMask) :
    let inner := c.play (record.underClip t.text.rectangle)
    let restored := (inner.apply (.restoreDc (-1))).1
    (c.apply record).1 =
      { restored with state := { restored.state with current := inner.state.current } } ∧
    c.outcomes (record.underClip t.text.rectangle ++ [.restoreDc (-1)]) =
      [none, none, (c.apply record).2, none] := by
  intro inner restored
  obtain ⟨area, made⟩ := able.exists_area (c.rectShape? t.text.rectangle)
  obtain ⟨saved, same⟩ := c.drawTextOut_narrowed clipped plain made
  have drawn : c.apply record = c.drawTextOut t.text := by
    rcases isText with rfl | rfl <;> rfl
  have step := c.intersectClipRect_saved made
  have outcome : (c.narrowed area).apply record.unclipped =
      (c.narrowed area).drawTextOut t.text.unclipped := by
    rcases isText with rfl | rfl <;> rfl
  have drawnInner : inner = ((c.narrowed area).drawTextOut t.text.unclipped).1 := by
    change (((c.apply .saveDc).1.apply (.intersectClipRect t.text.rectangle)).1.apply
      record.unclipped).1 = _
    rw [step, outcome]
  have popped : inner.saved.popTo? (-1) = some (c.state, c.saved) := by
    rw [drawnInner, saved]
    exact c.saved.popTo?_push c.state
  have back : inner.apply (.restoreDc (-1)) =
      ({ inner with state := c.state, saved := c.saved }, none) := restoreDc_eq popped
  have whole : restored = { inner with state := c.state, saved := c.saved } :=
    congrArg Prod.fst back
  constructor
  · rw [drawn, same, whole, drawnInner]
  · change [none, ((c.apply .saveDc).1.apply (.intersectClipRect t.text.rectangle)).2,
      (((c.apply .saveDc).1.apply (.intersectClipRect t.text.rectangle)).1.apply
        record.unclipped).2, (inner.apply (.restoreDc (-1))).2] = _
    rw [drawn, step, outcome, same, back]

/-- Nothing is visible, a state is saved, and text follows the current position. -/
def maskedSquare : Context :=
  square.play
    [.setTextAlign 1, .extSelectClipRgn 5 (some ⟨⟨0, 0, 0, 0⟩, []⟩), .saveDc, .moveToEx ⟨1, 1⟩]

theorem maskedSquare_canMask : maskedSquare.CanMask := by
  have raster : maskedSquare.raster = square.raster := square.play_raster (by simp [Record.draws])
  have plotter : maskedSquare.plotter = square.plotter := square.play_plotter _
  unfold CanMask mask? rasterizer
  rw [raster, plotter]
  rfl

theorem apply_clippedText_letter :
    let record := Record.extTextOutW clippedLetter
    let inner := maskedSquare.play (record.underClip clippedLetter.text.rectangle)
    let restored := (inner.apply (.restoreDc (-1))).1
    clippedLetter.text.options.isClipped = true ∧ clippedLetter.text.options.isOpaque = false ∧
    maskedSquare.CanMask ∧
    (maskedSquare.apply record).1 =
      { restored with state := { restored.state with current := inner.state.current } } ∧
    maskedSquare.outcomes (record.underClip clippedLetter.text.rectangle ++ [.restoreDc (-1)]) =
      [none, none, (maskedSquare.apply record).2, none] := by
  have clipped : clippedLetter.text.options.isClipped = true := by decide
  have plain : clippedLetter.text.options.isOpaque = false := by decide
  exact ⟨clipped, plain, maskedSquare_canMask,
    apply_clippedText maskedSquare (Or.inr rfl) clipped plain maskedSquare_canMask⟩

end Context

end Metafile
