import Metafile.Proofs.NewContext
import Metafile.Proofs.PlaybackInPlace

/-! # What a failing record leaves behind

A record that fails is passed over and playback goes on, so it must not leave anything half done,
although it changes the context step by step. Only on the raster can a trace of it remain: the outline
of a shape that could not be filled, and the rectangle behind a text that could not be drawn. What is
known about fonts does not count. -/
namespace Metafile

/-- The records that may leave a trace on the raster although they fail. -/
def Record.leavesTrace : Record → Bool
  | .rectangle _ | .ellipse _ | .polygon _ | .polyPolygon _ => true
  | .extTextOutA t | .extTextOutW t => t.text.options.isOpaque
  | _ => false

namespace Context

/-- If a step fails, it leaves a context behind as it is, apart from what it learned about fonts. -/
def Outcome.LeavesBehind (outcome : Outcome) (rest : Context) : Prop :=
  ∀ e, outcome.2 = some e → ∃ fonts, outcome.1 = { rest with fonts }

theorem Outcome.error_of_report {outcome : Outcome} {e : Error}
    (failed : outcome.report.1 = .error e) : outcome.2 = some e := by
  obtain ⟨next, error?⟩ := outcome
  cases error? with
  | none => cases failed
  | some other =>
    cases failed
    rfl

def remnant (c : Context) : Record → Context
  | .rectangle rect => c.stroke (c.rectShape? rect)
  | .ellipse rect => c.stroke (c.ellipseShape? rect)
  | .polygon poly => c.stroke (c.lineShape? poly.points true)
  | .polyPolygon poly => c.stroke (c.figuresShape? poly true)
  | .extTextOutA t | .extTextOutW t => c.backed t.text
  | _ => c

variable {c : Context}

namespace Outcome.LeavesBehind

theorem of_none {outcome : Outcome} {rest : Context} (done : outcome.2 = none) :
    outcome.LeavesBehind rest := by
  intro e failed
  rw [done] at failed
  cases failed

theorem of_eq {outcome : Outcome} {rest : Context} (same : outcome.1 = rest) :
    outcome.LeavesBehind rest := by
  intro e failed
  exact ⟨rest.fonts, same⟩

theorem of_settles {outcome : Outcome} (settled : c.Settles outcome) : outcome.LeavesBehind c := by
  cases settled with
  | refused e => exact .of_eq rfl
  | changed objects state clip => exact .of_none rfl
  | saved => exact .of_none rfl
  | restored popped => exact .of_none rfl

theorem of_narrowed {outcome : Outcome} {clip : Clip} (h : outcome.LeavesBehind (c.withClip clip)) :
    LeavesBehind (outcome.1.withClip c.state.clip, outcome.2) c := by
  intro e failed
  obtain ⟨fonts, narrowed⟩ := h e failed
  refine ⟨fonts, ?_⟩
  dsimp only
  rw [narrowed]
  rfl

theorem of_proceed {α : Type} {step : Except Error α} {next : α → Outcome}
    (h : ∀ a, step = .ok a → (next a).LeavesBehind c) : (c.proceed step next).LeavesBehind c := by
  cases step with
  | ok a => exact h a rfl
  | error e => exact .of_eq rfl

end Outcome.LeavesBehind

theorem fillAndStroke_leavesBehind (shape? : Option Shape) :
    Outcome.LeavesBehind (c.fillAndStroke shape?) (c.stroke shape?) := by
  cases shape? with
  | none => exact .of_none rfl
  | some shape =>
    unfold fillAndStroke fillShape
    cases c.brushInk with
    | error e => exact .of_eq rfl
    | ok ink? => cases ink? <;> exact .of_none rfl

theorem transfer_leavesBehind (t : Transfer) : Outcome.LeavesBehind (c.transfer t) c :=
  .of_proceed fun _ _ => .of_proceed fun _ _ => .of_proceed fun _ _ => .of_none rfl

theorem drawCharacters_leavesBehind (text : TextRun) :
    Outcome.LeavesBehind (c.drawCharacters text) c := by
  unfold drawCharacters
  split
  · exact .of_none rfl
  dsimp only
  split
  · exact .of_none rfl
  · rename_i font _
    generalize Plotter.drawText _ _ _ _ _ _ = drawn
    cases drawn with
    | error e => exact fun _ _ => ⟨_, rfl⟩
    | ok drawn =>
      dsimp only [proceed]
      split <;> exact .of_none rfl

theorem drawTextOut_leavesBehind (text : TextRun) :
    Outcome.LeavesBehind (c.drawTextOut text) (c.backed text) := by
  unfold drawTextOut
  dsimp only
  split
  · rw [drawNarrowed_eq]
    exact .of_proceed fun area _ => .of_narrowed (drawCharacters_leavesBehind text)
  · exact drawCharacters_leavesBehind text

theorem apply_leavesBehind (record : Record) : (c.apply record).LeavesBehind (c.remnant record) := by
  cases draws : record.draws with
  | false =>
    have whole : c.remnant record = c := by
      cases record <;> first | rfl | cases draws
    rw [whole]
    exact .of_settles (c.apply_settles draws)
  | true =>
    cases record
    case setPixelV | lineTo | polylineTo | polyBezierTo | polyline | polyBezier | polyPolyline =>
      exact .of_none rfl
    case rectangle | ellipse | polygon | polyPolygon => exact fillAndStroke_leavesBehind _
    case bitBlt | stretchBlt | stretchDiBits => exact transfer_leavesBehind _
    case extTextOutA t | extTextOutW t => exact drawTextOut_leavesBehind t.text
    all_goals cases draws

theorem stroke_eq (c : Context) (shape? : Option Shape) :
    ∃ raster, c.stroke shape? = { c with raster } := by
  unfold stroke
  split
  · exact ⟨c.raster, rfl⟩
  split
  · exact ⟨c.raster, rfl⟩
  · exact ⟨_, rfl⟩

theorem backed_eq (c : Context) (text : TextRun) : ∃ raster, c.backed text = { c with raster } := by
  unfold backed
  split
  · exact ⟨_, rfl⟩
  · exact ⟨c.raster, rfl⟩

theorem remnant_eq (c : Context) (record : Record) :
    ∃ raster, c.remnant record = { c with raster } := by
  cases record
  case rectangle | ellipse | polygon | polyPolygon => exact c.stroke_eq _
  case extTextOutA t | extTextOutW t => exact c.backed_eq t.text
  all_goals exact ⟨c.raster, rfl⟩

theorem remnant_of_traceless {record : Record} (traceless : record.leavesTrace = false) :
    c.remnant record = c := by
  cases record
  case extTextOutA t | extTextOutW t =>
    change t.text.options.isOpaque = false at traceless
    change c.backed t.text = c
    rw [backed, traceless]
    rfl
  all_goals first | rfl | cases traceless

/-- A record that fails, carried out in place, changes neither the drawing state nor the saved ones
nor the objects. The raster is what the record leaves of it, and that is all of it unless the record
fills a shape or draws a text on a background of its own. -/
theorem apply_failed {record : Record} {e : Error}
    (failed : ((ContextUpdate.apply record).outcome c).1 = .error e) :
    let next := ((ContextUpdate.apply record).outcome c).2
    c.apply record = (next, some e) ∧
    next.state = c.state ∧ next.saved = c.saved ∧ next.objects = c.objects ∧
    next.bounds = c.bounds ∧ next.plotter = c.plotter ∧
    next.raster = (c.remnant record).raster ∧
    (record.leavesTrace = false → next.raster = c.raster) := by
  rw [ContextUpdate.outcome_apply] at failed ⊢
  have error : (c.apply record).2 = some e := Outcome.error_of_report failed
  obtain ⟨fonts, left⟩ := apply_leavesBehind record e error
  obtain ⟨raster, trace⟩ := c.remnant_eq record
  have whole : (c.apply record).1 = { c with raster, fonts } := by rw [left, trace]
  have traced : (c.remnant record).raster = raster := by rw [trace]
  rw [traced]
  intro next
  have next_eq : next = { c with raster, fonts } := whole
  refine ⟨Prod.ext rfl error, ?_⟩
  rw [next_eq]
  refine ⟨rfl, rfl, rfl, rfl, rfl, rfl, fun traceless => ?_⟩
  rw [← traced, remnant_of_traceless traceless]

def strayTransfer : Transfer where
  bounds := ⟨0, 0, 1, 1⟩
  xDest := 0
  yDest := 0
  cxDest := 2
  cyDest := 2
  xSrc := 0
  ySrc := 0
  cxSrc := 2
  cySrc := 2
  rop := 0x00112233
  xformSrc := .identity
  bkColorSrc := .white
  usageSrc := 0
  source := none

theorem bitBlt_strayTransfer :
    let outcome := (ContextUpdate.apply (.bitBlt strayTransfer)).outcome square
    outcome.1 = .error (.drawing (.unknownRop 0x00112233)) ∧
    outcome.2.state = square.state ∧ outcome.2.raster = square.raster := by
  intro outcome
  have failed : outcome.1 = .error (.drawing (.unknownRop 0x00112233)) := rfl
  obtain ⟨-, state, -, -, -, -, -, raster⟩ := apply_failed failed
  exact ⟨failed, state, raster rfl⟩

end Context

end Metafile
