import Metafile.Bytes.Layout
import Metafile.Font.Face

/-! # TrueType files

A reader of fonts. Numbers are stored with their high byte first. A table that is cut off or absent
is as good as empty, but for the three without which a face is of no use. Characters are looked up
in coverage tables of segments with 32-bit numbers alone, and a glyph that is put together from
others has no outline.
-/
namespace Metafile

namespace Bytes

def be16? (b : Bytes) (i : Nat) : Option Nat :=
  if i + 2 ≤ b.size then some ((b.byteAt i).toNat * 256 + (b.byteAt (i + 1)).toNat) else none

def bei16? (b : Bytes) (i : Nat) : Option Int :=
  (b.be16? i).map fun n => if n < 0x8000 then (n : Int) else (n : Int) - 0x10000

def be32? (b : Bytes) (i : Nat) : Option Nat := do
  return (← b.be16? i) * 65536 + (← b.be16? (i + 2))

end Bytes

inductive FaceFault where
  | unknownMagic
  | malformed
  | noHead
  | noHhea
  | noMaxp
  | noFace
deriving DecidableEq, Repr

def FaceFault.message : FaceFault → String
  | unknownMagic => "unknown magic"
  | malformed => "malformed font"
  | noHead => "the head table is missing or malformed"
  | noHhea => "the hhea table is missing or malformed"
  | noMaxp => "the maxp table is missing or malformed"
  | noFace => "face index is out of bounds"

structure GlyphRange where
  first : Nat
  last : Nat
  glyph : Nat
deriving Repr

structure OutlinePoint where
  x : Int
  y : Int
  onCurve : Bool
deriving Repr

def OutlinePoint.toDevice (p : OutlinePoint) : DevicePoint := ⟨Float32.ofInt p.x, Float32.ofInt p.y⟩

/-- The tables of a face by name, and what is read from those that no face can do without. -/
structure TrueType where
  table : String → Option Bytes
  unitsPerEm : Nat
  /-- Whether glyph positions are stored in four bytes, and not as half of them in two. -/
  wideOffsets : Bool
  headerAscender : Int
  headerDescender : Int
  metricCount : Nat
  glyphCount : Nat

namespace TrueType

def isFaceMagic (magic : Nat) : Bool :=
  magic == 0x00010000 || magic == 0x74727565 || magic == 0x4F54544F

def collectionMagic : Nat := 0x74746366

def directoryStart (data : Bytes) : Except FaceFault Nat := do
  let some magic := data.be32? 0 | throw .unknownMagic
  if isFaceMagic magic then return 4
  if magic ≠ collectionMagic then throw .unknownMagic
  let some count := data.be32? 8 | throw .malformed
  if data.size < 12 + 4 * count then throw .malformed
  if count = 0 then throw .noFace
  let some start := data.be32? 12 | throw .malformed
  if start < 12 + 4 * count ∨ data.size < start then throw .malformed
  match data.be32? start with
  | some inner => if isFaceMagic inner then return start + 4 else throw .unknownMagic
  | none => throw .unknownMagic

def readTables (data : Bytes) (start count : Nat) : List (String × Option Bytes) :=
  ((List.range count).map fun k =>
    let i := start + 16 * k
    let name := String.ofList
      ((List.range 4).map fun j => Char.ofNat (data.byteAt (i + j)).toNat)
    let offset := (data.be32? (i + 8)).getD 0
    let length := (data.be32? (i + 12)).getD 0
    (name, if offset + length ≤ data.size then some (data.slice offset length) else none)).reverse

def readHead (head : Bytes) : Option (Nat × Bool) := do
  if head.size < 54 then none
  let units ← head.be16? 18
  let format ← head.be16? 50
  if 16 ≤ units ∧ units ≤ 16384 ∧ format ≤ 1 then some (units, format = 1) else none

def readHhea (hhea : Bytes) : Option (Int × Int × Nat) := do
  return (← hhea.bei16? 4, ← hhea.bei16? 6, ← hhea.be16? 34)

def readMaxp (maxp : Bytes) : Option Nat := do
  let version ← maxp.be32? 0
  let count ← maxp.be16? 4
  if (version = 0x5000 ∨ version = 0x10000) ∧ 0 < count then some count else none

def parse (data : Bytes) : Except FaceFault TrueType := do
  let start ← directoryStart data
  let some count := data.be16? start | throw .malformed
  if data.size < start + 8 + 16 * count then throw .malformed
  let tables := readTables data (start + 8) count
  let table (name : String) : Option Bytes := (tables.lookup name).join
  let some (unitsPerEm, wideOffsets) := readHead ((table "head").getD #[]) | throw .noHead
  let some (headerAscender, headerDescender, metricCount) := readHhea ((table "hhea").getD #[])
    | throw .noHhea
  let some glyphCount := readMaxp ((table "maxp").getD #[]) | throw .noMaxp
  return { table, unitsPerEm, wideOffsets, headerAscender, headerDescender, metricCount, glyphCount }

def styleTable (f : TrueType) : Option Bytes := do
  let table ← f.table "OS/2"
  let version ← table.be16? 0
  let size ← [78, 86, 96, 96, 96, 100][version]?
  if table.size < size then none else some table

def usesTypographic (style : Bytes) : Bool :=
  4 ≤ (style.be16? 0).getD 0 && (style.be16? 62).getD 0 / 128 % 2 == 1

/-- A height: the header's, unless the style table overrides it; when that is zero, the
typographic height or else the clipping height of the style table. -/
def chooseHeight (f : TrueType) (header : Int) (typographic clipping : Bytes → Int) : Int :=
  match f.styleTable with
  | none => header
  | some style =>
      if usesTypographic style then typographic style
      else if header ≠ 0 then header
      else if typographic style ≠ 0 then typographic style
      else clipping style

def ascender (f : TrueType) : Int :=
  f.chooseHeight f.headerAscender (fun style => (style.bei16? 68).getD 0)
    fun style => (style.bei16? 74).getD 0

def descender (f : TrueType) : Int :=
  f.chooseHeight f.headerDescender (fun style => (style.bei16? 70).getD 0)
    fun style => -(style.bei16? 76).getD 0

def underline? (f : TrueType) : Option RuleMetrics := do
  let post ← f.table "post"
  let version ← post.be32? 0
  if post.size < 32 then none
  if version ∈ [0x10000, 0x20000, 0x25000, 0x30000, 0x40000] then
    return ⟨← post.bei16? 8, ← post.bei16? 10⟩
  else none

def strikeOut? (f : TrueType) : Option RuleMetrics := do
  let style ← f.styleTable
  return ⟨← style.bei16? 28, ← style.bei16? 26⟩

/-- The character ranges of a segmented coverage table at a position of the character map. -/
def readRanges (cmap : Bytes) (start : Nat) : List GlyphRange :=
  if cmap.be16? start = some 12 then
    let count := (cmap.be32? (start + 12)).getD 0
    if cmap.size < start + 16 + 12 * count then []
    else
      (List.range count).filterMap fun k => do
        let i := start + 16 + 12 * k
        return ⟨← cmap.be32? i, ← cmap.be32? (i + 4), ← cmap.be32? (i + 8)⟩
  else []

def glyphRanges (f : TrueType) : List GlyphRange :=
  match f.table "cmap" with
  | none => []
  | some cmap =>
      let count := (cmap.be16? 2).getD 0
      (List.range count).flatMap fun k =>
        let i := 4 + 8 * k
        let platform := cmap.be16? i
        let encoding := cmap.be16? (i + 2)
        if platform = some 0 ∨ (platform = some 3 ∧ (encoding = some 1 ∨ encoding = some 10)) then
          ((cmap.be32? (i + 4)).map (readRanges cmap)).getD []
        else []

def glyph? (f : TrueType) (c : Char) : Option Nat := do
  let range ← f.glyphRanges.find? fun r => r.first ≤ c.toNat && c.toNat ≤ r.last
  let glyph := range.glyph + c.toNat - range.first
  if glyph < 0x10000 then some glyph else none

/-- The advance of a glyph; the last one given is that of all glyphs behind it. -/
def advance? (f : TrueType) (glyph : Nat) : Option Nat := do
  let hmtx ← f.table "hmtx"
  if f.metricCount = 0 ∨ hmtx.size < 4 * f.metricCount ∨ f.glyphCount ≤ glyph then none
  hmtx.be16? (4 * min glyph (f.metricCount - 1))

def glyphData? (f : TrueType) (glyph : Nat) : Option Bytes := do
  let loca ← f.table "loca"
  let glyf ← f.table "glyf"
  if f.glyphCount ≤ glyph then none
  let offset (k : Nat) : Option Nat :=
    if f.wideOffsets then loca.be32? (4 * k) else (loca.be16? (2 * k)).map (2 * ·)
  let start ← offset glyph
  let stop ← offset (glyph + 1)
  if start < stop ∧ stop ≤ glyf.size then some (glyf.slice start (stop - start)) else none

def readFlags (data : Bytes) : Nat → Nat → List Nat → Option (List Nat × Nat)
  | 0, i, flags => some (flags.reverse, i)
  | count + 1, i, flags =>
      if i < data.size then
        let flag := (data.byteAt i).toNat
        if flag / 8 % 2 = 1 then
          if i + 1 < data.size then
            let copies := min (data.byteAt (i + 1)).toNat count
            readFlags data (count - copies) (i + 2) (List.replicate (copies + 1) flag ++ flags)
          else none
        else readFlags data count (i + 1) (flag :: flags)
      else none
termination_by count => count

/-- Coordinates along one axis, each given as the difference from the one before: in one byte with
the sign in the flag, in two bytes, or not at all when it stays the same. -/
def readCoordinates (data : Bytes) (short same : Nat) : List Nat → Nat → Int → Option (List Int × Nat)
  | [], i, _ => some ([], i)
  | flag :: flags, i, previous => do
      let isShort := flag / short % 2 = 1
      let isSame := flag / same % 2 = 1
      let (change, next) ←
        if isShort then
          if i < data.size then
            let size : Int := (data.byteAt i).toNat
            some (if isSame then size else -size, i + 1)
          else none
        else if isSame then some (0, i)
        else (data.bei16? i).map fun change => (change, i + 2)
      let here := (previous + change).bmod 65536
      let (rest, stop) ← readCoordinates data short same flags next here
      return (here :: rest, stop)

def contoursOf (points : List OutlinePoint) (start : Nat) : List Nat → List (List OutlinePoint)
  | [] => []
  | last :: rest =>
      let count := last + 1 - start
      points.take count :: contoursOf (points.drop count) (max start (last + 1)) rest

def readContours (data : Bytes) : Option (List (List OutlinePoint)) := do
  let count ← data.bei16? 0
  if count < 1 then none
  let count := count.toNat
  let ends ← (List.range count).mapM fun k => data.be16? (10 + 2 * k)
  let total := (ends.getLast?.getD 0) + 1
  if total = 1 then return []
  let codeSize ← data.be16? (10 + 2 * count)
  let (flags, i) ← readFlags data total (12 + 2 * count + codeSize) []
  let (xs, i) ← readCoordinates data 2 16 flags i 0
  let (ys, _) ← readCoordinates data 4 32 flags i 0
  let points := (flags.zip (xs.zip ys)).map fun (flag, x, y) => ⟨x, y, flag % 2 = 1⟩
  return contoursOf points 0 ends

def halfway (a b : DevicePoint) : DevicePoint :=
  ⟨a.x + 0.5 * (b.x - a.x), a.y + 0.5 * (b.y - a.y)⟩

/-- What is drawn of a contour behind its start, and the way back to it; between two control points
the curve passes half-way. -/
def contourSteps (control? : Option DevicePoint) (start : DevicePoint) :
    List OutlinePoint → PathDraft
  | [] =>
      match control? with
      | some c => [.quad c start, .close]
      | none => [.line start, .close]
  | p :: rest =>
      let here := p.toDevice
      match control?, p.onCurve with
      | some c, true => .quad c here :: contourSteps none start rest
      | some c, false => .quad c (halfway c here) :: contourSteps (some here) start rest
      | none, true => .line here :: contourSteps none start rest
      | none, false => contourSteps (some here) start rest

/-- A contour that starts with a control point is begun at the next point if that is on the curve, or
half-way to it, and comes back through the first. -/
def drawContour : List OutlinePoint → PathDraft
  | [] => []
  | first :: rest =>
      if first.onCurve then .move first.toDevice :: contourSteps none first.toDevice rest
      else
        match rest with
        | [] => [.close]
        | second :: others =>
            let onward := others ++ [first]
            if second.onCurve then .move second.toDevice :: contourSteps none second.toDevice onward
            else
              let start := halfway first.toDevice second.toDevice
              .move start :: contourSteps (some second.toDevice) start onward

def outline? (f : TrueType) (glyph : Nat) : Option PathDraft := do
  let data ← f.glyphData? glyph
  return (← readContours data).flatMap drawContour

def face (f : TrueType) : Face where
  unitsPerEm := f.unitsPerEm
  ascender := f.ascender
  descender := f.descender
  glyph? := f.glyph?
  advance? := f.advance?
  outline? := f.outline?
  underline? := f.underline?
  strikeOut? := f.strikeOut?

def reader : FontReader := fun data =>
  match parse data with
  | .ok f => .ok f.face
  | .error fault => .error fault.message

end TrueType

end Metafile
