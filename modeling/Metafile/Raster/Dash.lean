import Metafile.Object.Pen
import Metafile.Raster.Figure

/-! # Dashes

A dashed figure is measured along its lines from the start. Lengths to draw and lengths to skip
take turns, a length to draw first. On a closed figure the first dash is drawn last; when a dash
runs to the end, the two are one.
-/
namespace Metafile

structure Leg where
  start : Vec
  stop : Vec
  leaving : Vec
  arriving : Vec
  smooth : Bool
deriving Repr, Inhabited

namespace Leg

def toCorner (start : Vec) (smooth : Bool) (c : Corner) : Leg :=
  let straight := (c.place.sub start).unit
  let (leaving, arriving) := c.along.getD (straight, straight)
  ⟨start, c.place, leaving, arriving, smooth⟩

def length (leg : Leg) : Float := (leg.stop.sub leg.start).length

def placeAt (leg : Leg) (distance : Float) : Vec :=
  if leg.length ≤ distance then leg.stop
  else leg.start.add ((leg.stop.sub leg.start).unit.scale distance)

def directionAt (leg : Leg) (distance : Float) : Vec :=
  if distance ≤ 0 then leg.leaving
  else if leg.length ≤ distance then leg.arriving
  else (leg.leaving.between leg.arriving (distance / leg.length)).unit

def part (leg : Leg) (lo hi : Float) : Leg :=
  { leg with
    start := leg.placeAt lo
    stop := leg.placeAt hi
    leaving := leg.directionAt lo
    arriving := leg.directionAt hi }

end Leg

/-- A chain of legs to be drawn with a pen. Without legs it is a dot, or nothing at all when the
pen was never put down. -/
structure Trace where
  start : Vec
  legs : List Leg
  closed : Bool
deriving Repr

namespace Figure

/-- The legs from a place on, leaving out corners that do not move. The corner reached by a leg is
smooth if it is so marked. -/
def legsFrom (here : Vec) (smooth : Bool) : List Corner → List Leg
  | [] => []
  | c :: rest =>
      if here.isNear c.place then legsFrom here smooth rest
      else .toCorner here smooth c :: legsFrom c.place c.smooth rest

def trace (f : Figure) : Trace :=
  let corners := if f.closed then f.corners ++ [⟨f.start, none, false⟩] else f.corners
  ⟨f.start, legsFrom f.start false corners, f.closed⟩

end Figure

namespace Trace

def length (t : Trace) : Float := t.legs.foldl (fun sum leg => sum + leg.length) 0

def cut (start stop : Float) (behind : Float) : List Leg → List Leg
  | [] => []
  | leg :: rest =>
      let length := leg.length
      let lo := max (start - behind) 0
      let hi := min (stop - behind) length
      if stop ≤ behind then []
      else
        let tail := cut start stop (behind + length) rest
        if lo < hi then leg.part lo hi :: tail else tail

def placeAt (distance : Float) : List Leg → Vec → Vec
  | [], here => here
  | leg :: rest, _ =>
      if distance ≤ leg.length then leg.placeAt distance
      else placeAt (distance - leg.length) rest leg.stop

def part (t : Trace) (start stop : Float) : Trace :=
  ⟨placeAt start t.legs t.start, cut start stop 0 t.legs, false⟩

def maxDashes : Nat := 1000000

/-- The distances at which dashes start and stop, up to an end, from a place of the pattern on;
those found before are given last first. At most the given number of lengths is taken. -/
def intervals (pattern : Array Float) (stop : Float) (found : List (Float × Float)) :
    Nat → Nat → Float → List (Float × Float)
  | 0, _, _ => found.reverse
  | steps + 1, index, distance =>
      if distance < stop then
        let next := distance + pattern[index % pattern.size]?.getD 0
        let found := if index % 2 = 0 then (distance, next) :: found else found
        intervals pattern stop found steps (index + 1) next
      else found.reverse

def dashes (t : Trace) (pattern : List Float32) : List Trace :=
  let lengths := (pattern.map (·.toFloat)).toArray
  let total := t.length
  let drawn := intervals lengths total [] (2 * maxDashes + lengths.size) 0 0
  if t.legs.isEmpty then []
  else if t.closed then
    let first := t.part 0 (lengths[0]?.getD 0)
    let others := drawn.drop 1
    match others.getLast? with
    | some (start, stop) =>
        if total ≤ stop then
          let last := t.part start stop
          (others.dropLast.map fun (a, b) => t.part a b) ++
            [{ last with legs := last.legs ++ first.legs }]
        else (others.map fun (a, b) => t.part a b) ++ [first]
    | none => [first]
  else drawn.map fun (a, b) => t.part a b

def dashCount (length : Float) (pattern : List Float32) : Float :=
  length * Float.ofNat (pattern.length / 2) / (pattern.foldl (· + ·) 0).toFloat

end Trace

end Metafile
