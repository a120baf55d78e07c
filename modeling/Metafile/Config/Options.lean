import Metafile.Config.Json
import Metafile.Font.Library

/-! # Configuration

Rendering options and font tables as JSON. A record is written as an object, in any order and with
members that are not known, or as an array of its fields in order. What is left out keeps its
default; a known member given twice, or of the wrong kind, refuses the whole text.
-/
namespace Metafile

structure RenderOptions where
  background : UInt8 × UInt8 × UInt8
  antiAlias : Bool
  /-- Where font files are; text is not drawn without it. -/
  fontDir : Option String
  /-- The longest side of a raster that is accepted. -/
  maxDimension : Nat
deriving DecidableEq, Repr

def RenderOptions.default : RenderOptions where
  background := (255, 255, 255)
  antiAlias := true
  fontDir := none
  maxDimension := 16384

instance : Inhabited RenderOptions := ⟨.default⟩

namespace JsonValue

def fields? (names : List String) : JsonValue → Option (List (String × JsonValue))
  | array items => if items.length ≤ names.length then some (names.zip items) else none
  | object members => do
      let named ← members.mapM fun (name, value) => name.map fun name => (name, value)
      let known := named.filter fun (name, _) => names.contains name
      if known.map (·.1) |>.Nodup then some known else none
  | _ => none

def fieldOr {α : Type} (fields : List (String × JsonValue)) (name : String) (default : α)
    (decode? : JsonValue → Option α) : Option α :=
  match fields.lookup name with
  | none => some default
  | some value => decode? value

def below? (limit : Nat) : JsonValue → Option Nat
  | number (some n) => if 0 ≤ n ∧ n < limit then some n.toNat else none
  | _ => none

def bool? : JsonValue → Option Bool
  | bool value => some value
  | _ => none

def text? : JsonValue → Option String
  | string text => text
  | _ => none

def optionalText? : JsonValue → Option (Option String)
  | null => some none
  | string text => text.map some
  | _ => none

def rgb? : JsonValue → Option (UInt8 × UInt8 × UInt8)
  | array [r, g, b] => do
      return (UInt8.ofNat (← below? 256 r), UInt8.ofNat (← below? 256 g), UInt8.ofNat (← below? 256 b))
  | _ => none

/-- Texts by name; of equal names the last one counts. -/
def textTable? : JsonValue → Option (List (String × String))
  | object members =>
      members.foldlM (fun entries (name, value) => do
        return replaceOrAppend entries (← name) (← text? value)) []
  | _ => none

end JsonValue

open JsonValue in
def RenderOptions.ofJson? (json : JsonValue) : Option RenderOptions := do
  let fields ← fields? ["background", "anti_alias", "font_dir", "max_dimension"] json
  return {
    background := ← fieldOr fields "background" default.background rgb?
    antiAlias := ← fieldOr fields "anti_alias" default.antiAlias bool?
    fontDir := ← fieldOr fields "font_dir" default.fontDir optionalText?
    maxDimension := ← fieldOr fields "max_dimension" default.maxDimension (below? UInt32.size) }

def RenderOptions.parse? (text : String) : Option RenderOptions :=
  (JsonValue.parse? text).bind ofJson?

open JsonValue in
def FontTable.ofJson? (json : JsonValue) : Option FontTable := do
  let fields ← fields? ["fonts", "fallback"] json
  return {
    files := ← fieldOr fields "fonts" default.files textTable?
    fallback := ← fieldOr fields "fallback" default.fallback text? }

def FontTable.parse? (text : String) : Option FontTable :=
  (JsonValue.parse? text).bind ofJson?

end Metafile
