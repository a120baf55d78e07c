import Metafile.Record.Fault

/-! # Errors

An error of decoding ends the whole file, since the record boundaries behind it cannot be
trusted. An error of drawing concerns one record, and playback goes on with the next one.
-/
namespace Metafile

inductive PixelFormatFault where
  | sourceDepth (bits : Nat)
  | targetDepth (bits : Nat)
  | depth (bits : Nat)
  | compression (code : Nat)
  | other (text : String)
deriving DecidableEq, Repr

def PixelFormatFault.message : PixelFormatFault → String
  | sourceDepth bits => s!"{bits} bpp source"
  | targetDepth bits => s!"{bits} bpp target"
  | depth bits => s!"{bits} bpp"
  | compression code => s!"compression {code}"
  | other text => text

inductive BitmapFault where
  | tooLarge (width height : Nat)
  | dataTooShort (width height bits needed available : Nat)
  | empty (width height : Int)
  | noPattern (width height : Nat)
  | missingSource (rop : UInt32)
  | other (text : String)
deriving DecidableEq, Repr

def BitmapFault.message : BitmapFault → String
  | tooLarge width height => s!"{width}x{height} bitmap is too large"
  | dataTooShort width height bits needed available =>
      s!"{width}x{height} at {bits} bpp needs {needed} bytes, got {available}"
  | empty width height => s!"empty bitmap {width}x{height}"
  | noPattern width height => s!"cannot build a {width}x{height} pixmap"
  | missingSource rop =>
      "raster operation 0x" ++ hexNumeral 8 rop.toNat ++ " needs a source bitmap"
  | other text => text

inductive DrawingFault where
  | unknownRop (rop : UInt32)
  | unknownRegionMode (mode : UInt32)
  | badFont (reason : String)
  | noMask
  | other (text : String)
deriving DecidableEq, Repr

def DrawingFault.message : DrawingFault → String
  | unknownRop rop => "unsupported raster operation 0x" ++ hexNumeral 8 rop.toNat
  | unknownRegionMode mode => s!"unknown region mode {mode}"
  | badFont reason => "font does not parse: " ++ reason
  | noMask => "cannot allocate a clip mask"
  | other text => text

inductive Error where
  | unexpectedEnd (offset needed available : Nat)
  | invalidOffset (origin : Nat) (delta : Int64) (size : Nat)
  | malformedRecord (offset : Nat) (tag : UInt32) (fault : RecordFault)
  | duplicateHandle (handle : UInt32) (offset : Nat)
  | unknownHandle (handle : UInt32)
  | unsupportedPixelFormat (fault : PixelFormatFault)
  | invalidBitmap (fault : BitmapFault)
  | invalidRasterSize (width height : Int)
  | drawing (fault : DrawingFault)
  | image
  | io
deriving DecidableEq, Repr

namespace Error

/-- The wording of an error; an encoder's or the file system's own words are not modelled. -/
def message : Error → String
  | unexpectedEnd offset needed available =>
      s!"Unexpected end of data at offset {offset}: needed {needed} bytes, {available} available"
  | invalidOffset origin delta size =>
      s!"Invalid offset: seeking {delta.toInt} bytes from offset {origin} leaves a buffer of {size} bytes"
  | malformedRecord offset tag fault =>
      "Malformed record 0x" ++ hexNumeral 2 tag.toNat ++ s!" at offset {offset}: " ++ fault.message
  | duplicateHandle handle offset => s!"Duplicate object handle {handle} at offset {offset}"
  | unknownHandle handle => s!"Unknown object handle {handle}"
  | unsupportedPixelFormat fault => "Unsupported pixel format: " ++ fault.message
  | invalidBitmap fault => "Invalid bitmap: " ++ fault.message
  | invalidRasterSize width height => s!"Invalid raster size {width}x{height}"
  | drawing fault => "Drawing failed: " ++ fault.message
  | image => "Image error"
  | io => "IO error"

/-- Whether the error ends the whole file, and not only one record. -/
def isFatal : Error → Bool
  | unknownHandle _ | unsupportedPixelFormat _ | invalidBitmap _ | drawing _ => false
  | _ => true

end Error

end Metafile
