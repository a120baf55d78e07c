import Metafile.Text.Hex

/-! # What can be wrong with a record

Every fault is found from the record's own bytes, except `noHeader` and `noEof`, which are found
from its place in the stream.
-/
namespace Metafile

inductive RecordFault where
  | sizeBelowHeader (size : Nat)
  | fixedFieldsCut (size needed : Nat)
  | elementsOverrun (count width : Nat)
  | sectionOutside (offset size : Nat)
  | sectionOverrun (length offset : Nat)
  | bitmapInfoTooShort (length : Nat)
  | patternWithoutBitmap
  | reservedHandle
  | stockHandle (handle : UInt32)
  | badSignature (signature : UInt32)
  | regionDataTooShort (length : Nat)
  | incompleteCurve (count : Nat)
  | figureTotal (total declared : Nat)
  | missingAdvances (count : Nat)
  | advanceCountOverflow
  | noHeader
  | noEof
  /-- A fault that a caller found, in its own words. -/
  | other (text : String)
deriving DecidableEq, Repr

def RecordFault.message : RecordFault → String
  | sizeBelowHeader size => s!"declared size {size} is smaller than the record header"
  | fixedFieldsCut size needed => s!"record is {size} bytes but its fixed fields need {needed}"
  | elementsOverrun count width =>
      s!"{count} elements of {width} bytes run past the end of the record"
  | sectionOutside offset size => s!"section offset {offset} lies outside the {size}-byte record"
  | sectionOverrun length offset =>
      s!"{length}-byte section at offset {offset} runs past the end of the record"
  | bitmapInfoTooShort length => s!"bitmap info of {length} bytes is too short"
  | patternWithoutBitmap => "pattern brush without a bitmap"
  | reservedHandle => "object handle 0 is reserved"
  | stockHandle handle =>
      "object handle 0x" ++ hexNumeral 8 handle.toNat ++ " is in the stock object range"
  | badSignature signature => "invalid EMF signature 0x" ++ hexNumeral 8 signature.toNat
  | regionDataTooShort length => s!"region data of {length} bytes is shorter than its header"
  | incompleteCurve count => s!"{count} points do not form cubic segments"
  | figureTotal total declared =>
      s!"figure sizes add up to {total} points, record declares {declared}"
  | missingAdvances count => s!"{count} characters without an advance array"
  | advanceCountOverflow => "advance array size overflows"
  | noHeader => "stream does not start with an EMF header"
  | noEof => "stream ends without an EOF record"
  | other text => text

end Metafile
