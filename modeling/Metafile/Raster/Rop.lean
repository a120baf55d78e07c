/-! # Raster operations

Each combines a source, the pixel that is there, and a pattern, bit by bit. The bits 16 to 23 of
an operation's code are its truth table.
-/
namespace Metafile

inductive Rop where
  | srcCopy
  | srcPaint
  | srcAnd
  | srcInvert
  | srcErase
  | notSrcCopy
  | notSrcErase
  | mergeCopy
  | mergePaint
  | patCopy
  | patInvert
  | dstInvert
  | blackness
  | whiteness
deriving DecidableEq, Repr

namespace Rop

def code : Rop → UInt32
  | srcCopy => 0x00CC0020
  | srcPaint => 0x00EE0086
  | srcAnd => 0x008800C6
  | srcInvert => 0x00660046
  | srcErase => 0x00440328
  | notSrcCopy => 0x00330008
  | notSrcErase => 0x001100A6
  | mergeCopy => 0x00C000CA
  | mergePaint => 0x00BB0226
  | patCopy => 0x00F00021
  | patInvert => 0x005A0049
  | dstInvert => 0x00550009
  | blackness => 0x00000042
  | whiteness => 0x00FF0062

def known : List Rop :=
  [srcCopy, srcPaint, srcAnd, srcInvert, srcErase, notSrcCopy, notSrcErase, mergeCopy, mergePaint,
    patCopy, patInvert, dstInvert, blackness, whiteness]

def ofCode? (code : UInt32) : Option Rop := known.find? (·.code == code)

def usesSource : Rop → Bool
  | patCopy | patInvert | dstInvert | blackness | whiteness => false
  | _ => true

def usesPattern : Rop → Bool
  | mergeCopy | patCopy | patInvert => true
  | _ => false

def combine (op : Rop) (s d p : UInt8) : UInt8 :=
  match op with
  | srcCopy => s
  | srcPaint => s ||| d
  | srcAnd => s &&& d
  | srcInvert => s ^^^ d
  | srcErase => s &&& ~~~d
  | notSrcCopy => ~~~s
  | notSrcErase => ~~~(s ||| d)
  | mergeCopy => s &&& p
  | mergePaint => ~~~s ||| d
  | patCopy => p
  | patInvert => p ^^^ d
  | dstInvert => ~~~d
  | blackness => 0
  | whiteness => 255

theorem ofCode?_code (op : Rop) : ofCode? op.code = some op := by
  cases op <;> rfl

end Rop

end Metafile
