/-! # Stock objects

Objects that every device context has. Their handles have the top bit set, so they differ from
those of created objects, and they cannot be deleted.
-/
namespace Metafile.Stock

def whiteBrush : UInt32 := 0x80000000
def lightGrayBrush : UInt32 := 0x80000001
def grayBrush : UInt32 := 0x80000002
def darkGrayBrush : UInt32 := 0x80000003
def blackBrush : UInt32 := 0x80000004
def nullBrush : UInt32 := 0x80000005
def whitePen : UInt32 := 0x80000006
def blackPen : UInt32 := 0x80000007
def nullPen : UInt32 := 0x80000008
def oemFixedFont : UInt32 := 0x8000000A
def ansiFixedFont : UInt32 := 0x8000000B
def ansiVarFont : UInt32 := 0x8000000C
def systemFont : UInt32 := 0x8000000D
def deviceDefaultFont : UInt32 := 0x8000000E
def defaultPalette : UInt32 := 0x8000000F
def systemFixedFont : UInt32 := 0x80000010
def defaultGuiFont : UInt32 := 0x80000011
def dcBrush : UInt32 := 0x80000012
def dcPen : UInt32 := 0x80000013

def isStock (handle : UInt32) : Bool := handle &&& 0x80000000 != 0

/-- The fonts of the range; all of them are drawn with the default font. -/
def fonts : List UInt32 :=
  [oemFixedFont, ansiFixedFont, ansiVarFont, systemFont, deviceDefaultFont, systemFixedFont,
    defaultGuiFont]

end Metafile.Stock
