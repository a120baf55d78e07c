import Metafile.Bytes.Layout

/-! # Windows-1252

One character per byte. The bytes from 0x80 to 0x9F are typographic characters, five of them the
control character of the same number; every other byte is the character of its own number. All
lie in the basic plane, so each is one UTF-16 code unit.
-/
namespace Metafile.Windows1252

/-- The characters of the bytes 0x80 to 0x9F. -/
def typographic : List UInt16 :=
  [0x20AC, 0x0081, 0x201A, 0x0192, 0x201E, 0x2026, 0x2020, 0x2021,
   0x02C6, 0x2030, 0x0160, 0x2039, 0x0152, 0x008D, 0x017D, 0x008F,
   0x0090, 0x2018, 0x2019, 0x201C, 0x201D, 0x2022, 0x2013, 0x2014,
   0x02DC, 0x2122, 0x0161, 0x203A, 0x0153, 0x009D, 0x017E, 0x0178]

def decodeByte (b : UInt8) : UInt16 :=
  if 0x80 ≤ b ∧ b < 0xA0 then typographic[b.toNat - 0x80]?.getD 0 else b.toUInt16

def decode (bytes : Bytes) : List UInt16 := bytes.toList.map decodeByte

end Metafile.Windows1252
