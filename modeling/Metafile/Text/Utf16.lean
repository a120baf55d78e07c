/-! # UTF-16 code units

A high surrogate directly before a low surrogate forms one character of two units. Every other
unit stands for itself; an unpaired surrogate is read as the replacement character.
-/
namespace Metafile.Utf16

def replacement : Char := '\uFFFD'

def IsHighSurrogate (u : UInt16) : Prop := 0xD800 ≤ u ∧ u < 0xDC00

def IsLowSurrogate (u : UInt16) : Prop := 0xDC00 ≤ u ∧ u < 0xE000

instance (u : UInt16) : Decidable (IsHighSurrogate u) := inferInstanceAs (Decidable (_ ∧ _))

instance (u : UInt16) : Decidable (IsLowSurrogate u) := inferInstanceAs (Decidable (_ ∧ _))

def pairChar (high low : UInt16) : Char :=
  Char.ofNat (0x10000 + (high.toNat - 0xD800) * 0x400 + (low.toNat - 0xDC00))

def unitChar (u : UInt16) : Char :=
  if IsHighSurrogate u ∨ IsLowSurrogate u then replacement else Char.ofNat u.toNat

/-- The characters of a text, each with the number of units it takes. -/
def spans : List UInt16 → List (Char × Nat)
  | [] => []
  | [u] => [(unitChar u, 1)]
  | u :: v :: rest =>
      if IsHighSurrogate u ∧ IsLowSurrogate v then (pairChar u v, 2) :: spans rest
      else (unitChar u, 1) :: spans (v :: rest)

def decode (units : List UInt16) : String := String.ofList ((spans units).map (·.1))

def encodeChar (c : Char) : List UInt16 :=
  if c.toNat < 0x10000 then [UInt16.ofNat c.toNat]
  else
    let offset := c.toNat - 0x10000
    [UInt16.ofNat (0xD800 + offset / 0x400), UInt16.ofNat (0xDC00 + offset % 0x400)]

def encode (s : String) : List UInt16 := s.toList.flatMap encodeChar

end Metafile.Utf16
