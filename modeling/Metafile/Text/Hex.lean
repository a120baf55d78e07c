/-! # Hexadecimal numerals

Upper-case digits, padded with zeros on the left to a least width.
-/
namespace Metafile

def hexNumeral (width n : Nat) : String :=
  let digits := (Nat.toDigits 16 n).map Char.toUpper
  String.ofList (List.replicate (width - digits.length) '0' ++ digits)

end Metafile
