import Metafile.Text.CaseTables

/-! # Case and blanks

Lowering a text lowers each character on its own, with two exceptions: the dotted capital I becomes
two characters, and a capital sigma at the end of a word becomes the final small sigma.
-/
namespace Metafile

namespace Letter

def isIn (ranges : List (Nat × Nat)) (c : Char) : Bool :=
  ranges.any fun (first, last) => first ≤ c.toNat && c.toNat ≤ last

def isCased (c : Char) : Bool := isIn CaseTables.cased c

def isCaseIgnorable (c : Char) : Bool := isIn CaseTables.caseIgnorable c

def lower (c : Char) : Char :=
  let n := c.toNat
  match CaseTables.lowerRuns.find? fun (first, last, step, _) =>
      first ≤ n && n ≤ last && (n - first) % step == 0 with
  | some (_, _, _, distance) => Char.ofNat ((n : Int) + distance).toNat
  | none => c

def isBlank (c : Char) : Bool :=
  isIn [(0x09, 0x0D), (0x20, 0x20), (0x85, 0x85), (0xA0, 0xA0), (0x1680, 0x1680),
    (0x2000, 0x200A), (0x2028, 0x2029), (0x202F, 0x202F), (0x205F, 0x205F), (0x3000, 0x3000)] c

end Letter

def capitalSigma : Char := '\u03A3'

def smallSigma : Char := '\u03C3'

def finalSigma : Char := '\u03C2'

def dottedCapitalI : Char := '\u0130'

/-- Whether the next character that counts is a letter with case. -/
def meetsCased (text : List Char) : Bool :=
  (text.dropWhile Letter.isCaseIgnorable).head?.any Letter.isCased

/-- Lowers a text; the characters before it are given last first. -/
def lowerFrom (before : List Char) : List Char → List Char
  | [] => []
  | c :: rest =>
      let lowered :=
        if c = capitalSigma then
          [if meetsCased before && !meetsCased rest then finalSigma else smallSigma]
        else if c = dottedCapitalI then ['i', '\u0307']
        else [Letter.lower c]
      lowered ++ lowerFrom (c :: before) rest

def lowercase (s : String) : String := String.ofList (lowerFrom [] s.toList)

def trimBlanks (s : String) : String :=
  String.ofList
    (((s.toList.dropWhile Letter.isBlank).reverse.dropWhile Letter.isBlank).reverse)

def agreesInAscii (s t : String) : Bool := s.toList.map Char.toLower == t.toList.map Char.toLower

end Metafile
