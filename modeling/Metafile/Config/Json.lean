import Metafile.Text.Utf16

/-! # JSON texts

A text is cut into tokens, and the tokens are put together by a machine that keeps the containers
still open on a stack, so that nesting may be as deep as it likes. Of a number only the integer it
spells is kept, of a string only the text it spells, when there is one.
-/
namespace Metafile

inductive JsonValue where
  | null
  | bool (value : Bool)
  | number (integer : Option Int)
  /-- No text when an escape names half of a surrogate pair. -/
  | string (text : Option String)
  | array (items : List JsonValue)
  | object (members : List (Option String × JsonValue))

inductive JsonToken where
  | beginArray
  | endArray
  | beginObject
  | endObject
  | comma
  | colon
  | scalar (value : JsonValue)

namespace JsonToken

def splitDigits (cs : List Char) : List Char × List Char :=
  (cs.takeWhile Char.isDigit, cs.dropWhile Char.isDigit)

def isNumberTail (cs : List Char) : Bool :=
  let afterFraction? : Option (List Char) :=
    match cs with
    | '.' :: rest =>
        let (digits, rest) := splitDigits rest
        if digits.isEmpty then none else some rest
    | _ => some cs
  match afterFraction? with
  | none => false
  | some [] => true
  | some (e :: rest) =>
      (e == 'e' || e == 'E') &&
        let digits := match rest with
          | '+' :: digits | '-' :: digits => digits
          | digits => digits
        !digits.isEmpty && digits.all Char.isDigit

/-- The number that a word spells. Leading zeros are refused; a negative zero is no integer. -/
def number? (word : List Char) : Option JsonValue :=
  let (negative, cs) := match word with
    | '-' :: cs => (true, cs)
    | cs => (false, cs)
  let (digits, tail) := splitDigits cs
  if digits.isEmpty || (digits.head? == some '0' && 1 < digits.length) || !isNumberTail tail then
    none
  else
    let n : Nat := digits.foldl (fun n d => n * 10 + (d.toNat - '0'.toNat)) 0
    if !tail.isEmpty || (negative && n == 0) then some (.number none)
    else some (.number (some (if negative then -(n : Int) else n)))

def ofWord? (word : List Char) : Option JsonToken :=
  if word = "null".toList then some (.scalar .null)
  else if word = "true".toList then some (.scalar (.bool true))
  else if word = "false".toList then some (.scalar (.bool false))
  else (number? word).map .scalar

def ofPunctuation? : Char → Option JsonToken
  | '[' => some .beginArray
  | ']' => some .endArray
  | '\x7b' => some .beginObject
  | '\x7d' => some .endObject
  | ',' => some .comma
  | ':' => some .colon
  | _ => none

def isBlank (c : Char) : Bool := c == ' ' || c == '\n' || c == '\t' || c == '\r'

def escapedUnit? : Char → Option UInt16
  | '"' => some 0x22
  | '\\' => some 0x5C
  | '/' => some 0x2F
  | 'b' => some 0x08
  | 'f' => some 0x0C
  | 'n' => some 0x0A
  | 'r' => some 0x0D
  | 't' => some 0x09
  | _ => none

def hexDigit? (c : Char) : Option Nat :=
  if c.isDigit then some (c.toNat - '0'.toNat)
  else if 'a' ≤ c ∧ c ≤ 'f' then some (c.toNat - 'a'.toNat + 10)
  else if 'A' ≤ c ∧ c ≤ 'F' then some (c.toNat - 'A'.toNat + 10)
  else none

/-- Where in a text the reader is; the units of an open string are kept last first. -/
inductive Scan where
  | between
  | word (letters : List Char)
  | string (units : List UInt16)
  | escape (units : List UInt16)
  | hex (units : List UInt16) (digits value : Nat)

def textOf? (units : List UInt16) : Option String :=
  let spans := Utf16.spans units
  if spans.flatMap (fun (c, _) => Utf16.encodeChar c) = units then
    some (String.ofList (spans.map (·.1)))
  else none

structure Reader where
  tokens : List JsonToken
  scan : Scan

namespace Reader

def between (tokens : List JsonToken) (c : Char) : Reader :=
  if isBlank c then ⟨tokens, .between⟩
  else if c = '"' then ⟨tokens, .string []⟩
  else
    match ofPunctuation? c with
    | some token => ⟨token :: tokens, .between⟩
    | none => ⟨tokens, .word [c]⟩

def next (r : Reader) (c : Char) : Option Reader :=
  match r.scan with
  | .between => some (between r.tokens c)
  | .word letters =>
      if isBlank c || c == '"' || (ofPunctuation? c).isSome then do
        let token ← ofWord? letters.reverse
        return between (token :: r.tokens) c
      else some { r with scan := .word (c :: letters) }
  | .string units =>
      if c = '"' then some ⟨.scalar (.string (textOf? units.reverse)) :: r.tokens, .between⟩
      else if c = '\\' then some { r with scan := .escape units }
      else if c.toNat < 0x20 then none
      else some { r with scan := .string ((Utf16.encodeChar c).reverse ++ units) }
  | .escape units =>
      if c = 'u' then some { r with scan := .hex units 0 0 }
      else (escapedUnit? c).map fun unit => { r with scan := .string (unit :: units) }
  | .hex units digits value => do
      let value := value * 16 + (← hexDigit? c)
      if digits = 3 then return { r with scan := .string (UInt16.ofNat value :: units) }
      else return { r with scan := .hex units (digits + 1) value }

def finish (r : Reader) : Option (List JsonToken) :=
  match r.scan with
  | .between => some r.tokens.reverse
  | .word letters => (ofWord? letters.reverse).map fun token => (token :: r.tokens).reverse
  | _ => none

end Reader

def tokens? (text : String) : Option (List JsonToken) := do
  (← text.toList.foldlM Reader.next ⟨[], .between⟩).finish

end JsonToken

namespace JsonValue

/-- A container that is still open, its contents last first. -/
inductive Frame where
  | array (items : List JsonValue)
  | object (members : List (Option String × JsonValue))
  | member (members : List (Option String × JsonValue)) (name : Option String)

inductive Expected where
  | value
  | firstItem
  | name
  | firstName
  | colon
  | separator
  | nothing (value : JsonValue)

structure Machine where
  stack : List Frame
  expected : Expected

namespace Machine

def place (value : JsonValue) : List Frame → Option Machine
  | [] => some ⟨[], .nothing value⟩
  | .array items :: stack => some ⟨.array (value :: items) :: stack, .separator⟩
  | .member members name :: stack => some ⟨.object ((name, value) :: members) :: stack, .separator⟩
  | .object _ :: _ => none

def next (m : Machine) (token : JsonToken) : Option Machine :=
  match m.expected, token, m.stack with
  | .value, .scalar value, stack | .firstItem, .scalar value, stack => place value stack
  | .value, .beginArray, stack | .firstItem, .beginArray, stack =>
      some ⟨.array [] :: stack, .firstItem⟩
  | .value, .beginObject, stack | .firstItem, .beginObject, stack =>
      some ⟨.object [] :: stack, .firstName⟩
  | .firstItem, .endArray, .array items :: stack
  | .separator, .endArray, .array items :: stack => place (.array items.reverse) stack
  | .firstName, .endObject, .object members :: stack
  | .separator, .endObject, .object members :: stack => place (.object members.reverse) stack
  | .name, .scalar (.string name), .object members :: stack
  | .firstName, .scalar (.string name), .object members :: stack =>
      some ⟨.member members name :: stack, .colon⟩
  | .colon, .colon, stack => some ⟨stack, .value⟩
  | .separator, .comma, .array items :: stack => some ⟨.array items :: stack, .value⟩
  | .separator, .comma, .object members :: stack => some ⟨.object members :: stack, .name⟩
  | _, _, _ => none

end Machine

def parse? (text : String) : Option JsonValue := do
  let tokens ← JsonToken.tokens? text
  match (← tokens.foldlM Machine.next ⟨[], .value⟩).expected with
  | .nothing value => some value
  | _ => none

end JsonValue

end Metafile
