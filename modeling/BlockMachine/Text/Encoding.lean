/-!
Text from bytes. The encoding is told by where the zero bytes stand among the
first four: a text of a data format starts with an ordinary character, whose
wider encodings have zeros around it. Bytes that the encoding does not admit are
no text at all; a surrogate without its partner becomes the replacement
character.
-/

namespace BlockMachine.Text

inductive ByteOrder
  | big
  | little
  deriving DecidableEq

inductive Encoding
  | utf8
  | utf16 (order : ByteOrder)
  | utf32 (order : ByteOrder)
  deriving DecidableEq

/-- Texts of one or three bytes are too short to tell, and count as UTF-8. -/
def detectEncoding : List UInt8 → Encoding
  | [0, _] => .utf16 .big
  | [_, 0] => .utf16 .little
  | 0 :: 0 :: _ :: _ :: _ => .utf32 .big
  | 0 :: _ :: _ :: _ :: _ => .utf16 .big
  | _ :: 0 :: 0 :: 0 :: _ => .utf32 .little
  | _ :: 0 :: _ :: _ :: _ => .utf16 .little
  | _ => .utf8

def isHighSurrogate (unit : Nat) : Bool :=
  0xD800 ≤ unit && unit < 0xDC00

def isLowSurrogate (unit : Nat) : Bool :=
  0xDC00 ≤ unit && unit < 0xE000

def ofPoint (point : Nat) : Char :=
  if isHighSurrogate point || isLowSurrogate point then '\uFFFD' else Char.ofNat point

/-- Joins surrogate pairs; every other unit is a character of its own. -/
def joinUnits : List Nat → List Char
  | [] => []
  | [unit] => [ofPoint unit]
  | high :: low :: rest =>
    if isHighSurrogate high && isLowSurrogate low then
      Char.ofNat (0x10000 + (high - 0xD800) * 0x400 + (low - 0xDC00)) :: joinUnits rest
    else ofPoint high :: joinUnits (low :: rest)

/-- The number that bytes spell, the first byte being the highest or the lowest. -/
def ofBytes (order : ByteOrder) (bytes : List UInt8) : Nat :=
  let highestFirst :=
    match order with
    | .big => bytes
    | .little => bytes.reverse
  highestFirst.foldl (fun value byte => 256 * value + byte.toNat) 0

/-- The units of two bytes, unless a byte is left over. -/
def units16? (order : ByteOrder) : List UInt8 → Option (List Nat)
  | [] => some []
  | a :: b :: rest => (units16? order rest).map (ofBytes order [a, b] :: ·)
  | _ => none

/-- The code points of four bytes, unless one is out of range or bytes are left over. -/
def points32? (order : ByteOrder) : List UInt8 → Option (List Nat)
  | [] => some []
  | a :: b :: c :: d :: rest =>
    let point := ofBytes order [a, b, c, d]
    if point < 0x110000 then (points32? order rest).map (point :: ·) else none
  | _ => none

/-- A byte order mark in front of a UTF-8 text is not part of it. -/
def withoutMark : List Char → List Char
  | '\uFEFF' :: rest => rest
  | chars => chars

def decode? (bytes : List UInt8) : Option (List Char) :=
  match detectEncoding bytes with
  | .utf8 =>
    (String.fromUTF8? ⟨bytes.toArray⟩).map fun decoded => withoutMark decoded.toList
  | .utf16 order => (units16? order bytes).map joinUnits
  | .utf32 order => (points32? order bytes).map fun points => points.map ofPoint

end BlockMachine.Text
