import BlockMachine.Json.Basic
import BlockMachine.Number.Spelled
import BlockMachine.Text.Encoding

/-!
JSON text as tokens. Strings are collected as code units, so that a pair of
escaped surrogates becomes one character; whatever stands outside strings and is
neither white space nor punctuation is a word, read as a literal or a number
once it ends.
-/

namespace BlockMachine.Json

inductive Token
  | openList
  | closeList
  | openObject
  | closeObject
  | comma
  | colon
  | text (value : String)
  | scalar (value : Json)
  /-- No token can be made of what stands here. -/
  | malformed
  /-- A whole number with more digits than are converted. -/
  | oversized

def isPause (c : Char) : Bool :=
  c == ' ' || c == '\t' || c == '\n' || c == '\r'

def punctuation? : Char → Option Token
  | '[' => some .openList
  | ']' => some .closeList
  | '\x7b' => some .openObject
  | '\x7d' => some .closeObject
  | ',' => some .comma
  | ':' => some .colon
  | _ => none

def escape? : Char → Option Char
  | '"' => some '"'
  | '\\' => some '\\'
  | '/' => some '/'
  | 'b' => some '\x08'
  | 'f' => some '\x0c'
  | 'n' => some '\n'
  | 'r' => some '\r'
  | 't' => some '\t'
  | _ => none

def hexValue? (c : Char) : Option Nat :=
  if '0' ≤ c && c ≤ '9' then some (c.toNat - 48)
  else if 'a' ≤ c && c ≤ 'f' then some (c.toNat - 87)
  else if 'A' ≤ c && c ≤ 'F' then some (c.toNat - 55)
  else none

/-- The whole part of a number: a lone zero, or digits that do not start with one. -/
def wholePart? (text : List Char) : Option (List Char × List Char) :=
  match text with
  | '0' :: rest => some (['0'], rest)
  | _ =>
    let digits := text.takeWhile Number.isPlainDigit
    if digits.isEmpty then none else some (digits, text.dropWhile Number.isPlainDigit)

/-- The number at the front of a word must be all of it. -/
def number (word : List Char) : Token :=
  let (negative, unsigned) :=
    match word with
    | '-' :: rest => (true, rest)
    | _ => (false, word)
  match wholePart? unsigned with
  | none => .malformed
  | some (digits, behind) =>
    let (part, afterPart) := (Number.fraction? 1 behind).getD ([], behind)
    let (exponent, rest) := (Number.exponent? afterPart).getD (0, afterPart)
    if rest.length = behind.length then
      if Number.Whole.maxDigits < digits.length then .oversized
      else if !rest.isEmpty then .malformed
      else
        let size : Int := Number.ofPlainDigits digits
        .scalar (.whole (if negative then -size else size))
    else if !rest.isEmpty then .malformed
    else
      .scalar (.real (Number.Scientific.toFloat
        ⟨negative, Number.ofPlainDigits (digits ++ part), exponent - part.length⟩))

def word (letters : List Char) : Token :=
  match String.ofList letters with
  | "null" => .scalar .null
  | "true" => .scalar (.bool true)
  | "false" => .scalar (.bool false)
  | "NaN" => .scalar (.real Number.notANumber)
  | "Infinity" => .scalar (.real Number.infinity)
  | "-Infinity" => .scalar (.real (-Number.infinity))
  | _ => number letters

/-- Where the scanner stands. Units and letters are kept last first. -/
inductive Scanner
  | between
  | word (letters : List Char)
  | string (units : List Nat)
  | escape (units : List Nat)
  | point (units : List Nat) (value digits : Nat)

/-- The tokens of a text. Nothing is read behind a malformed string. -/
def tokens : Scanner → List Char → List Token
  | .between, [] => []
  | .word letters, [] => [word letters.reverse]
  | .string _, [] => [.malformed]
  | .escape _, [] => [.malformed]
  | .point _ _ _, [] => [.malformed]
  | .between, c :: rest =>
    if isPause c then tokens .between rest
    else if c = '"' then tokens (.string []) rest
    else
      match punctuation? c with
      | some token => token :: tokens .between rest
      | none => tokens (.word [c]) rest
  | .word letters, c :: rest =>
    if isPause c then word letters.reverse :: tokens .between rest
    else if c = '"' then word letters.reverse :: tokens (.string []) rest
    else
      match punctuation? c with
      | some token => word letters.reverse :: token :: tokens .between rest
      | none => tokens (.word (c :: letters)) rest
  | .string units, c :: rest =>
    if c = '"' then .text (String.ofList (Text.joinUnits units.reverse)) :: tokens .between rest
    else if c = '\\' then tokens (.escape units) rest
    else if c.toNat < 0x20 then [.malformed]
    else tokens (.string (c.toNat :: units)) rest
  | .escape units, c :: rest =>
    if c = 'u' then tokens (.point units 0 0) rest
    else
      match escape? c with
      | some plain => tokens (.string (plain.toNat :: units)) rest
      | none => [.malformed]
  | .point units value digits, c :: rest =>
    match hexValue? c with
    | none => [.malformed]
    | some digit =>
      if digits = 3 then tokens (.string ((16 * value + digit) :: units)) rest
      else tokens (.point units (16 * value + digit) (digits + 1)) rest

end BlockMachine.Json
