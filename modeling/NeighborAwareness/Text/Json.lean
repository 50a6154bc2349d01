import NeighborAwareness.Bytes.Hex
import NeighborAwareness.Text.Decimal

/-!
# JSON texts

A strict reader: no comments, no trailing commas, no control characters in strings. Numbers and
strings are kept as they are spelled, because whether a numeral fits or an escape makes sense
matters only where a value is used.

## Main definitions

* `JsonValue` : a document.
* `JsonValue.parse?` : the document of a text.
* `JsonValue.natural?`, `JsonValue.text?` : the number and the text that a value spells.
* `JsonValue.quote` : the quoted form of a text.

## Assumptions

Configurations are read and written by the `serde_json` library, version 1. The following is assumed
of it.

* A text is a document by the grammar of JSON, with nothing but white space around it. In particular
  no digit follows a leading zero, and the escapes of a string are the eight letters and `u` with
  four hexadecimal digits.
* A number that is used has to be written without sign, fraction and exponent, and to fit. A string
  that is used, or is a key, may not hold one unit of a pair alone. Of values that are not used only
  the spelling matters, however deep they are nested.
* Quotes, backslashes and control characters are escaped on writing, by a letter if there is one,
  and everything else stands for itself.
-/

namespace NeighborAwareness

/-- Part of a string as it is spelled. -/
inductive StringPart where
  | char (c : Char)
  /-- A UTF-16 unit given by its number. -/
  | unit (u : UInt16)
  deriving DecidableEq, Repr

/-- A JSON document. -/
inductive JsonValue where
  | null
  | bool (b : Bool)
  | number (literal : List Char)
  | string (parts : List StringPart)
  | list (items : List JsonValue)
  /-- Members in the order of the text; keys may repeat. -/
  | object (members : List (List StringPart × JsonValue))

namespace JsonValue

/-- The four characters that may stand between tokens. -/
def isSpace (c : Char) : Bool :=
  c == ' ' || c == '\n' || c == '\t' || c == '\r'

/-- A text without the space at its front. -/
def skipSpace (text : List Char) : List Char :=
  text.dropWhile isSpace

/-! ### Numbers -/

/-- The fraction in front of a text, possibly none. -/
def fraction? : List Char → Option (List Char × List Char)
  | '.' :: text => (Decimal.split? text).map fun (digits, rest) => ('.' :: digits, rest)
  | text => some ([], text)

/-- The sign in front of an exponent, possibly none. -/
def exponentSign : List Char → List Char × List Char
  | '+' :: text => (['+'], text)
  | '-' :: text => (['-'], text)
  | text => ([], text)

/-- The exponent in front of a text, possibly none. -/
def exponent? : List Char → Option (List Char × List Char)
  | [] => some ([], [])
  | c :: text =>
    if c == 'e' || c == 'E' then
      let (sign, text) := exponentSign text
      (Decimal.split? text).map fun (digits, rest) => (c :: sign ++ digits, rest)
    else some ([], c :: text)

/-- The integer without sign in front of a text. No digit follows a leading zero. -/
def integer? : List Char → Option (List Char × List Char)
  | '0' :: text => some (['0'], text)
  | text => Decimal.split? text

/-- The number without sign in front of a text. -/
def unsigned? (text : List Char) : Option (List Char × List Char) := do
  let (whole, text) ← integer? text
  let (fraction, text) ← fraction? text
  let (exponent, text) ← exponent? text
  return (whole ++ fraction ++ exponent, text)

/-- The number in front of a text, as it is spelled. -/
def number? : List Char → Option (List Char × List Char)
  | '-' :: text => (unsigned? text).map fun (literal, rest) => ('-' :: literal, rest)
  | text => unsigned? text

/-! ### Strings -/

/-- The value of a hexadecimal digit. -/
def hexDigit? (c : Char) : Option Nat :=
  if c.isDigit then some (c.toNat - '0'.toNat)
  else if 'a' ≤ c && c ≤ 'f' then some (c.toNat - 'a'.toNat + 10)
  else if 'A' ≤ c && c ≤ 'F' then some (c.toNat - 'A'.toNat + 10)
  else none

/-- The unit of four hexadecimal digits. -/
def hexUnit? (a b c d : Char) : Option UInt16 := do
  let a ← hexDigit? a
  let b ← hexDigit? b
  let c ← hexDigit? c
  let d ← hexDigit? d
  return UInt16.ofNat (((a * 16 + b) * 16 + c) * 16 + d)

/-- The character that a letter behind a backslash stands for. -/
def escaped? : Char → Option Char
  | '"' => some '"'
  | '\\' => some '\\'
  | '/' => some '/'
  | 'b' => some '\x08'
  | 'f' => some '\x0C'
  | 'n' => some '\n'
  | 'r' => some '\r'
  | 't' => some '\t'
  | _ => none

/-- The parts of a string up to its closing quote, and what follows the quote. -/
def string? : List Char → Option (List StringPart × List Char)
  | [] => none
  | '"' :: text => some ([], text)
  | '\\' :: 'u' :: a :: b :: c :: d :: text => do
    let unit ← hexUnit? a b c d
    let (parts, rest) ← string? text
    return (.unit unit :: parts, rest)
  | '\\' :: e :: text => do
    let c ← escaped? e
    let (parts, rest) ← string? text
    return (.char c :: parts, rest)
  | c :: text =>
    if c < ' ' then none
    else do
      let (parts, rest) ← string? text
      return (.char c :: parts, rest)

/-! ### Documents -/

mutual

/-- The value in front of a text, read in at most `depth` nested steps. -/
def value? (depth : Nat) (text : List Char) : Option (JsonValue × List Char) :=
  match depth with
  | 0 => none
  | depth + 1 =>
    match skipSpace text with
    | 'n' :: 'u' :: 'l' :: 'l' :: rest => some (.null, rest)
    | 't' :: 'r' :: 'u' :: 'e' :: rest => some (.bool true, rest)
    | 'f' :: 'a' :: 'l' :: 's' :: 'e' :: rest => some (.bool false, rest)
    | '"' :: rest => (string? rest).map fun (parts, rest) => (.string parts, rest)
    | '[' :: rest =>
      match skipSpace rest with
      | ']' :: rest => some (.list [], rest)
      | _ => (items? depth rest).map fun (items, rest) => (.list items, rest)
    | '\x7b' :: rest =>
      match skipSpace rest with
      | '\x7d' :: rest => some (.object [], rest)
      | _ => (members? depth rest).map fun (members, rest) => (.object members, rest)
    | text => (number? text).map fun (literal, rest) => (.number literal, rest)

/-- The items of a list, at least one, up to its closing bracket. -/
def items? (depth : Nat) (text : List Char) : Option (List JsonValue × List Char) :=
  match depth with
  | 0 => none
  | depth + 1 =>
    match value? depth text with
    | none => none
    | some (item, text) =>
      match skipSpace text with
      | ',' :: rest => (items? depth rest).map fun (items, rest) => (item :: items, rest)
      | ']' :: rest => some ([item], rest)
      | _ => none

/-- The members of an object, at least one, up to its closing brace. -/
def members? (depth : Nat) (text : List Char) :
    Option (List (List StringPart × JsonValue) × List Char) :=
  match depth with
  | 0 => none
  | depth + 1 =>
    match skipSpace text with
    | '"' :: text =>
      match string? text with
      | none => none
      | some (key, text) =>
        match skipSpace text with
        | ':' :: text =>
          match value? depth text with
          | none => none
          | some (value, text) =>
            match skipSpace text with
            | ',' :: rest =>
              (members? depth rest).map fun (members, rest) => ((key, value) :: members, rest)
            | '\x7d' :: rest => some ([(key, value)], rest)
            | _ => none
        | _ => none
    | _ => none

end

/-- The document of a text, with nothing but space around it. Of any two nested steps one reads a
character, so twice the length is as deep as a text can go. -/
def parse? (text : List Char) : Option JsonValue :=
  match value? (2 * text.length + 1) text with
  | some (document, rest) => if (skipSpace rest).isEmpty then some document else none
  | none => none

/-! ### Values -/

/-- The number below `limit` that a value spells without sign, fraction and exponent. -/
def natural? (limit : Nat) : JsonValue → Option Nat
  | number literal => (Decimal.read? literal).filter (· < limit)
  | _ => none

/-- A unit that opens a pair. -/
def isHigh (u : UInt16) : Bool :=
  0xD800 ≤ u && u < 0xDC00

/-- A unit that closes a pair. -/
def isLow (u : UInt16) : Bool :=
  0xDC00 ≤ u && u < 0xE000

/-- The character of a pair of units. -/
def paired (high low : UInt16) : Char :=
  Char.ofNat (0x10000 + (high.toNat - 0xD800) * 0x400 + (low.toNat - 0xDC00))

/-- The characters that string parts spell, nothing when a unit of a pair stands alone. -/
def characters? : List StringPart → Option (List Char)
  | [] => some []
  | .char c :: rest => (characters? rest).map (c :: ·)
  | .unit u :: rest =>
    if isLow u then none
    else if isHigh u then
      match rest with
      | .unit v :: rest =>
        if isLow v then (characters? rest).map (paired u v :: ·) else none
      | _ => none
    else (characters? rest).map (Char.ofNat u.toNat :: ·)

/-- The text that a value spells. -/
def text? : JsonValue → Option String
  | string parts => (characters? parts).map String.ofList
  | _ => none

/-! ### Writing -/

/-- A character inside quotes. -/
def escape (c : Char) : List Char :=
  match c with
  | '"' => ['\\', '"']
  | '\\' => ['\\', '\\']
  | '\x08' => ['\\', 'b']
  | '\x0C' => ['\\', 'f']
  | '\n' => ['\\', 'n']
  | '\r' => ['\\', 'r']
  | '\t' => ['\\', 't']
  | c =>
    if c < ' ' then ['\\', 'u', '0', '0'] ++ (Hex.encode [UInt8.ofNat c.toNat]).toList else [c]

/-- The quoted form of a text. -/
def quote (text : String) : String :=
  String.ofList ('"' :: text.toList.flatMap escape ++ ['"'])

end JsonValue

end NeighborAwareness
