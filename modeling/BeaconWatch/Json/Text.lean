import BeaconWatch.Json

/-!
Reading JSON text. The grammar is strict: no leading zeros, no trailing commas, no control characters
in strings, and four blank characters only. Reading always gives a value, broken where the text stops
being JSON.
-/

set_option autoImplicit false

namespace BeaconWatch.Json

-- The rest of the text behind what was read; nothing once the text is broken.
abbrev Rest := Option (List Char)

def isBlank (c : Char) : Bool :=
  c == ' ' || c == '\t' || c == '\n' || c == '\r'

def skipBlank (text : List Char) : List Char :=
  text.dropWhile isBlank

/-! Strings -/

inductive Piece
  | char (c : Char)
  | unit (code : Nat)
  deriving DecidableEq

def isHighSurrogate (code : Nat) : Bool :=
  decide (0xD800 ≤ code ∧ code < 0xDC00)

def isLowSurrogate (code : Nat) : Bool :=
  decide (0xDC00 ≤ code ∧ code < 0xE000)

/-- Joins surrogate pairs; a half that stands alone has no text. -/
def assemble : List Piece → Option (List Char)
  | [] => some []
  | .char c :: rest => (assemble rest).map (c :: ·)
  | .unit high :: .unit low :: rest =>
      if isHighSurrogate high then
        if isLowSurrogate low then
          (assemble rest).map (.ofNat (0x10000 + (high - 0xD800) * 0x400 + (low - 0xDC00)) :: ·)
        else
          none
      else if isLowSurrogate high then none
      else (assemble (.unit low :: rest)).map (.ofNat high :: ·)
  | .unit code :: rest =>
      if isHighSurrogate code || isLowSurrogate code then none
      else (assemble rest).map (.ofNat code :: ·)

def hexValue? (c : Char) : Option Nat :=
  if '0' ≤ c ∧ c ≤ '9' then some (c.toNat - 48)
  else if 'A' ≤ c ∧ c ≤ 'F' then some (c.toNat - 55)
  else if 'a' ≤ c ∧ c ≤ 'f' then some (c.toNat - 87)
  else none

def unitOfHex? (a b c d : Char) : Option Nat := do
  let a ← hexValue? a
  let b ← hexValue? b
  let c ← hexValue? c
  let d ← hexValue? d
  some (((a * 16 + b) * 16 + c) * 16 + d)

def escaped? (c : Char) : Option Char :=
  match c with
  | '"' => some '"'
  | '\\' => some '\\'
  | '/' => some '/'
  | 'b' => some '\x08'
  | 'f' => some '\x0c'
  | 'n' => some '\n'
  | 'r' => some '\r'
  | 't' => some '\t'
  | _ => none

def stringPieces : List Char → Option (List Piece × List Char)
  | [] => none
  | '"' :: rest => some ([], rest)
  | '\\' :: 'u' :: a :: b :: c :: d :: rest => do
      let code ← unitOfHex? a b c d
      let (pieces, rest) ← stringPieces rest
      some (.unit code :: pieces, rest)
  | '\\' :: c :: rest => do
      let named ← escaped? c
      let (pieces, rest) ← stringPieces rest
      some (.char named :: pieces, rest)
  | c :: rest =>
      if c.toNat < 0x20 || c == '\\' then none
      else do
        let (pieces, rest) ← stringPieces rest
        some (.char c :: pieces, rest)

def stringText (pieces : List Piece) : Option String :=
  (assemble pieces).map .ofList

/-! Numbers -/

def digitsValue (digits : List Char) : Nat :=
  digits.foldl (fun value c => value * 10 + (c.toNat - 48)) 0

-- The digits of the integer part: a single zero, or digits that do not start with one.
def integerPart? (text : List Char) : Option (List Char × List Char) :=
  let digits := text.takeWhile Char.isDigit
  match digits with
  | [] => none
  | '0' :: _ :: _ => none
  | _ => some (digits, text.dropWhile Char.isDigit)

def fractionPart? : List Char → Option (List Char × List Char)
  | '.' :: text =>
      match text.takeWhile Char.isDigit with
      | [] => none
      | digits => some (digits, text.dropWhile Char.isDigit)
  | text => some ([], text)

def signedExponent? (negative : Bool) (text : List Char) : Option (Int × List Char) :=
  match text.takeWhile Char.isDigit with
  | [] => none
  | digits =>
      let value : Int := digitsValue digits
      some (if negative then -value else value, text.dropWhile Char.isDigit)

def exponentPart? : List Char → Option (Option Int × List Char)
  | c :: text =>
      if c == 'e' || c == 'E' then
        match text with
        | '+' :: text => (signedExponent? false text).map fun (value, rest) => (some value, rest)
        | '-' :: text => (signedExponent? true text).map fun (value, rest) => (some value, rest)
        | text => (signedExponent? false text).map fun (value, rest) => (some value, rest)
      else
        some (none, c :: text)
  | [] => some (none, [])

def unsignedNumeral? (negative : Bool) (text : List Char) : Option (Numeral × List Char) := do
  let (whole, text) ← integerPart? text
  let (fraction, text) ← fractionPart? text
  let (exponent?, text) ← exponentPart? text
  some (⟨negative, digitsValue (whole ++ fraction),
    exponent?.getD 0 - (fraction.length : Int), fraction.isEmpty && exponent?.isNone⟩, text)

def numeral? : List Char → Option (Numeral × List Char)
  | '-' :: text => unsignedNumeral? true text
  | text => unsignedNumeral? false text

/-! Values -/

def name (value : Json) (expected text : List Char) : Json × Rest :=
  if expected.isPrefixOf text then (value, some (text.drop expected.length)) else (broken, none)

mutual

/-- Reads a value. The fuel bounds the nesting and the number of items together. -/
def readValue : Nat → List Char → Json × Rest
  | 0, _ => (broken, none)
  | fuel + 1, text =>
      match skipBlank text with
      | '{' :: rest =>
          match skipBlank rest with
          | '}' :: rest => (object [], some rest)
          | rest =>
              let (members, rest?) := readMembers fuel rest
              (object members, rest?)
      | '[' :: rest =>
          match skipBlank rest with
          | ']' :: rest => (array [], some rest)
          | rest =>
              let (items, rest?) := readItems fuel rest
              (array items, rest?)
      | '"' :: rest =>
          match stringPieces rest with
          | some (pieces, rest) => (string (stringText pieces), some rest)
          | none => (broken, none)
      | 't' :: rest => name (bool true) ['r', 'u', 'e'] rest
      | 'f' :: rest => name (bool false) ['a', 'l', 's', 'e'] rest
      | 'n' :: rest => name null ['u', 'l', 'l'] rest
      | text =>
          match numeral? text with
          | some (value, rest) => (numeral value, some rest)
          | none => (broken, none)

def readItems : Nat → List Char → List Json × Rest
  | 0, _ => ([broken], none)
  | fuel + 1, text =>
      match readValue fuel text with
      | (item, none) => ([item, broken], none)
      | (item, some rest) =>
          match skipBlank rest with
          | ',' :: rest =>
              let (items, rest?) := readItems fuel rest
              (item :: items, rest?)
          | ']' :: rest => ([item], some rest)
          | _ => ([item, broken], none)

def readMembers : Nat → List Char → List (Option String × Json) × Rest
  | 0, _ => ([(none, broken)], none)
  | fuel + 1, text =>
      match skipBlank text with
      | '"' :: rest =>
          match stringPieces rest with
          | none => ([(none, broken)], none)
          | some (pieces, rest) =>
              match skipBlank rest with
              | ':' :: rest =>
                  match readValue fuel rest with
                  | (value, none) => ([(stringText pieces, value), (none, broken)], none)
                  | (value, some rest) =>
                      match skipBlank rest with
                      | ',' :: rest =>
                          let (members, rest?) := readMembers fuel rest
                          ((stringText pieces, value) :: members, rest?)
                      | '}' :: rest => ([(stringText pieces, value)], some rest)
                      | _ => ([(stringText pieces, value), (none, broken)], none)
              | _ => ([(stringText pieces, broken), (none, broken)], none)
      | _ => ([(none, broken)], none)

end

structure Document where
  value : Json
  complete : Bool

-- Every second step at least takes a character, so twice the length is fuel enough.
def Document.ofText (text : String) : Document :=
  let chars := text.toList
  match readValue (2 * chars.length + 2) chars with
  | (value, some rest) => ⟨value, (skipBlank rest).isEmpty⟩
  | (value, none) => ⟨value, false⟩

end BeaconWatch.Json
