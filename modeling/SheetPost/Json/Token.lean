import SheetPost.Json.Literal

namespace SheetPost.Json

inductive Token where
  | openList
  | closeList
  | openRecord
  | closeRecord
  | comma
  | colon
  | null
  | boolean (value : Bool)
  | number (literal : Literal)
  | text (value : Option String)

/-- A character of a quoted text, or half of a surrogate pair. -/
inductive TextUnit where
  | character (value : Char)
  | surrogate (value : Nat)

/-- The character that an escaped code unit stands for, or the half it is. -/
def TextUnit.ofCode (value : Nat) : TextUnit :=
  if 0xD800 ≤ value ∧ value < 0xE000 then .surrogate value else .character (Char.ofNat value)

/-- Join the halves of surrogate pairs; a half without its partner leaves no text. -/
def joinUnits? : List TextUnit → Option (List Char)
  | [] => some []
  | .character value :: units => (joinUnits? units).map (value :: ·)
  | .surrogate high :: .surrogate low :: units =>
      if high < 0xDC00 ∧ 0xDC00 ≤ low then
        (joinUnits? units).map
          (Char.ofNat (0x10000 + (high - 0xD800) * 0x400 + (low - 0xDC00)) :: ·)
      else none
  | .surrogate _ :: _ => none

def hexValue? (character : Char) : Option Nat :=
  if isDigit character then some (digitValue character)
  else if 'a' ≤ character ∧ character ≤ 'f' then some (character.toNat - 87)
  else if 'A' ≤ character ∧ character ≤ 'F' then some (character.toNat - 55)
  else none

/-- What the scanner is in the middle of. Characters and units are kept last one first. -/
inductive Scanning where
  | between
  | word (letters : List Char)
  | number (characters : List Char)
  | text (units : List TextUnit)
  | escape (units : List TextUnit)
  | code (units : List TextUnit) (digits : Nat) (value : Nat)

def wordToken? (letters : List Char) : Option Token :=
  match String.ofList letters with
  | "null" => some .null
  | "true" => some (.boolean true)
  | "false" => some (.boolean false)
  | _ => none

def beginToken? (tokens : List Token) (character : Char) : Option (List Token × Scanning) :=
  match character with
  | ' ' | '\n' | '\r' | '\t' => some (tokens, .between)
  | '[' => some (.openList :: tokens, .between)
  | ']' => some (.closeList :: tokens, .between)
  | '\x7b' => some (.openRecord :: tokens, .between)
  | '\x7d' => some (.closeRecord :: tokens, .between)
  | ',' => some (.comma :: tokens, .between)
  | ':' => some (.colon :: tokens, .between)
  | '"' => some (tokens, .text [])
  | _ =>
      if character = '-' || isDigit character then some (tokens, .number [character])
      else if 'a' ≤ character ∧ character ≤ 'z' then some (tokens, .word [character])
      else none

def isNumberCharacter (character : Char) : Bool :=
  isDigit character || character == '-' || character == '+' || character == '.' ||
    character == 'e' || character == 'E'

def escapeCharacter? : Char → Option Char
  | '"' => some '"'
  | '\\' => some '\\'
  | '/' => some '/'
  | 'b' => some (Char.ofNat 0x08)
  | 'f' => some (Char.ofNat 0x0C)
  | 'n' => some '\n'
  | 'r' => some '\r'
  | 't' => some '\t'
  | _ => none

/-- One step of the scanner. The tokens found so far are kept last one first. -/
def scanStep? (state : List Token × Scanning) (character : Char) :
    Option (List Token × Scanning) :=
  match state with
  | (tokens, .between) => beginToken? tokens character
  | (tokens, .word letters) =>
      if 'a' ≤ character ∧ character ≤ 'z' then some (tokens, .word (character :: letters))
      else (wordToken? letters.reverse).bind fun token => beginToken? (token :: tokens) character
  | (tokens, .number characters) =>
      if isNumberCharacter character then some (tokens, .number (character :: characters))
      else (Literal.ofChars? characters.reverse).bind fun literal =>
        beginToken? (.number literal :: tokens) character
  | (tokens, .text units) =>
      if character = '"' then
        some (.text ((joinUnits? units.reverse).map String.ofList) :: tokens, .between)
      else if character = '\\' then some (tokens, .escape units)
      else if character.toNat < 0x20 then none
      else some (tokens, .text (.character character :: units))
  | (tokens, .escape units) =>
      if character = 'u' then some (tokens, .code units 0 0)
      else (escapeCharacter? character).map fun value => (tokens, .text (.character value :: units))
  | (tokens, .code units digits value) =>
      (hexValue? character).map fun digit =>
        let value := value * 16 + digit
        if digits = 3 then (tokens, .text (.ofCode value :: units))
        else (tokens, .code units (digits + 1) value)

/-- Close the token that the end of the message cuts off. -/
def scanEnd? : List Token × Scanning → Option (List Token)
  | (tokens, .between) => some tokens.reverse
  | (tokens, .word letters) =>
      (wordToken? letters.reverse).map fun token => (token :: tokens).reverse
  | (tokens, .number characters) =>
      (Literal.ofChars? characters.reverse).map fun literal => (.number literal :: tokens).reverse
  | _ => none

def tokens? (text : String) : Option (List Token) :=
  (text.toList.foldlM scanStep? ([], .between)).bind scanEnd?

end SheetPost.Json
