import SheetPost.Json.Value
import SheetPost.Text.Digit

namespace SheetPost.Toml

def isPlain (character : Char) : Bool :=
  character = '\t' ∨ (0x20 ≤ character.toNat ∧ character.toNat ≠ 0x7F)

def hexValue? (digit : Char) : Option Nat :=
  "0123456789abcdef".toList.idxOf? digit.toLower

def ofCode? (digits : List Char) : Option Char := do
  let code ← digits.foldlM (fun code digit => (hexValue? digit).map (code * 16 + ·)) 0
  if code.isValidChar then some (Char.ofNat code) else none

def escapedLetter? : Char → Option Char
  | 'b' => some '\x08'
  | 't' => some '\t'
  | 'n' => some '\n'
  | 'f' => some '\x0C'
  | 'r' => some '\r'
  | 'e' => some '\x1B'
  | '"' => some '"'
  | '\\' => some '\\'
  | _ => none

def behind (character? : Option Char) (text? : Option (List Char × List Char)) :
    Option (List Char × List Char) :=
  match character?, text? with
  | some character, some (text, rest) => some (character :: text, rest)
  | _, _ => none

/-! ## Reading: each reader starts behind the opening quotes and returns what follows the closing
ones -/

def basic? : List Char → Option (List Char × List Char)
  | [] => none
  | '"' :: rest => some ([], rest)
  | '\\' :: 'x' :: a :: b :: rest => behind (ofCode? [a, b]) (basic? rest)
  | '\\' :: 'u' :: a :: b :: c :: d :: rest => behind (ofCode? [a, b, c, d]) (basic? rest)
  | '\\' :: 'U' :: a :: b :: c :: d :: e :: f :: g :: h :: rest =>
      behind (ofCode? [a, b, c, d, e, f, g, h]) (basic? rest)
  | '\\' :: letter :: rest => behind (escapedLetter? letter) (basic? rest)
  | character :: rest =>
      if isPlain character then behind (some character) (basic? rest) else none

def isSpace (character : Char) : Bool :=
  character = ' ' ∨ character = '\t'

def isLineEnd (characters : List Char) : Bool :=
  match characters with
  | '\n' :: _ | '\r' :: '\n' :: _ => true
  | _ => false

/-- A text over several lines. A backslash at the end of a line passes over all blanks and line ends
that follow; `passing` tells that this is going on. -/
def basicLines? : (passing : Bool) → List Char → Option (List Char × List Char)
  | _, [] => none
  | _, '"' :: '"' :: '"' :: '"' :: '"' :: rest => some (['"', '"'], rest)
  | _, '"' :: '"' :: '"' :: '"' :: rest => some (['"'], rest)
  | _, '"' :: '"' :: '"' :: rest => some ([], rest)
  | passing, '\r' :: '\n' :: rest =>
      if passing then basicLines? true rest
      else behind (some '\r') (behind (some '\n') (basicLines? false rest))
  | passing, '\n' :: rest =>
      if passing then basicLines? true rest else behind (some '\n') (basicLines? false rest)
  | _, '\\' :: 'x' :: a :: b :: rest => behind (ofCode? [a, b]) (basicLines? false rest)
  | _, '\\' :: 'u' :: a :: b :: c :: d :: rest =>
      behind (ofCode? [a, b, c, d]) (basicLines? false rest)
  | _, '\\' :: 'U' :: a :: b :: c :: d :: e :: f :: g :: h :: rest =>
      behind (ofCode? [a, b, c, d, e, f, g, h]) (basicLines? false rest)
  | _, '\\' :: letter :: rest =>
      if isLineEnd ((letter :: rest).dropWhile isSpace) then basicLines? true (letter :: rest)
      else behind (escapedLetter? letter) (basicLines? false rest)
  | passing, character :: rest =>
      if passing && isSpace character then basicLines? true rest
      else if isPlain character then behind (some character) (basicLines? false rest)
      else none

def literal? : List Char → Option (List Char × List Char)
  | [] => none
  | '\'' :: rest => some ([], rest)
  | character :: rest =>
      if isPlain character then behind (some character) (literal? rest) else none

def literalLines? : List Char → Option (List Char × List Char)
  | [] => none
  | '\'' :: '\'' :: '\'' :: '\'' :: '\'' :: rest => some (['\'', '\''], rest)
  | '\'' :: '\'' :: '\'' :: '\'' :: rest => some (['\''], rest)
  | '\'' :: '\'' :: '\'' :: rest => some ([], rest)
  | '\r' :: '\n' :: rest => behind (some '\r') (behind (some '\n') (literalLines? rest))
  | character :: rest =>
      if isPlain character ∨ character = '\n' then behind (some character) (literalLines? rest)
      else none

/-- A line end right behind the opening quotes is no part of a text over several lines. -/
def dropLineEnd : List Char → List Char
  | '\n' :: rest => rest
  | '\r' :: '\n' :: rest => rest
  | characters => characters

/-- A quoted text of any kind, or of the kinds on one line. -/
def quoted? (lines : Bool) (characters : List Char) : Option (List Char × List Char) :=
  match characters with
  | '"' :: '"' :: '"' :: rest =>
      if lines then basicLines? false (dropLineEnd rest) else some ([], '"' :: rest)
  | '\'' :: '\'' :: '\'' :: rest =>
      if lines then literalLines? (dropLineEnd rest) else some ([], '\'' :: rest)
  | '"' :: rest => basic? rest
  | '\'' :: rest => literal? rest
  | _ => none

/-! ## Writing -/

def longestRun (wanted : Char) (characters : List Char) : Nat :=
  (characters.foldl
    (fun (current, longest) character =>
      let current := if character = wanted then current + 1 else 0
      (current, max longest current))
    (0, 0)).2

/-- The characters with escapes; at most `quotes` quotes in a row stand as they are. -/
def escapedFrom (lines : Bool) (quotes : Nat) : (run : Nat) → List Char → List Char
  | _, [] => []
  | run, '"' :: rest =>
      if run < quotes then '"' :: escapedFrom lines quotes (run + 1) rest
      else '\\' :: '"' :: escapedFrom lines quotes 0 rest
  | _, '\n' :: rest =>
      if lines then '\n' :: escapedFrom lines quotes 0 rest
      else '\\' :: 'n' :: escapedFrom lines quotes 0 rest
  | _, '\t' :: rest => '\\' :: 't' :: escapedFrom lines quotes 0 rest
  | _, '\r' :: rest => '\\' :: 'r' :: escapedFrom lines quotes 0 rest
  | _, '\x08' :: rest => '\\' :: 'b' :: escapedFrom lines quotes 0 rest
  | _, '\x0C' :: rest => '\\' :: 'f' :: escapedFrom lines quotes 0 rest
  | _, '\\' :: rest => '\\' :: '\\' :: escapedFrom lines quotes 0 rest
  | _, character :: rest =>
      (if isPlain character then [character]
        else '\\' :: 'u' :: (Json.hexDigits character.toNat).map Char.toUpper) ++
        escapedFrom lines quotes 0 rest

/-- A text in the first way to quote it that needs no escape, or else with escapes. -/
def written (text : String) : String :=
  let characters := text.toList
  let hasLineEnd := characters.contains '\n'
  let hasControl := characters.any fun character => !isPlain character && character != '\n'
  let hasBackslash := characters.contains '\\'
  let quotes := longestRun '"' characters
  let apostrophes := longestRun '\'' characters
  let opening := if hasLineEnd then ['\n'] else []
  let three (quote : Char) : List Char := [quote, quote, quote]
  String.ofList
    (if !hasControl && !hasBackslash && quotes = 0 && !hasLineEnd then
      '"' :: escapedFrom false 0 0 characters ++ ['"']
    else if !hasControl && apostrophes = 0 && !hasLineEnd then '\'' :: characters ++ ['\'']
    else if !hasControl && !hasBackslash && quotes ≤ 2 then
      three '"' ++ opening ++ escapedFrom true 2 0 characters ++ three '"'
    else if !hasControl && apostrophes ≤ 2 then
      three '\'' ++ opening ++ characters ++ three '\''
    else if hasLineEnd then
      three '"' ++ opening ++ escapedFrom true 2 0 characters ++ three '"'
    else '"' :: escapedFrom false 0 0 characters ++ ['"'])

end SheetPost.Toml
