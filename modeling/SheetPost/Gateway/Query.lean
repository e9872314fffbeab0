namespace SheetPost

/-- The bytes that stand for themselves. -/
def standsForItself (character : Char) : Bool :=
  ('A' ≤ character && character ≤ 'Z') || ('a' ≤ character && character ≤ 'z') ||
    ('0' ≤ character && character ≤ '9') || ['-', '_', '.', '~'].contains character

def hexDigit (value : Nat) : Char :=
  if value < 10 then Char.ofNat (48 + value) else Char.ofNat (55 + value)

def queryByte (byte : UInt8) : List Char :=
  let character := Char.ofNat byte.toNat
  if standsForItself character then [character]
  else ['%', hexDigit (byte.toNat / 16), hexDigit (byte.toNat % 16)]

def queryValue (text : String) : String :=
  String.ofList ((text.toList.flatMap String.utf8EncodeChar).flatMap queryByte)

example : queryByte 0x2B = "%2B".toList ∧ queryByte 0x7E = "~".toList := by decide
example : queryByte 0xFF = "%FF".toList := by decide

end SheetPost
