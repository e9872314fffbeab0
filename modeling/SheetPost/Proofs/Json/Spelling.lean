import SheetPost.Json.Reading
import SheetPost.Proofs.Json.Literal
import SheetPost.Proofs.Text.ByteOrder

namespace SheetPost.Json

/-! ## Spelling -/

def Gap (characters : List Char) : Prop :=
  ∀ character ∈ characters,
    character = ' ' ∨ character = '\n' ∨ character = '\r' ∨ character = '\t'

inductive SpellsCode : List Char → Nat → Prop
  | intro {a b c d : Char} {first second third fourth : Nat} (readFirst : hexValue? a = some first)
      (readSecond : hexValue? b = some second) (readThird : hexValue? c = some third)
      (readFourth : hexValue? d = some fourth) :
      SpellsCode [a, b, c, d] (((first * 16 + second) * 16 + third) * 16 + fourth)

inductive SpellsCharacter : List Char → Char → Prop
  | plain {character : Char} (noQuote : character ≠ '"') (noEscape : character ≠ '\\')
      (noControl : 0x20 ≤ character.toNat) : SpellsCharacter [character] character
  | escaped {letter character : Char} (stands : escapeCharacter? letter = some character) :
      SpellsCharacter ['\\', letter] character
  | code {digits : List Char} {character : Char} (spelled : SpellsCode digits character.toNat) :
      SpellsCharacter ('\\' :: 'u' :: digits) character
  | pair {high low : List Char} {character : Char} (beyond : 0x10000 ≤ character.toNat)
      (highSpelled : SpellsCode high (0xD800 + (character.toNat - 0x10000) / 0x400))
      (lowSpelled : SpellsCode low (0xDC00 + (character.toNat - 0x10000) % 0x400)) :
      SpellsCharacter ('\\' :: 'u' :: high ++ '\\' :: 'u' :: low) character

inductive SpellsCharacters : List Char → List Char → Prop
  | nil : SpellsCharacters [] []
  | cons {spelling spellings : List Char} {character : Char} {characters : List Char}
      (first : SpellsCharacter spelling character)
      (others : SpellsCharacters spellings characters) :
      SpellsCharacters (spelling ++ spellings) (character :: characters)

inductive SpellsText : List Char → String → Prop
  | intro {spelling : List Char} {text : String}
      (spelled : SpellsCharacters spelling text.toList) :
      SpellsText ('"' :: spelling ++ ['"']) text

inductive SpellsEntry : List Char → String × Literal → Prop
  | intro {before name between after number : List Char} {text : String} {literal : Literal}
      (gapBefore : Gap before) (named : SpellsText name text) (gapBetween : Gap between)
      (gapAfter : Gap after) (valued : literal.Spells number) :
      SpellsEntry (before ++ name ++ between ++ ':' :: after ++ number) (text, literal)

inductive SpellsEntries : List Char → List (String × Literal) → Prop
  | last {spelling gap : List Char} {entry : String × Literal}
      (spelled : SpellsEntry spelling entry) (isGap : Gap gap) :
      SpellsEntries (spelling ++ gap ++ ['\x7d']) [entry]
  | more {spelling gap spellings : List Char} {entry : String × Literal}
      {entries : List (String × Literal)} (spelled : SpellsEntry spelling entry)
      (isGap : Gap gap) (others : SpellsEntries spellings entries) :
      SpellsEntries (spelling ++ gap ++ ',' :: spellings) (entry :: entries)

/-- How a message that is a record from texts to numbers is spelled. -/
inductive SpellsRecord : List Char → List (String × Literal) → Prop
  | empty {before inside after : List Char} (gapBefore : Gap before) (gapInside : Gap inside)
      (gapAfter : Gap after) :
      SpellsRecord (before ++ '\x7b' :: inside ++ '\x7d' :: after) []
  | entries {before spellings after : List Char} {entries : List (String × Literal)}
      (gapBefore : Gap before) (spelled : SpellsEntries spellings entries) (gapAfter : Gap after) :
      SpellsRecord (before ++ '\x7b' :: spellings ++ after) entries

/-! ## Scanning -/

/-- Between tokens, a scan of the characters finds these tokens and is between tokens again. -/
def Scans (characters : List Char) (found : List Token) : Prop :=
  ∀ tokens, characters.foldlM scanStep? (tokens, Scanning.between) =
    some (found.reverse ++ tokens, .between)

theorem Scans.append {first second : List Char} {found foundAfter : List Token}
    (scans : Scans first found) (scansAfter : Scans second foundAfter) :
    Scans (first ++ second) (found ++ foundAfter) := by
  intro tokens
  rw [List.foldlM_append, scans tokens]
  simp only [Option.bind_eq_bind, Option.bind_some, List.reverse_append, List.append_assoc]
  exact scansAfter _

theorem scans_gap {characters : List Char} (gap : Gap characters) : Scans characters [] := by
  intro tokens
  induction characters with
  | nil => rfl
  | cons character characters induction =>
      have ⟨isBlank, rest⟩ := List.forall_mem_cons.mp gap
      rcases isBlank with rfl | rfl | rfl | rfl
      · exact induction rest
      · exact induction rest
      · exact induction rest
      · exact induction rest

theorem tokens?_of_scans {text : String} {found : List Token} (scans : Scans text.toList found) :
    tokens? text = some found := by
  rw [tokens?, scans []]
  simp [scanEnd?]

/-! ### Texts -/

/-- In a quoted text, a scan of the characters takes these units. -/
def Takes (characters : List Char) (units : List TextUnit) : Prop :=
  ∀ tokens taken, characters.foldlM scanStep? (tokens, Scanning.text taken) =
    some (tokens, .text (units.reverse ++ taken))

theorem takes_code {digits : List Char} {value : Nat} (spelled : SpellsCode digits value) :
    Takes ('\\' :: 'u' :: digits) [.ofCode value] := by
  intro tokens taken
  cases spelled with
  | intro readFirst readSecond readThird readFourth =>
      simp [scanStep?, readFirst, readSecond, readThird, readFourth]

theorem Takes.append {first second : List Char} {units unitsAfter : List TextUnit}
    (takes : Takes first units) (takesAfter : Takes second unitsAfter) :
    Takes (first ++ second) (units ++ unitsAfter) := by
  intro tokens taken
  rw [List.foldlM_append, takes tokens taken]
  simp only [Option.bind_eq_bind, Option.bind_some, List.reverse_append, List.append_assoc]
  exact takesAfter _ _

/-- The units are joined to the character, whatever comes after them. -/
def JoinTo (units : List TextUnit) (character : Char) : Prop :=
  ∀ others, joinUnits? (units ++ others) = (joinUnits? others).map (character :: ·)

theorem ofCode_toNat (character : Char) :
    TextUnit.ofCode character.toNat = .character character := by
  have valid := toNat_valid character
  rw [TextUnit.ofCode, if_neg (by omega), Char.ofNat_toNat]

theorem joinTo_pair {character : Char} (beyond : 0x10000 ≤ character.toNat) :
    JoinTo [.ofCode (0xD800 + (character.toNat - 0x10000) / 0x400),
      .ofCode (0xDC00 + (character.toNat - 0x10000) % 0x400)] character := by
  have valid := toNat_valid character
  intro others
  generalize isHigh : 0xD800 + (character.toNat - 0x10000) / 0x400 = high
  generalize isLow : 0xDC00 + (character.toNat - 0x10000) % 0x400 = low
  have code : 0x10000 + (high - 0xD800) * 0x400 + (low - 0xDC00) = character.toNat := by omega
  rw [TextUnit.ofCode, if_pos (by omega), TextUnit.ofCode, if_pos (by omega), List.cons_append,
    List.cons_append, List.nil_append, joinUnits?, if_pos (by omega), code, Char.ofNat_toNat]

theorem takes_character {spelling : List Char} {character : Char}
    (spelled : SpellsCharacter spelling character) :
    ∃ units, Takes spelling units ∧ JoinTo units character := by
  cases spelled with
  | plain noQuote noEscape noControl =>
      refine ⟨[.character character], fun tokens taken => ?_, fun _ => rfl⟩
      simp [scanStep?, noQuote, noEscape, Nat.not_lt.mpr noControl]
  | @escaped letter _ stands =>
      have notCode : letter ≠ 'u' := by
        intro same
        subst same
        cases stands
      refine ⟨[.character character], fun tokens taken => ?_, fun _ => rfl⟩
      simp [scanStep?, notCode, stands]
  | code spelled =>
      refine ⟨_, takes_code spelled, fun _ => ?_⟩
      rw [ofCode_toNat]
      rfl
  | pair beyond highSpelled lowSpelled =>
      exact ⟨_, (takes_code highSpelled).append (takes_code lowSpelled), joinTo_pair beyond⟩

theorem takes_characters {spelling characters : List Char}
    (spelled : SpellsCharacters spelling characters) :
    ∃ units, Takes spelling units ∧ joinUnits? units = some characters := by
  induction spelled with
  | nil => exact ⟨[], fun _ _ => rfl, rfl⟩
  | cons first _ induction =>
      have ⟨units, takes, joins⟩ := takes_character first
      have ⟨others, takesAfter, joinsAfter⟩ := induction
      exact ⟨units ++ others, takes.append takesAfter, by rw [joins, joinsAfter]; rfl⟩

theorem scans_text {spelling : List Char} {text : String} (spelled : SpellsText spelling text) :
    Scans spelling [.text (some text)] := by
  cases spelled with
  | intro spelled =>
      have ⟨units, takes, joins⟩ := takes_characters spelled
      intro tokens
      have closed : scanStep? (tokens, .text units.reverse) '"' =
          some (.text (some text) :: tokens, .between) := by
        simp [scanStep?, joins]
      have opened : scanStep? (tokens, .between) '"' = some (tokens, .text []) := rfl
      rw [List.cons_append, List.foldlM_cons, opened]
      simp only [Option.bind_eq_bind, Option.bind_some]
      rw [List.foldlM_append, takes tokens []]
      simpa using closed

/-! ### Numbers -/

theorem all_isNumberCharacter_of_isNumeral {digits : List Char}
    (numeral : Literal.IsNumeral digits) : digits.all isNumberCharacter = true := by
  refine List.all_eq_true.mpr fun digit member => ?_
  simp [isNumberCharacter, numeral.digits digit member]

theorem all_isNumberCharacter_cons {sign : Char} {characters : List Char}
    (isSign : isNumberCharacter sign = true) (all : characters.all isNumberCharacter = true) :
    (sign :: characters).all isNumberCharacter = true := by
  simp only [List.all_cons, isSign, all, Bool.and_self]

theorem all_isNumberCharacter_of_spellsExponent {characters : List Char} {exponent : Option Int}
    (spelled : Literal.SpellsExponent characters exponent) :
    characters.all isNumberCharacter = true := by
  cases spelled with
  | none => rfl
  | @some letter characters _ isLetter spelled =>
      have power : characters.all isNumberCharacter = true := by
        cases spelled with
        | unsigned digits => exact all_isNumberCharacter_of_isNumeral digits
        | plus digits =>
            exact all_isNumberCharacter_cons rfl (all_isNumberCharacter_of_isNumeral digits)
        | minus digits =>
            exact all_isNumberCharacter_cons rfl (all_isNumberCharacter_of_isNumeral digits)
      rcases isLetter with rfl | rfl
      · exact all_isNumberCharacter_cons rfl power
      · exact all_isNumberCharacter_cons rfl power

theorem all_isNumberCharacter_of_spells {spelling : List Char} {literal : Literal}
    (spelled : literal.Spells spelling) : spelling.all isNumberCharacter = true := by
  cases spelled with
  | @intro negative _ fractionPart _ _ _ numeral _ fractionSpelled exponentSpelled =>
      have sign : (Literal.minus negative).all isNumberCharacter = true := by
        cases negative with
        | true => rfl
        | false => rfl
      have fraction : fractionPart.all isNumberCharacter = true := by
        cases fractionSpelled with
        | none => rfl
        | some digits =>
            exact all_isNumberCharacter_cons rfl (all_isNumberCharacter_of_isNumeral digits)
      have exponent := all_isNumberCharacter_of_spellsExponent exponentSpelled
      simp only [List.all_append, sign, all_isNumberCharacter_of_isNumeral numeral, fraction,
        exponent, Bool.and_self]

theorem beginToken?_digit {tokens : List Token} {digit : Char} (isDigit : isDigit digit = true) :
    beginToken? tokens digit = some (tokens, .number [digit]) := by
  unfold beginToken?
  split
  case h_12 => simp [isDigit]
  all_goals exact absurd isDigit (by decide)

theorem foldlM_number {characters : List Char} (all : characters.all isNumberCharacter = true)
    (tokens : List Token) (before : List Char) :
    characters.foldlM scanStep? (tokens, Scanning.number before) =
      some (tokens, .number (characters.reverse ++ before)) := by
  induction characters generalizing before with
  | nil => rfl
  | cons character characters induction =>
      have ⟨first, others⟩ := Bool.and_eq_true_iff.mp all
      rw [List.foldlM_cons]
      simp [scanStep?, first, induction others]

theorem exists_cons_of_spells {spelling : List Char} {literal : Literal}
    (spelled : literal.Spells spelling) :
    ∃ head tail, spelling = head :: tail ∧
      ∀ tokens, beginToken? tokens head = some (tokens, .number [head]) := by
  cases spelled with
  | @intro negative whole _ _ _ _ numeral =>
      cases negative with
      | true => exact ⟨'-', _, rfl, fun _ => rfl⟩
      | false =>
          have ⟨digit, digits, same⟩ := List.exists_cons_of_ne_nil numeral.filled
          have first := numeral.digits digit (by rw [same]; exact List.mem_cons_self)
          subst same
          exact ⟨digit, _, rfl, fun _ => beginToken?_digit first⟩

theorem Gap.isNumberCharacter_eq_false {characters : List Char} (gap : Gap characters)
    {character : Char} (member : character ∈ characters) :
    isNumberCharacter character = false := by
  rcases gap character member with rfl | rfl | rfl | rfl
  · rfl
  · rfl
  · rfl
  · rfl

theorem Scans.number {spelling rest : List Char} {next : Char} {literal : Literal}
    {found : List Token} (spelled : literal.Spells spelling)
    (ends : isNumberCharacter next = false) (scans : Scans (next :: rest) found) :
    Scans (spelling ++ next :: rest) (.number literal :: found) := by
  intro tokens
  have ⟨head, tail, same, begins⟩ := exists_cons_of_spells spelled
  have all := all_isNumberCharacter_of_spells spelled
  have read := Literal.ofChars?_of_spells spelled
  subst same
  have ⟨_, others⟩ := Bool.and_eq_true_iff.mp all
  have first : scanStep? (tokens, .between) head = some (tokens, .number [head]) := begins tokens
  -- The character that ends the number is taken as if the number were a token already.
  have isNumber : scanStep? (tokens, .number (tail.reverse ++ [head])) next =
      scanStep? (.number literal :: tokens, .between) next := by
    simp [scanStep?, ends, read]
  rw [List.cons_append, List.foldlM_cons, first]
  simp only [Option.bind_eq_bind, Option.bind_some]
  rw [List.foldlM_append, foldlM_number others]
  simp only [Option.bind_eq_bind, Option.bind_some]
  rw [List.foldlM_cons, isNumber, ← List.foldlM_cons, scans]
  simp

/-! ### Records -/

def Token.ofField (field : String × Literal) : List Token :=
  [.text (some field.1), .colon, .number field.2]

def Token.afterField : (fields : List (String × Literal)) → List Token
  | [] => [.closeRecord]
  | field :: fields => .comma :: (ofField field ++ afterField fields)

def Token.ofFields : (fields : List (String × Literal)) → List Token
  | [] => [.closeRecord]
  | field :: fields => ofField field ++ afterField fields

theorem scans_entry {spelling gap : List Char} {entry : String × Literal} {closing : Char}
    {token : Token} (spelled : SpellsEntry spelling entry) (isGap : Gap gap)
    (ends : isNumberCharacter closing = false)
    (closes : Scans [closing] [token]) :
    Scans (spelling ++ gap ++ [closing]) (Token.ofField entry ++ [token]) := by
  cases spelled with
  | @intro _ _ _ _ number _ literal gapBefore named gapBetween gapAfter valued =>
      have colon : Scans [':'] [.colon] := fun _ => rfl
      have tail : Scans (number ++ (gap ++ [closing])) [.number literal, token] := by
        cases gap with
        | nil => exact Scans.number valued ends closes
        | cons blank blanks =>
            exact Scans.number valued (isGap.isNumberCharacter_eq_false List.mem_cons_self)
              ((scans_gap isGap).append closes)
      have all := (scans_gap gapBefore).append ((scans_text named).append
        ((scans_gap gapBetween).append (colon.append ((scans_gap gapAfter).append tail))))
      simpa [Token.ofField] using all

theorem scans_entries {spelling : List Char} {fields : List (String × Literal)}
    (spelled : SpellsEntries spelling fields) : Scans spelling (Token.ofFields fields) := by
  induction spelled with
  | last spelled isGap => exact scans_entry spelled isGap rfl fun _ => rfl
  | @more spelling gap spellings entry entries spelled isGap others induction =>
      have first : Scans (spelling ++ gap ++ [',']) (Token.ofField entry ++ [.comma]) :=
        scans_entry spelled isGap rfl fun _ => rfl
      have both := first.append induction
      cases others with
      | last => simpa [Token.ofFields, Token.afterField] using both
      | more => simpa [Token.ofFields, Token.afterField] using both

theorem scans_record {spelling : List Char} {fields : List (String × Literal)}
    (spelled : SpellsRecord spelling fields) :
    Scans spelling (.openRecord :: Token.ofFields fields) := by
  have opening : Scans ['\x7b'] [.openRecord] := fun _ => rfl
  have closing : Scans ['\x7d'] [.closeRecord] := fun _ => rfl
  cases spelled with
  | empty gapBefore gapInside gapAfter =>
      have all := (scans_gap gapBefore).append (opening.append ((scans_gap gapInside).append
        (closing.append (scans_gap gapAfter))))
      simpa [Token.ofFields] using all
  | entries gapBefore spelled gapAfter =>
      have all := (scans_gap gapBefore).append (opening.append
        ((scans_entries spelled).append (scans_gap gapAfter)))
      simpa using all

/-! ## Building -/

def readField (field : String × Literal) : Option String × Reading :=
  (some field.1, .number field.2)

open Reading in
theorem build_afterField (outer : List Frame) (before : Fields) (field : String × Literal)
    (fields : List (String × Literal)) :
    (Token.afterField fields).foldlM buildStep?
        (.done (.record before (some field.1) :: outer) (.number field.2)) =
      some (.done outer (.record (before.reverse ++ (field :: fields).map readField))) := by
  induction fields generalizing before field with
  | nil => simp [Token.afterField, buildStep?, readField]
  | cons next fields induction =>
      have built := induction (readField field :: before) next
      simpa [Token.afterField, Token.ofField, buildStep?, beginValue?, readField] using built

open Reading in
/-- A message that spells a record of numbers is read as exactly that record. -/
theorem ofText?_of_spells {text : String} {fields : List (String × Literal)}
    (spelled : SpellsRecord text.toList fields) :
    Reading.ofText? text = some (.record (fields.map readField)) := by
  rw [ofText?, tokens?_of_scans (scans_record spelled), Option.bind_some, ofTokens?]
  cases fields with
  | nil => rfl
  | cons field fields =>
      have built := build_afterField [] [] field fields
      have all : (Token.openRecord :: Token.ofFields (field :: fields)).foldlM buildStep?
          (.value []) = some (.done [] (.record ((field :: fields).map readField))) := by
        simpa [Token.ofFields, Token.ofField, buildStep?, beginValue?] using built
      rw [all]

end SheetPost.Json
