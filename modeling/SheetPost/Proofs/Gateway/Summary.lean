import SheetPost.Gateway.Summary
import SheetPost.Proofs.Json.Totals

namespace SheetPost

/-- The message is a record from texts to numbers with these entries. -/
def SpellsTotals (message : String) (entries : List (String × Number)) : Prop :=
  ∃ fields, Json.SpellsRecord message.toList fields ∧ fields.mapM Reading.entry? = some entries

/-- One total for each category, the last one among the entries, in ascending order of the bytes. -/
structure Summarizes (totals : List CategoryTotal) (entries : List (String × Number)) : Prop where
  ascending : totals.Pairwise fun first later => bytes first.category < bytes later.category
  last : ∀ category total,
    ⟨category, total⟩ ∈ totals ↔ entries.reverse.lookup category = some total

def CategoryTotal.ofRow? : List Cell → Option CategoryTotal
  | [category, total] => total.number?.map fun number => ⟨category.shown, number⟩
  | _ => none

structure Shows (sheet : Table) (totals : List CategoryTotal) : Prop where
  header : sheet.rows.head? = some (Schema.report.columns.map Cell.ofText)
  rows : sheet.rows.tail.mapM CategoryTotal.ofRow? = some totals

/-! ## Reading a summary -/

def totalsOf (entries : List (String × Number)) : List CategoryTotal :=
  (Reading.sortedTotals entries).map fun entry => ⟨entry.1, entry.2⟩

theorem summaryOfText_of_spells {message : String} {fields : List (String × Literal)}
    (spelled : Json.SpellsRecord message.toList fields) :
    summaryOfText message =
      match fields.mapM Reading.entry? with
      | some entries => .ok (totalsOf entries)
      | none => .error (.invalidResponse (.malformed .reportSummary)) := by
  rw [summaryOfText, Json.ofText?_of_spells spelled, Option.bind_some, Reading.totals?_readField]
  cases fields.mapM Reading.entry? with
  | none => rfl
  | some entries => rfl

theorem exists_entries_iff {fields : List (String × Literal)} :
    (∃ entries, fields.mapM Reading.entry? = some entries) ↔
      ∀ field ∈ fields, field.2.InRange := by
  simp only [mapM_reads_iff, ← Literal.exists_number?_iff]
  simp [Reading.entry?, Option.map_eq_some_iff]

theorem mem_totalsOf_iff {entries : List (String × Number)} {category : String} {total : Number} :
    ⟨category, total⟩ ∈ totalsOf entries ↔ (category, total) ∈ Reading.sortedTotals entries := by
  simp [totalsOf]

theorem summarizes_totalsOf (entries : List (String × Number)) :
    Summarizes (totalsOf entries) entries where
  ascending := by
    refine List.pairwise_map.mpr ((Reading.ascending_sortedTotals entries).imp ?_)
    intro first later less
    exact bytes_lt_iff.mpr less
  last category total := by
    rw [mem_totalsOf_iff, (Reading.ascending_sortedTotals entries).mem_iff,
      Reading.lookup_sortedTotals]

theorem totalsOf_eq_iff {entries others : List (String × Number)} :
    totalsOf others = totalsOf entries ↔
      ∀ category, others.reverse.lookup category = entries.reverse.lookup category := by
  constructor
  · intro same category
    refine Option.ext fun total => ?_
    rw [← (summarizes_totalsOf others).last, ← (summarizes_totalsOf entries).last, same]
  · intro same
    refine congrArg (List.map _) ?_
    refine (Reading.ascending_sortedTotals others).eq_of_lookup
      (Reading.ascending_sortedTotals entries) fun category => ?_
    rw [Reading.lookup_sortedTotals, Reading.lookup_sortedTotals, same]

theorem isFinite_of_mem_totalsOf {fields : List (String × Literal)}
    {entries : List (String × Number)} (read : fields.mapM Reading.entry? = some entries)
    {total : CategoryTotal} (member : total ∈ totalsOf entries) : total.total.isFinite = true := by
  have found := ((summarizes_totalsOf entries).last total.category total.total).mp member
  have ⟨before, after, split, _⟩ := List.lookup_eq_some_iff.mp found
  have isEntry : (total.category, total.total) ∈ entries := by
    rw [← List.mem_reverse, split]
    simp
  exact Reading.isFinite_of_mem_entries read isEntry

/-! ## The sheet -/

theorem ofRow?_row {total : CategoryTotal} (finite : total.total.isFinite = true) :
    CategoryTotal.ofRow? [Cell.ofText total.category, .number total.total] = some total := by
  simp [CategoryTotal.ofRow?, Cell.number?, finite, Cell.shown_ofText]

theorem shows_renderSummary {totals : List CategoryTotal}
    (finite : ∀ total ∈ totals, total.total.isFinite = true) (sheet : Table) :
    Shows (renderSummary totals sheet) totals where
  header := rfl
  rows := by
    rw [renderSummary, List.tail_cons, List.mapM_map]
    induction totals with
    | nil => rfl
    | cons total totals induction =>
        have ⟨first, others⟩ := List.forall_mem_cons.mp finite
        rw [List.mapM_cons, Function.comp_apply, ofRow?_row first, induction others]
        rfl

/-- What a summary with these entries is read as, and what becomes of it in the report. -/
structure Reports (totals : List CategoryTotal) (entries : List (String × Number)) : Prop where
  summarizes : Summarizes totals entries
  shown : ∀ sheet, Shows (renderSummary totals sheet) totals
  named : ∀ sheet, (renderSummary totals sheet).name = sheet.name
  fresh : ∀ sheet other, (renderSummary totals sheet).rows = (renderSummary totals other).rows
  decided : ∀ message others, SpellsTotals message others →
    (summaryOfText message = .ok totals ↔
      ∀ category, others.reverse.lookup category = entries.reverse.lookup category)
  again : ∀ sheet, renderSummary totals (renderSummary totals sheet) = renderSummary totals sheet

/-- A message that is a record from texts to numbers is read if scaling every number stays within
the range, and otherwise it is malformed. What is read is what the report consists of. -/
theorem summary_reports :
    (∀ message fields, Json.SpellsRecord message.toList fields →
      ((∀ field ∈ fields, field.2.InRange) → ∃ totals, summaryOfText message = .ok totals) ∧
      ((∃ field ∈ fields, ¬ field.2.InRange) →
        summaryOfText message = .error (.invalidResponse (.malformed .reportSummary)))) ∧
    ∀ message entries, SpellsTotals message entries →
      ∃ totals, summaryOfText message = .ok totals ∧ Reports totals entries := by
  refine ⟨?_, ?_⟩
  · intro message fields spelled
    rw [summaryOfText_of_spells spelled]
    refine ⟨fun within => ?_, fun ⟨field, member, beyond⟩ => ?_⟩
    · have ⟨entries, read⟩ := exists_entries_iff.mpr within
      rw [read]
      exact ⟨_, rfl⟩
    · cases read : fields.mapM Reading.entry? with
      | none => rfl
      | some entries => exact absurd (exists_entries_iff.mp ⟨entries, read⟩ field member) beyond
  · intro message entries ⟨fields, spelled, read⟩
    have ok : summaryOfText message = .ok (totalsOf entries) := by
      rw [summaryOfText_of_spells spelled, read]
    refine ⟨_, ok, summarizes_totalsOf entries, ?_, fun _ => rfl, fun _ _ => rfl, ?_, fun _ => rfl⟩
    · exact shows_renderSummary fun _ member => isFinite_of_mem_totalsOf read member
    · intro otherMessage others ⟨otherFields, otherSpelled, otherRead⟩
      rw [summaryOfText_of_spells otherSpelled, otherRead, ← totalsOf_eq_iff]
      exact ⟨Except.ok.inj, congrArg Except.ok⟩

/-! A message with one category twice, once with an escaped letter. -/

def digitLiteral (digit : Char) : Literal :=
  ⟨false, [digit], none, none⟩

theorem spells_digit {digit : Char} (isDigit : isDigit digit = true) :
    (digitLiteral digit).Spells [digit] :=
  @Literal.Spells.intro false [digit] [] [] none none ⟨nofun, by simpa using isDigit⟩ (.inl rfl)
    .none .none

open Json in
theorem spellsEntry_after_gap {name gap number : List Char} {text : String} {literal : Literal}
    (named : SpellsText name text) (isGap : Gap gap) (valued : literal.Spells number) :
    SpellsEntry (name ++ ':' :: gap ++ number) (text, literal) := by
  simpa using @SpellsEntry.intro [] name [] gap number text _ nofun named nofun isGap valued

open Json in
theorem spellsText_letter {spelling : List Char} {letter : Char}
    (spelled : SpellsCharacter spelling letter) :
    SpellsText ('"' :: spelling ++ ['"']) (String.ofList [letter]) := by
  refine .intro ?_
  rw [String.toList_ofList]
  simpa using SpellsCharacters.cons spelled .nil

def repeated : String :=
  "\x7b\"b\": 5,\"a\":3,\"\\u0062\":7\x7d\n"

open Json in
theorem spellsRecord_repeated :
    SpellsRecord repeated.toList
      [("b", digitLiteral '5'), ("a", digitLiteral '3'), ("b", digitLiteral '7')] := by
  have plain : SpellsText _ "b" := spellsText_letter (.plain (by decide) (by decide) (by decide))
  have other : SpellsText _ "a" := spellsText_letter (.plain (by decide) (by decide) (by decide))
  have escaped : SpellsText _ "b" :=
    spellsText_letter (.code (@SpellsCode.intro '0' '0' '6' '2' 0 0 6 2 rfl rfl rfl rfl))
  have noGap : Gap [] := nofun
  have blank : Gap [' '] := by simp [Gap]
  have lineEnd : Gap ['\n'] := by simp [Gap]
  have first := spellsEntry_after_gap plain blank (spells_digit (by decide : isDigit '5' = true))
  have second := spellsEntry_after_gap other noGap (spells_digit (by decide : isDigit '3' = true))
  have third := spellsEntry_after_gap escaped noGap (spells_digit (by decide : isDigit '7' = true))
  have entries := SpellsEntries.more first noGap (.more second noGap (.last third noGap))
  exact SpellsRecord.entries noGap entries lineEnd

def beyondNumbers : String :=
  "\x7b\"a\":1e400\x7d"

def halfName : String :=
  "\x7b\"\\ud800\":1\x7d"

open Json in
theorem spellsRecord_beyondNumbers :
    SpellsRecord beyondNumbers.toList [("a", ⟨false, ['1'], none, some 400⟩)] := by
  have named : SpellsText _ "a" := spellsText_letter (.plain (by decide) (by decide) (by decide))
  have power : Literal.SpellsPower ['4', '0', '0'] 400 :=
    .unsigned ⟨nofun, List.all_eq_true.mp rfl⟩
  have valued : Literal.Spells ['1', 'e', '4', '0', '0'] ⟨false, ['1'], none, some 400⟩ :=
    @Literal.Spells.intro false ['1'] [] _ none _ ⟨nofun, List.all_eq_true.mp rfl⟩ (.inl rfl) .none
      (.some (.inl rfl) power)
  have noGap : Gap [] := nofun
  exact SpellsRecord.entries noGap (.last (spellsEntry_after_gap named noGap valued) noGap) noGap

theorem summary_reports_repeated :
    (∃ totals, summaryOfText repeated = .ok totals) ∧
      Reports [⟨"a", .ofNat 3⟩, ⟨"b", .ofNat 7⟩]
        [("b", .ofNat 5), ("a", .ofNat 3), ("b", .ofNat 7)] ∧
      summaryOfText beyondNumbers = .error (.invalidResponse (.malformed .reportSummary)) := by
  have ⟨reads, reported⟩ := summary_reports
  have spelled : SpellsTotals repeated [("b", .ofNat 5), ("a", .ofNat 3), ("b", .ofNat 7)] :=
    ⟨_, spellsRecord_repeated, by decide +kernel⟩
  have ⟨totals, read, reports⟩ := reported _ _ spelled
  have computed : summaryOfText repeated = .ok [⟨"a", .ofNat 3⟩, ⟨"b", .ofNat 7⟩] := by
    decide +kernel
  have same : totals = [⟨"a", .ofNat 3⟩, ⟨"b", .ofNat 7⟩] :=
    Except.ok.inj (read.symm.trans computed)
  have unread : (⟨false, ['1'], none, some 400⟩ : Literal).number? = none := by decide +kernel
  have beyond : ¬ (⟨false, ['1'], none, some 400⟩ : Literal).InRange := by
    rw [← Literal.exists_number?_iff]
    intro ⟨number, read⟩
    cases unread.symm.trans read
  have refused := (reads beyondNumbers _ spellsRecord_beyondNumbers).2
    ⟨("a", ⟨false, ['1'], none, some 400⟩), List.mem_singleton_self _, beyond⟩
  refine ⟨(reads _ _ spellsRecord_repeated).1 ?_, same ▸ reports, refused⟩
  simp only [List.forall_mem_cons]
  exact ⟨Literal.inRange_of_power rfl, Literal.inRange_of_power rfl, Literal.inRange_of_power rfl,
    nofun⟩

/-- A record with such a total or such a category is no summary. -/
theorem summary_refused :
    Json.SpellsRecord beyondNumbers.toList [("a", ⟨false, ['1'], none, some 400⟩)] ∧
      summaryOfText beyondNumbers = .error (.invalidResponse (.malformed .reportSummary)) ∧
      summaryOfText halfName = .error (.invalidResponse (.malformed .reportSummary)) :=
  ⟨spellsRecord_beyondNumbers, by decide +kernel, by decide +kernel⟩

end SheetPost
