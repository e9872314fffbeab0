import SheetPost.Posting.Record
import SheetPost.Proofs.Number.Shown

namespace SheetPost

namespace Cell

/-! ## Amounts -/

/-- A finite number other than zero stands in a cell, as a number or spelled out. -/
inductive HoldsAmount : Cell → Number → Prop where
  | number {value : Number} (finite : value.isFinite = true) (counts : value.isZero = false) :
      HoldsAmount (.number value) value
  | text {spelling : String} {value : Number} (read : Number.read? (trim spelling) = some value)
      (finite : value.isFinite = true) (counts : value.isZero = false) :
      HoldsAmount (.text spelling) value

theorem HoldsAmount.finite {cell : Cell} {value : Number} (holds : cell.HoldsAmount value) :
    value.isFinite = true := by
  cases holds <;> assumption

theorem HoldsAmount.counts {cell : Cell} {value : Number} (holds : cell.HoldsAmount value) :
    value.isZero = false := by
  cases holds <;> assumption

theorem number?_text_eq_some_iff {spelling : String} {value : Number} :
    (text spelling).number? = some value ↔
      Number.read? (trim spelling) = some value ∧ value.isFinite = true := by
  simp [number?, Option.filter_eq_some_iff]

theorem isTruthy_of_read? {spelling : String} {value : Number}
    (read : Number.read? (trim spelling) = some value) : (text spelling).isTruthy = true := by
  have some : trim spelling ≠ "" := by
    intro none
    rw [none] at read
    cases read
  simp [isTruthy, blank_eq_false_iff_trim.mpr some]

theorem holdsAmount_iff {cell : Cell} {value : Number} :
    cell.HoldsAmount value ↔
      cell.isTruthy = true ∧ cell.number? = some value ∧ value.isZero = false := by
  constructor
  · intro holds
    cases holds with
    | number finite counts =>
        have named : value.isNan = false := by
          cases value with
          | nan => cases finite
          | _ => rfl
        simp [isTruthy, number?, finite, counts, named]
    | text read finite counts =>
        exact ⟨isTruthy_of_read? read, number?_text_eq_some_iff.mpr ⟨read, finite⟩, counts⟩
  · intro ⟨_, read, counts⟩
    cases cell with
    | number held =>
        simp only [number?, Option.ite_none_right_eq_some, Option.some.injEq] at read
        have ⟨finite, same⟩ := read
        subst same
        exact .number finite counts
    | text spelling =>
        have ⟨spelled, finite⟩ := number?_text_eq_some_iff.mp read
        exact .text spelled finite counts
    | _ => cases read

/-! ## Texts and dates -/

theorem blank_shown {cell : Cell} (truthy : cell.isTruthy = true) : blank cell.shown = false := by
  cases cell with
  | empty => cases truthy
  | text value => simpa [isTruthy, shown] using truthy
  | number value => exact value.blank_cellText
  | boolean value => cases value <;> decide
  | date value => exact blank_eq_false_iff.mpr ⟨'-', by simp [shown, Date.text, DatePattern.iso,
      DatePattern.write], by decide⟩

theorem trim_shown_ne_empty {cell : Cell} (truthy : cell.isTruthy = true) :
    trim cell.shown ≠ "" :=
  blank_eq_false_iff_trim.mp (blank_shown truthy)

end Cell

/-! ## Required cells -/

variable {cells : List Cell} {column : Nat}

theorem requiredNumber?_eq_some_iff {number : Number} :
    requiredNumber? cells column = some number ↔ (cellAt cells column).HoldsAmount number := by
  rw [requiredNumber?, Cell.holdsAmount_iff]
  simp [Option.filter_eq_some_iff]

theorem requiredText?_eq_some_iff {text : String} :
    requiredText? cells column = some text ↔
      (cellAt cells column).isTruthy = true ∧ trim (cellAt cells column).shown = text := by
  simp [requiredText?]

/-- The text that stands for a date: in ISO form where it is understood, as typed where it is not,
and there is something to see in either case. -/
structure IsDateText (cell : Cell) (text : String) : Prop where
  visible : text ≠ ""
  understood : ∀ date, cell.date? = some date → text = date.text
  asTyped : cell.date? = none → text = trim cell.shown

theorem Date.text_ne_empty (date : Date) : date.text ≠ "" := by
  simp [Date.text, DatePattern.iso, DatePattern.write]

theorem requiredDate?_eq_some_iff {text : String} :
    requiredDate? cells column = some text ↔
      (cellAt cells column).isTruthy = true ∧ IsDateText (cellAt cells column) text := by
  generalize at_ : cellAt cells column = cell
  rw [requiredDate?, at_]
  constructor
  · intro read
    simp only [Option.ite_none_right_eq_some, Option.some.injEq] at read
    rcases read with ⟨truthy, same⟩
    subst same
    refine ⟨truthy, ?_, ?_, ?_⟩
    · split
      · exact Date.text_ne_empty _
      · exact Cell.trim_shown_ne_empty truthy
    · intro date found
      rw [found]
    · intro none
      rw [none]
  · intro made
    rcases made with ⟨truthy, isText⟩
    rw [if_pos truthy]
    split
    · next date found => rw [isText.understood date found]
    · next none => rw [isText.asTyped none]

/-! ## Records that can be sent -/

/-- A record can be sent: its number is finite and not zero and is written as a number, no field of
its body is `null`, and its category can be seen and has no blanks at its ends. -/
structure Sendable (name : String) (number : Number) (category : String) (body : Option Json) :
    Prop where
  finite : number.isFinite = true
  counts : number.isZero = false
  visible : category ≠ ""
  neat : trim category = category
  written : ∃ fields, body = some (.record fields) ∧ (name, .number number) ∈ fields ∧
    ∀ field ∈ fields, field.2.compact ≠ "null"

theorem Json.compact_text_ne_null (text : String) : (Json.text text).compact ≠ "null" := by
  intro null
  have characters := congrArg String.toList null
  simp [Json.compact, Json.quoted] at characters

theorem sendable_of_read {name : String} {number : Number} {fields : List (String × Json)}
    {holder shower : Cell} (holds : holder.HoldsAmount number)
    (truthy : shower.isTruthy = true) (there : (name, .number number) ∈ fields)
    (texts : ∀ field ∈ fields, field.2 = .number number ∨ ∃ text, field.2 = .text text) :
    Sendable name number (trim shower.shown) (some (.record fields)) where
  finite := holds.finite
  counts := holds.counts
  visible := Cell.trim_shown_ne_empty truthy
  neat := trim_trim shower.shown
  written := by
    refine ⟨fields, rfl, there, fun field member => ?_⟩
    rcases texts field member with isNumber | ⟨text, isText⟩
    · rw [isNumber]
      exact Json.numberText_ne_null holds.finite
    · rw [isText]
      exact Json.compact_text_ne_null text

/-! ## Rows -/

/-- What is read from the rows of one kind of record: which rows make one, what it is then, and
which cells have a part in it. -/
structure ReadsRows (α : Type) [SheetRecord α] (amount : Nat) (required : List Nat) (last : Nat)
    (ReadFrom : List Cell → α → Prop) : Prop where
  eligible_iff : ∀ cells, (SheetRecord.ofRow? cells : Option α).isSome = true ↔
    (∃ number, (cellAt cells amount).HoldsAmount number) ∧
      ∀ column ∈ required, (cellAt cells column).isTruthy = true
  reads : ∀ cells record, SheetRecord.ofRow? cells = some record → ReadFrom cells record
  padded : ∀ (cells : List Cell) (count : Nat),
    (SheetRecord.ofRow? (cells ++ List.replicate count .empty) : Option α) =
      SheetRecord.ofRow? cells
  beyond : ∀ cells others : List Cell,
    (∀ column ≤ last, cellAt others column = cellAt cells column) →
      (SheetRecord.ofRow? others : Option α) = SheetRecord.ofRow? cells

theorem cellAt_append_empty (cells : List Cell) (count column : Nat) :
    cellAt (cells ++ List.replicate count .empty) column = cellAt cells column := by
  simp only [cellAt, List.getElem?_append, List.getElem?_replicate]
  split
  · rfl
  · next past =>
      rw [List.getElem?_eq_none (Nat.le_of_not_lt past)]
      split <;> rfl

theorem ReadsRows.of_made {α : Type} [SheetRecord α] {amount : Nat} {required : List Nat}
    {last : Nat} {ReadFrom : List Cell → α → Prop}
    (made : ∀ cells, (SheetRecord.ofRow? cells : Option α).isSome = true ↔
      (requiredNumber? cells amount).isSome = true ∧
        ∀ column ∈ required, (cellAt cells column).isTruthy = true)
    (reads : ∀ cells record, SheetRecord.ofRow? cells = some record → ReadFrom cells record)
    (beyond : ∀ cells others : List Cell,
      (∀ column ≤ last, cellAt others column = cellAt cells column) →
        (SheetRecord.ofRow? others : Option α) = SheetRecord.ofRow? cells) :
    ReadsRows α amount required last ReadFrom where
  eligible_iff cells := by
    simp only [made, Option.isSome_iff_exists, requiredNumber?_eq_some_iff]
  reads := reads
  padded cells count := beyond _ _ fun column _ => cellAt_append_empty cells count column
  beyond := beyond

namespace NewTransaction

theorem ofRow?_eq_some_iff {transaction : NewTransaction} :
    SheetRecord.ofRow? cells = some transaction ↔
      requiredNumber? cells 0 = some transaction.amount ∧
      requiredText? cells 1 = some transaction.category ∧
      requiredDate? cells 3 = some transaction.date ∧
      (cellAt cells 2).shown = transaction.description := by
  cases transaction
  simp [SheetRecord.ofRow?, Option.bind_eq_some_iff]

structure ReadFrom (cells : List Cell) (transaction : NewTransaction) : Prop where
  amount : (cellAt cells 0).HoldsAmount transaction.amount
  category : transaction.category = trim (cellAt cells 1).shown
  description : transaction.description = (cellAt cells 2).shown
  date : IsDateText (cellAt cells 3) transaction.date
  sendable : Sendable "amount" transaction.amount transaction.category
    (SheetRecord.create transaction).body

theorem readFrom_of_ofRow? {transaction : NewTransaction}
    (made : SheetRecord.ofRow? cells = some transaction) : transaction.ReadFrom cells := by
  have ⟨amount, category, date, description⟩ := ofRow?_eq_some_iff.mp made
  have holds := requiredNumber?_eq_some_iff.mp amount
  have ⟨named, same⟩ := requiredText?_eq_some_iff.mp category
  have ⟨_, dated⟩ := requiredDate?_eq_some_iff.mp date
  refine ⟨holds, same.symm, description.symm, dated, ?_⟩
  rw [← same]
  exact sendable_of_read holds named (by simp) (by simp)

theorem readsRows : ReadsRows NewTransaction 0 [1, 3] 3 fun cells transaction =>
    transaction.ReadFrom cells := by
  refine .of_made ?_ (fun _ _ => readFrom_of_ofRow?) ?_
  · intro cells
    simp [Option.isSome_iff_exists, SheetRecord.ofRow?, requiredText?, requiredDate?,
      Option.bind_eq_some_iff]
  · intro cells others same
    simp only [SheetRecord.ofRow?, requiredNumber?_congr (same 0 (by decide)),
      requiredText?_congr (same 1 (by decide)), requiredDate?_congr (same 3 (by decide)),
      same 2 (by decide)]

end NewTransaction

namespace NewBudget

theorem ofRow?_eq_some_iff {budget : NewBudget} :
    SheetRecord.ofRow? cells = some budget ↔
      requiredText? cells 0 = some budget.category ∧
      requiredNumber? cells 1 = some budget.limit := by
  cases budget
  simp [SheetRecord.ofRow?, Option.bind_eq_some_iff]

structure ReadFrom (cells : List Cell) (budget : NewBudget) : Prop where
  category : budget.category = trim (cellAt cells 0).shown
  limit : (cellAt cells 1).HoldsAmount budget.limit
  sendable : Sendable "limit" budget.limit budget.category (SheetRecord.create budget).body

theorem readFrom_of_ofRow? {budget : NewBudget} (made : SheetRecord.ofRow? cells = some budget) :
    budget.ReadFrom cells := by
  have ⟨category, limit⟩ := ofRow?_eq_some_iff.mp made
  have holds := requiredNumber?_eq_some_iff.mp limit
  have ⟨named, same⟩ := requiredText?_eq_some_iff.mp category
  refine ⟨same.symm, holds, ?_⟩
  rw [← same]
  exact sendable_of_read holds named (by simp) (by simp)

theorem readsRows : ReadsRows NewBudget 1 [0] 1 fun cells budget => budget.ReadFrom cells := by
  refine .of_made ?_ (fun _ _ => readFrom_of_ofRow?) ?_
  · intro cells
    rw [and_comm]
    simp [Option.isSome_iff_exists, SheetRecord.ofRow?, requiredText?, Option.bind_eq_some_iff]
  · intro cells others same
    simp only [SheetRecord.ofRow?, requiredText?_congr (same 0 (by decide)),
      requiredNumber?_congr (same 1 (by decide))]

end NewBudget

/-- For every row there is, a record is made exactly where its amount is a finite number other than
zero and its category, and for a transaction its date, is there; it can be sent then; and no cell
past the columns that are read and no empty cells at the end of the row change it. -/
theorem rows_make_sendable_records :
    (ReadsRows NewTransaction 0 [1, 3] 3 fun cells transaction => transaction.ReadFrom cells) ∧
    ReadsRows NewBudget 1 [0] 1 fun cells budget => budget.ReadFrom cells :=
  ⟨NewTransaction.readsRows, NewBudget.readsRows⟩

def looseRow : List Cell :=
  [.text " 1e3 ", .boolean true, .empty, .text "next friday ", .text "OK"]

theorem rows_make_sendable_records_loose :
    ∃ transaction : NewTransaction, SheetRecord.ofRow? looseRow = some transaction ∧
      transaction.ReadFrom looseRow ∧ transaction.category = "true" ∧
      transaction.date = "next friday" ∧
      SheetRecord.ofRow? (looseRow ++ [.empty, .empty]) = some transaction ∧
      SheetRecord.ofRow? (looseRow.take 4) = some transaction := by
  have rules := rows_make_sendable_records.1
  have holds : (cellAt looseRow 0).HoldsAmount (.ofNat 1000) :=
    .text (by decide +kernel) (by decide +kernel) (by decide +kernel)
  have made := (rules.eligible_iff looseRow).mpr ⟨⟨_, holds⟩, by decide +kernel⟩
  have ⟨transaction, same⟩ := Option.isSome_iff_exists.mp made
  have readFrom := rules.reads looseRow transaction same
  have padded := rules.padded looseRow 2
  have beyond := rules.beyond looseRow (looseRow.take 4) (by decide +kernel)
  refine ⟨transaction, same, readFrom, ?_, ?_, padded.trans same, beyond.trans same⟩
  · rw [readFrom.category]
    decide +kernel
  · rw [readFrom.date.asTyped (by decide +kernel)]
    decide +kernel

end SheetPost
