import SheetPost.Gateway.Account
import SheetPost.Workbook.Table

namespace SheetPost.AuthSheet

def valuesRow : RowPosition := ⟨1⟩

def emailColumn : Nat := 0

def passwordColumn : Nat := 1

def tokenColumn : Nat := 2

def credentials (sheet : Table) : Credentials :=
  { email := trim (sheet.get valuesRow emailColumn).shown
    password := (sheet.get valuesRow passwordColumn).shown }

def session? (sheet : Table) : Option Session :=
  let email := (sheet.get valuesRow emailColumn).shown
  Session.of? (sheet.get valuesRow tokenColumn).shown (if blank email then none else some email)

def storeSession (session : Session) (sheet : Table) : Table :=
  sheet.set valuesRow tokenColumn (.ofText session.token)

def clearSession (sheet : Table) : Table :=
  sheet.set valuesRow tokenColumn .empty

end SheetPost.AuthSheet
