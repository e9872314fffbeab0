namespace SheetPost

inductive FileFault where
  | noEntry
  | exists
  | notDirectory
  | isDirectory
  | nameTooLong
  | nulInName
  | notText
deriving DecidableEq

namespace FileFault

def message : FileFault → String
  | noEntry => "No such file or directory (os error 2)"
  | .exists => "File exists (os error 17)"
  | notDirectory => "Not a directory (os error 20)"
  | isDirectory => "Is a directory (os error 21)"
  | nameTooLong => "File name too long (os error 36)"
  | nulInName => "file name contained an unexpected NUL byte"
  | notText => "stream did not contain valid UTF-8"

end FileFault

end SheetPost
