/-! Errors of the operating system that the program reports, and the one error of reading a file
    as text. An operating system error is shown as its description followed by its number,
    `Connection refused (os error 111)`; a file that is not UTF-8 text has a description only. -/

namespace LiveMigration

/-- An error reported by the operating system, or met reading a file as text. --/
inductive OsError where
  | noSuchFile
  | ioFailure
  | tooManyOpenFiles
  | connectionRefused
  | noSpace
  | isDirectory
  | notADirectory
  | nameTooLong
  | noDevice
  | tooManyLinks
  /-- The bytes read are not UTF-8 text. --/
  | notText
deriving DecidableEq, Repr

namespace OsError

/-- The error number, for an error of the operating system. --/
def code? : OsError → Option Nat
  | .noSuchFile => some 2 | .ioFailure => some 5 | .tooManyOpenFiles => some 24
  | .connectionRefused => some 111 | .noSpace => some 28 | .isDirectory => some 21
  | .notADirectory => some 20 | .nameTooLong => some 36 | .noDevice => some 6
  | .tooManyLinks => some 40 | .notText => none

/-- The description of the error. --/
def description : OsError → String
  | .noSuchFile => "No such file or directory"
  | .ioFailure => "Input/output error"
  | .tooManyOpenFiles => "Too many open files"
  | .connectionRefused => "Connection refused"
  | .noSpace => "No space left on device"
  | .isDirectory => "Is a directory"
  | .notADirectory => "Not a directory"
  | .nameTooLong => "File name too long"
  | .noDevice => "No such device or address"
  | .tooManyLinks => "Too many levels of symbolic links"
  | .notText => "stream did not contain valid UTF-8"

/-- `description (os error N)`, or the description alone when there is no number. --/
def message (e : OsError) : String :=
  match e.code? with
  | some n => e.description ++ " (os error " ++ toString n ++ ")"
  | none => e.description

end OsError

end LiveMigration
