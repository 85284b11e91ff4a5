/-!
# Errors of the operating system

Why an operation on files or programs failed: an error with a number of its own, or a cause that is
found before the operating system is asked.
-/

namespace RouteLens

/-- An error that the operating system reports. -/
inductive OsError
  | notPermitted
  | noEntry
  | accessDenied
  | alreadyExists
  | notDirectory
  | isDirectory
  | invalidArgument
  | brokenPipe
  | nameTooLong
  | tooManyLinks
  deriving DecidableEq, Repr

namespace OsError

/-- The number of an error. -/
def code : OsError → Nat
  | notPermitted => 1
  | noEntry => 2
  | accessDenied => 13
  | alreadyExists => 17
  | notDirectory => 20
  | isDirectory => 21
  | invalidArgument => 22
  | brokenPipe => 32
  | nameTooLong => 36
  | tooManyLinks => 40

/-- The description of an error. -/
def description : OsError → String
  | notPermitted => "Operation not permitted"
  | noEntry => "No such file or directory"
  | accessDenied => "Permission denied"
  | alreadyExists => "File exists"
  | notDirectory => "Not a directory"
  | isDirectory => "Is a directory"
  | invalidArgument => "Invalid argument"
  | brokenPipe => "Broken pipe"
  | nameTooLong => "File name too long"
  | tooManyLinks => "Too many levels of symbolic links"

/-- All errors. -/
def all : List OsError :=
  [notPermitted, noEntry, accessDenied, alreadyExists, notDirectory, isDirectory, invalidArgument,
    brokenPipe, nameTooLong, tooManyLinks]

/-- The error with a number. -/
def ofCode? (n : Nat) : Option OsError :=
  all.find? (·.code == n)

end OsError

/-- Why input or output failed. -/
inductive IoFailure
  | os (error : OsError)
  /-- A name or an argument holds a zero octet. -/
  | zeroOctet
  | other (description : String)
  deriving DecidableEq, Repr

namespace IoFailure

/-- The wording of a failure. -/
def message : IoFailure → String
  | os error => error.description ++ " (os error " ++ toString error.code ++ ")"
  | zeroOctet => "nul byte found in provided data"
  | other description => description

end IoFailure

end RouteLens
