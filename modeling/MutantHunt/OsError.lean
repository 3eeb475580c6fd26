/-!
# Failures of the operating system

The ways in which working with files and processes can fail, each with its number and its wording.
-/

namespace MutantHunt

/-- Why the operating system refused. -/
inductive OsError where
  | notPermitted
  | notFound
  | argumentsTooLong
  | notExecutable
  | permissionDenied
  | alreadyExists
  | notADirectory
  | isADirectory
  | invalidArgument
  | fileBusy
  | nameTooLong
  | directoryNotEmpty
  | tooManyLinks
  /-- A path holds a NUL character, so the system is not asked at all. -/
  | nulInPath
  /-- An argument of a process holds a NUL character, so the system is not asked at all. -/
  | nulInArgument
  /-- What is to be copied is no file, so it is not copied. -/
  | notAFile
  deriving DecidableEq, Repr

namespace OsError

/-- The number of the failure, where the system gave it. -/
def number? : OsError → Option Nat
  | notPermitted => some 1
  | notFound => some 2
  | argumentsTooLong => some 7
  | notExecutable => some 8
  | permissionDenied => some 13
  | alreadyExists => some 17
  | notADirectory => some 20
  | isADirectory => some 21
  | invalidArgument => some 22
  | fileBusy => some 26
  | nameTooLong => some 36
  | directoryNotEmpty => some 39
  | tooManyLinks => some 40
  | nulInPath => none
  | nulInArgument => none
  | notAFile => none

/-- What the failure is called. -/
def wording : OsError → String
  | notPermitted => "Operation not permitted"
  | notFound => "No such file or directory"
  | argumentsTooLong => "Argument list too long"
  | notExecutable => "Exec format error"
  | permissionDenied => "Permission denied"
  | alreadyExists => "File exists"
  | notADirectory => "Not a directory"
  | isADirectory => "Is a directory"
  | invalidArgument => "Invalid argument"
  | fileBusy => "Text file busy"
  | nameTooLong => "File name too long"
  | directoryNotEmpty => "Directory not empty"
  | tooManyLinks => "Too many levels of symbolic links"
  | nulInPath => "file name contained an unexpected NUL byte"
  | nulInArgument => "nul byte found in provided data"
  | notAFile => "the source path is neither a regular file nor a symlink to a regular file"

/-- The wording with the number. -/
def message (e : OsError) : String :=
  match e.number? with
  | some n => e.wording ++ " (os error " ++ n.repr ++ ")"
  | none => e.wording

end OsError

end MutantHunt
