/-!
# Faults of files

Why a file could not be read or a directory not be made, in the words of the operating system.
-/

namespace SchemaRelay

/-- Why the operating system refused to read a file or to make a directory. -/
inductive FileFault where
  | notFound
  | exists
  | notADirectory
  | isADirectory
  | nameTooLong
  | nulInName
  deriving DecidableEq, Repr

/-- The text of a fault. -/
def FileFault.message : FileFault → String
  | .notFound => "No such file or directory (os error 2)"
  | .exists => "File exists (os error 17)"
  | .notADirectory => "Not a directory (os error 20)"
  | .isADirectory => "Is a directory (os error 21)"
  | .nameTooLong => "File name too long (os error 36)"
  | .nulInName => "file name contained an unexpected NUL byte"

/-- The bytes of a file by its path, or why they cannot be had. -/
abbrev FileReader := String → Except FileFault ByteArray

/-- The text of bytes that are not UTF-8. -/
def notUtf8Message : String := "stream did not contain valid UTF-8"

end SchemaRelay
