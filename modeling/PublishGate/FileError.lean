/-! # Faults of the file system -/

namespace PublishGate

inductive FileError where
  | notFound
  | notDirectory
  | isDirectory
  | alreadyExists
  | noSpace
  | nameTooLong
  | nulByte
  | notUtf8
  | other (text : String)
  deriving DecidableEq, Repr

def FileError.message : FileError → String
  | .notFound => "No such file or directory (os error 2)"
  | .notDirectory => "Not a directory (os error 20)"
  | .isDirectory => "Is a directory (os error 21)"
  | .alreadyExists => "File exists (os error 17)"
  | .noSpace => "No space left on device (os error 28)"
  | .nameTooLong => "File name too long (os error 36)"
  | .nulByte => "file name contained an unexpected NUL byte"
  | .notUtf8 => "stream did not contain valid UTF-8"
  | .other text => text

inductive AppendError where
  | opening (cause : FileError)
  | writing (cause : FileError)
  deriving DecidableEq, Repr

end PublishGate
