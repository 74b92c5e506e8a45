set_option autoImplicit false

/-! Why a file cannot be opened or read. -/
namespace ArithLex

/-- The cause of a failed access, or a cause that the caller names. -/
inductive AccessError where
  | notFound
  | isDirectory
  | notDirectory
  | nameTooLong
  | nulInName
  | notText
  | named (kind message : String)
deriving DecidableEq

namespace AccessError

/-- The cause as one word for programs to compare. -/
def kind : AccessError → String
  | notFound => "NotFound"
  | isDirectory => "IsADirectory"
  | notDirectory => "NotADirectory"
  | nameTooLong => "InvalidFilename"
  | nulInName => "InvalidInput"
  | notText => "InvalidData"
  | named kind _ => kind

def message : AccessError → String
  | notFound => "No such file or directory (os error 2)"
  | isDirectory => "Is a directory (os error 21)"
  | notDirectory => "Not a directory (os error 20)"
  | nameTooLong => "File name too long (os error 36)"
  | nulInName => "file name contained an unexpected NUL byte"
  | notText => "stream did not contain valid UTF-8"
  | named _ message => message

end AccessError
end ArithLex
