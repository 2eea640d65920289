import SkipChecks.Path

/-!
# Faults

What the file system says when it refuses something.
-/

namespace SkipChecks

/-- Why a file system operation is refused. -/
inductive Fault
  | notFound
  | denied
  | busy
  | fileExists
  | notDirectory
  | isDirectory
  | nameTooLong
  | argumentsTooLong
  | invalid
  /-- A path holds the character that ends texts for the system. -/
  | endInPath
  /-- What is handed to a program holds the character that ends texts for the system. -/
  | endInArgument
  /-- The bytes of a file are not the UTF-8 form of a text. -/
  | notText
  /-- Every name that was drawn for a temporary file is taken. -/
  | noFreeName
  /-- A fault that is told with the path where it came up. -/
  | atPath (path : Path) (fault : Fault)
  /-- Anything else, in the words of the system. -/
  | other (words : Text)
  deriving DecidableEq, Repr

namespace Fault

/-- The words of the system, and its number for the fault where there is one. -/
def words : Fault → Text × Option Nat
  | notFound => ("No such file or directory".toList, some 2)
  | denied => ("Permission denied".toList, some 13)
  | busy => ("Device or resource busy".toList, some 16)
  | fileExists => ("File exists".toList, some 17)
  | notDirectory => ("Not a directory".toList, some 20)
  | isDirectory => ("Is a directory".toList, some 21)
  | nameTooLong => ("File name too long".toList, some 36)
  | argumentsTooLong => ("Argument list too long".toList, some 7)
  | invalid => ("Invalid argument".toList, some 22)
  | endInPath => ("file name contained an unexpected NUL byte".toList, none)
  | endInArgument => ("nul byte found in provided data".toList, none)
  | notText => ("stream did not contain valid UTF-8".toList, none)
  | noFreeName => ("too many temporary files exist".toList, none)
  | other words => (words, none)
  | atPath _ fault => fault.words

/-- A character as it stands between quotes. -/
def quotedChar : Char → Text
  | '"' => "\\\"".toList
  | '\\' => "\\\\".toList
  | '\t' => "\\t".toList
  | '\n' => "\\n".toList
  | '\r' => "\\r".toList
  | c => [c]

def message : Fault → Text
  | atPath path fault =>
    fault.message ++ " at path ".toList ++ '"' :: path.text.flatMap quotedChar ++ ['"']
  | fault =>
    match fault.words with
    | (words, some number) => words ++ " (os error ".toList ++ Text.ofNat number ++ [')']
    | (words, none) => words

end Fault

end SkipChecks
