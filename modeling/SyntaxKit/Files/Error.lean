/-!
# Errors of a file system

Why an access to a file can fail, and the text of each reason: the system's own words with its
number for it, or the words of the reader that did not like what it read.  What is where it should
be can still be refused by the operating system, for lack of rights or of room.
-/

namespace SyntaxKit

/-- Why the operating system refuses what the entries of a file system would allow. -/
inductive Refusal where
  | notPermitted
  | inputOutput
  | permissionDenied
  | busy
  | tooManyOpen
  | textBusy
  | fileTooLarge
  | noSpace
  | readOnly
  | nameTooLong
  | quotaExceeded
deriving DecidableEq, Repr

namespace Refusal

/-- What the operating system calls a refusal. -/
def text : Refusal → String
  | .notPermitted => "Operation not permitted"
  | .inputOutput => "Input/output error"
  | .permissionDenied => "Permission denied"
  | .busy => "Device or resource busy"
  | .tooManyOpen => "Too many open files"
  | .textBusy => "Text file busy"
  | .fileTooLarge => "File too large"
  | .noSpace => "No space left on device"
  | .readOnly => "Read-only file system"
  | .nameTooLong => "File name too long"
  | .quotaExceeded => "Disk quota exceeded"

/-- The number that the operating system has for a refusal. -/
def number : Refusal → Nat
  | .notPermitted => 1
  | .inputOutput => 5
  | .permissionDenied => 13
  | .busy => 16
  | .tooManyOpen => 24
  | .textBusy => 26
  | .fileTooLarge => 27
  | .noSpace => 28
  | .readOnly => 30
  | .nameTooLong => 36
  | .quotaExceeded => 122

end Refusal

/-- Why an access to a file failed. -/
inductive FileError where
  | notFound
  | alreadyExists
  | notDirectory
  | isDirectory
  | tooManyLinks
  /-- A document whose bytes are not text. -/
  | invalidDocument
  /-- A text file whose bytes are not text. -/
  | invalidText
  /-- A copy of something that is not a file. -/
  | notRegular
  /-- An empty path that should be made absolute. -/
  | emptyPath
  /-- The operating system did not let it happen, or not to the end. -/
  | refused (r : Refusal)
deriving DecidableEq, Repr

namespace FileError

/-- The text of an error that the system numbers. -/
def numbered (text : String) (number : Nat) : String :=
  text ++ " (os error " ++ toString number ++ ")"

/-- The text of an error. -/
def message : FileError → String
  | .notFound => numbered "No such file or directory" 2
  | .alreadyExists => numbered "File exists" 17
  | .notDirectory => numbered "Not a directory" 20
  | .isDirectory => numbered "Is a directory" 21
  | .tooManyLinks => numbered "Too many levels of symbolic links" 40
  | .invalidDocument => "stream contained invalid UTF-8"
  | .invalidText => "stream did not contain valid UTF-8"
  | .notRegular => "the source path is neither a regular file nor a symlink to a regular file"
  | .emptyPath => "cannot make an empty path absolute"
  | .refused r => numbered r.text r.number

end FileError

end SyntaxKit
