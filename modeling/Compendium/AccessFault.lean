/-!
# Failed accesses

An `AccessFault` says why something on the disk could not be reached, read or written, or why
an outlet did not take what was written to it.
-/

namespace Compendium

/-- Why an access fails. -/
inductive AccessFault where
  | notFound
  | exists
  | notDirectory
  | isDirectory
  | nameTooLong
  /-- More links had to be followed than is allowed. -/
  | linkLoop
  /-- A path holds a null character. -/
  | nullInName
  /-- A file that should hold text holds bytes that encode none. -/
  | notText
  /-- An outlet takes no more bytes. -/
  | full
  | flushFailed
deriving DecidableEq

/-- The wording of a fault with the number that the system has for it. -/
def AccessFault.system (words : String) (code : Nat) : String :=
  words ++ " (os error " ++ toString code ++ ")"

/-- The wording of a fault. -/
def AccessFault.message : AccessFault → String
  | .notFound => system "No such file or directory" 2
  | .exists => system "File exists" 17
  | .notDirectory => system "Not a directory" 20
  | .isDirectory => system "Is a directory" 21
  | .nameTooLong => system "File name too long" 36
  | .linkLoop => system "Too many levels of symbolic links" 40
  | .nullInName => "file name contained an unexpected NUL byte"
  | .notText => "stream did not contain valid UTF-8"
  | .full => "disk full"
  | .flushFailed => "flush failed"

end Compendium
