import Compendium.Text

/-!
# Contents of files

The bytes of a file are text if they encode one without null characters.  All other files are
binary, and only their size is told.
-/

namespace Compendium

/-- The content of a file. -/
inductive Content where
  | text (content : String)
  | binary (size : Nat)
deriving DecidableEq

namespace Content

/-- The content that the bytes of a file stand for. -/
def ofBytes (bytes : List UInt8) : Content :=
  if bytes.contains 0 then .binary bytes.length
  else match Text.ofBytes? bytes with
  | some content => .text content
  | none => .binary bytes.length

/-- Whether bytes stand for text. -/
def isText (bytes : List UInt8) : Bool :=
  match ofBytes bytes with
  | .text _ => true
  | .binary _ => false

end Content

end Compendium
