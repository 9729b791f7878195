import Compendium.Unicode.Property

/-!
# Quoted text

A text is quoted by putting it between double quotes and escaping what could not be read back
or seen: quotes, backslashes, control characters, marks that join the character before them,
and whatever does not print.
-/

namespace Compendium.Text.Quoted

/-- The characters that leave no visible mark: all separators and all that no letter, mark,
number, punctuation or symbol is. -/
def invisible : Charset :=
  Unicode.Category.union [.control, .format, .privateUse, .unassigned, .spaceSeparator,
    .lineSeparator, .paragraphSeparator]

/-- The marks that join the character before them. -/
def joining : Charset := Unicode.binaryCharset "graphemeextend"

/-- The digits of a number in hexadecimal. -/
def hexText (n : Nat) : List Char := Nat.toDigits 16 n

/-- The escape that names the code point of a character. -/
def codeEscape (c : Char) : List Char :=
  ['\\', 'u', '{'] ++ hexText c.toNat ++ ['}']

/-- Whether a character is written as it is. -/
def isPlain (c : Char) : Bool :=
  (0x20 ≤ c.toNat && c.toNat < 0x7f) || (!invisible.holds c && c.toNat ≠ 0x7f)

/-- The form of a character between quotes; `quotes` are the quotes to be escaped. -/
def escape (quotes : List Char) (c : Char) : List Char :=
  if c = '\x00' then ['\\', '0']
  else if c = '\t' then ['\\', 't']
  else if c = '\r' then ['\\', 'r']
  else if c = '\n' then ['\\', 'n']
  else if c = '\\' ∨ quotes.contains c then ['\\', c]
  else if isPlain c then [c]
  else codeEscape c

/-- The form of a character between quotes where joining marks are escaped too. -/
def escapeMarks (quotes : List Char) (c : Char) : List Char :=
  if 0x80 ≤ c.toNat ∧ joining.holds c then codeEscape c else escape quotes c

/-- A string between double quotes. -/
def quote (s : String) : String :=
  String.ofList (['"'] ++ s.toList.flatMap (escapeMarks ['"']) ++ ['"'])

/-- A path between double quotes, in which single quotes are escaped too. -/
def quotePath (s : String) : String :=
  String.ofList (['"'] ++ s.toList.flatMap (escapeMarks ['"', '\'']) ++ ['"'])

/-- Forms of values between brackets, as in a list. -/
def list (forms : List String) : String := "[" ++ String.intercalate ", " forms ++ "]"

end Compendium.Text.Quoted
