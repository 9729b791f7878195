/-!
# Text

Operations on lists of characters that the rest of the library shares: blanks and trimming,
cutting at a separator and joining again, lines, and the bytes that encode a text.
-/

namespace Compendium.Text

/-- Whether `c` is white space. -/
def isBlank (c : Char) : Bool :=
  let n := c.toNat
  (9 ≤ n && n ≤ 13) || n == 0x20 || n == 0x85 || n == 0xa0 || n == 0x1680
    || (0x2000 ≤ n && n ≤ 0x200a) || n == 0x2028 || n == 0x2029 || n == 0x202f
    || n == 0x205f || n == 0x3000

/-- The text without the blanks at its start. -/
def trimStart (cs : List Char) : List Char := cs.dropWhile isBlank

/-- The text without the blanks at its end. -/
def trimEnd (cs : List Char) : List Char := (cs.reverse.dropWhile isBlank).reverse

/-- The text without the blanks at either end. -/
def trim (cs : List Char) : List Char := trimEnd (trimStart cs)

/-! ### Cutting and joining -/

/-- Cut a text at every `sep`.  There is one piece more than there are separators. -/
def pieces (sep : Char) : List Char → List (List Char)
  | [] => [[]]
  | c :: cs =>
    if c = sep then [] :: pieces sep cs
    else match pieces sep cs with
      | [] => [[c]]
      | piece :: rest => (c :: piece) :: rest

/-- Join pieces with a separator between each two. -/
def join (sep : List Char) : List (List Char) → List Char
  | [] => []
  | [piece] => piece
  | piece :: rest => piece ++ sep ++ join sep rest

/-- What follows `start`, when the text begins with it. -/
def after? : List Char → List Char → Option (List Char)
  | [], cs => some cs
  | _ :: _, [] => none
  | s :: start, c :: cs => if s = c then after? start cs else none

/-- The text with every occurrence of `old`, taken from the left, turned into `new`.  The
count `skip` is of characters that still belong to the last occurrence. -/
def replaceAll (old new : List Char) (skip : Nat) : List Char → List Char
  | [] => []
  | c :: cs =>
    match skip with
    | skip + 1 => replaceAll old new skip cs
    | 0 =>
      match after? old (c :: cs) with
      | some _ => new ++ replaceAll old new (old.length - 1) cs
      | none => c :: replaceAll old new 0 cs

/-! ### Lines -/

/-- The line without the carriage return it ends with, if it ends with one. -/
def dropReturn (line : List Char) : List Char :=
  match line.reverse with
  | '\r' :: rest => rest.reverse
  | _ => line

/-- The lines of a text.  A line feed ends a line, together with a carriage return right
before it; what follows the last line feed is a line unless it is empty. -/
def lines (cs : List Char) : List (List Char) :=
  match (pieces '\n' cs).reverse with
  | [] => []
  | last :: ended =>
    let closed := ended.reverse.map dropReturn
    if last = [] then closed else closed ++ [last]

/-- The lines of a string. -/
def linesOf (s : String) : List String := (lines s.toList).map String.ofList

/-! ### Bytes -/

/-- The bytes that encode a text. -/
def bytes (cs : List Char) : List UInt8 := cs.flatMap String.utf8EncodeChar

/-- The bytes that encode a string. -/
def bytesOf (s : String) : List UInt8 := bytes s.toList

/-- The string that the bytes encode, if they encode one. -/
def ofBytes? (b : List UInt8) : Option String := String.fromUTF8? ⟨b.toArray⟩

end Compendium.Text
