/-!
# Sets of characters

A `Charset` lists the code points of a set of characters as ranges, in increasing order, that
neither overlap nor touch.  Surrogates are no characters: the ranges before and after them
touch, and a range that spans them has no more members for it.
-/

namespace Compendium

/-- The code points from `first` to `last`, both included. -/
structure CodeRange where
  first : Nat
  last : Nat
deriving DecidableEq

namespace CodeRange

/-- The last code point of all. -/
def lastCode : Nat := 0x10ffff

/-- The code point of the next character. -/
def next (c : Nat) : Nat := if c = 0xd7ff then 0xe000 else c + 1

/-- The code point of the character before. -/
def previous (c : Nat) : Nat := if c = 0xe000 then 0xd7ff else c - 1

/-- The value of a hexadecimal digit. -/
def hexDigit? (c : Char) : Option Nat :=
  if '0' ≤ c ∧ c ≤ '9' then some (c.toNat - '0'.toNat)
  else if 'a' ≤ c ∧ c ≤ 'f' then some (c.toNat - 'a'.toNat + 10)
  else if 'A' ≤ c ∧ c ≤ 'F' then some (c.toNat - 'A'.toNat + 10)
  else none

/-- The number that hexadecimal digits write. -/
def readHex (digits : List Char) : Nat :=
  digits.foldl (fun n c => 16 * n + (hexDigit? c).getD 0) 0

/-- Read a range written `first-last`, or `first` alone for one code point. -/
def read (text : String) : CodeRange :=
  let chars := text.toList
  let first := readHex (chars.takeWhile (· ≠ '-'))
  match chars.dropWhile (· ≠ '-') with
  | [] => ⟨first, first⟩
  | _ :: digits => ⟨first, readHex digits⟩

/-- Read a table of ranges, each line holding several with blanks between them. -/
def readTable (lines : List String) : List CodeRange :=
  lines.flatMap fun line => (line.splitOn " ").map read

/-- Join the ranges that overlap or touch, in a list that is in order of first members. -/
def coalesce : List CodeRange → List CodeRange
  | [] => []
  | [r] => [r]
  | r :: s :: rest =>
    if s.first ≤ next r.last then coalesce (⟨r.first, max r.last s.last⟩ :: rest)
    else r :: coalesce (s :: rest)
termination_by ranges => ranges.length

/-- What ranges in increasing order leave out, from `start` on. -/
def gaps (start : Nat) : List CodeRange → List CodeRange
  | [] => if start ≤ lastCode then [⟨start, lastCode⟩] else []
  | r :: rest =>
    if start < r.first then ⟨start, previous r.first⟩ :: gaps (next r.last) rest
    else gaps (next r.last) rest

/-- Whether one of ranges in increasing order holds `c`. -/
def hold (c : Nat) : List CodeRange → Bool
  | [] => false
  | r :: rest => r.first ≤ c && (c ≤ r.last || hold c rest)

end CodeRange

/-- A set of characters. -/
structure Charset where
  ranges : List CodeRange
deriving DecidableEq

namespace Charset

/-- The set of the characters in any of the ranges, which may come in any order. -/
def ofRanges (ranges : List CodeRange) : Charset :=
  ⟨CodeRange.coalesce (ranges.mergeSort fun r s => r.first ≤ s.first)⟩

/-- The set of the characters with the given code points. -/
def ofCodes (codes : List Nat) : Charset := ofRanges (codes.map fun c => ⟨c, c⟩)

/-- The set without characters. -/
def empty : Charset := ⟨[]⟩

/-- The set of a single character. -/
def single (c : Char) : Charset := ⟨[⟨c.toNat, c.toNat⟩]⟩

/-- The set of the characters from `first` to `last`. -/
def range (first last : Char) : Charset := ⟨[⟨first.toNat, last.toNat⟩]⟩

/-- Whether the character with code point `c` is in the set. -/
def holdsCode (s : Charset) (c : Nat) : Bool := CodeRange.hold c s.ranges

/-- Whether the character is in the set. -/
def holds (s : Charset) (c : Char) : Bool := s.holdsCode c.toNat

/-- The characters of either set. -/
def union (s t : Charset) : Charset := ofRanges (s.ranges ++ t.ranges)

/-- The characters outside the set. -/
def complement (s : Charset) : Charset := ⟨CodeRange.gaps 0 s.ranges⟩

/-- The characters of both sets. -/
def inter (s t : Charset) : Charset := (s.complement.union t.complement).complement

/-- The characters of `s` that are not in `t`. -/
def diff (s t : Charset) : Charset := s.inter t.complement

/-- The characters of exactly one of the sets. -/
def symmetricDiff (s t : Charset) : Charset := (s.diff t).union (t.diff s)

/-- The set with all case variants of its characters, for the given classes of characters
that differ in case only. -/
def foldCase (classes : List (List Nat)) (s : Charset) : Charset :=
  let touched := classes.filter fun codes => codes.any s.holdsCode
  if touched.isEmpty then s else s.union (ofCodes touched.flatten)

/-- Whether all characters of the set are below `bound`. -/
def below (s : Charset) (bound : Nat) : Bool := s.ranges.all fun r => r.last < bound

/-- The only character of the set, if it has just one. -/
def single? (s : Charset) : Option Char :=
  match s.ranges with
  | [r] => if r.first = r.last then some (Char.ofNat r.first) else none
  | _ => none

end Charset

end Compendium
