import Compendium.Charset

/-!
# Regular expressions by meaning

A `Term` says what a regular expression matches: flags have been applied and classes are sets of
characters.  The constructors below keep terms small, by joining nested sequences and choices
and by turning a choice of characters into a set.
-/

namespace Compendium.Regex

/-- A condition on the place between two characters.  Word boundaries go by a set of word
characters, which is that of ASCII when `ascii` holds. -/
inductive Look where
  | textStart
  | textEnd
  | lineStart
  | lineEnd
  /-- The start of a line that may end in a carriage return, a line feed or both. -/
  | lineStartAny
  | lineEndAny
  | boundary (ascii : Bool)
  | notBoundary (ascii : Bool)
  | wordStart (ascii : Bool)
  | wordEnd (ascii : Bool)
  | wordStartHalf (ascii : Bool)
  | wordEndHalf (ascii : Bool)
deriving DecidableEq

/-- What a regular expression matches. -/
inductive Term where
  | empty
  | literal (c : Char)
  | charset (s : Charset)
  | look (l : Look)
  | repetition (least : Nat) (most : Option Nat) (inner : Term)
  | capture (inner : Term)
  | sequence (items : List Term)
  | choice (branches : List Term)

namespace Term

mutual

/-- Whether the term can match the empty text only. -/
def isWidthless : Term → Bool
  | .empty => true
  | .literal _ => false
  | .charset _ => false
  | .look _ => true
  | .repetition _ most inner => most = some 0 || (most.isSome && inner.isWidthless)
  | .capture inner => inner.isWidthless
  | .sequence items => allWidthless items
  | .choice branches => allWidthless branches

/-- Whether all terms can match the empty text only. -/
def allWidthless : List Term → Bool
  | [] => true
  | t :: rest => t.isWidthless && allWidthless rest

end

mutual

/-- Whether the term certainly takes a character. -/
def isSolid : Term → Bool
  | .empty => false
  | .literal _ => true
  | .charset s => !s.ranges.isEmpty
  | .look _ => false
  | .repetition least _ inner => 0 < least && inner.isSolid
  | .capture inner => inner.isSolid
  | .sequence items => anySolid items
  | .choice branches => allSolid branches

/-- Whether one of the terms certainly takes a character. -/
def anySolid : List Term → Bool
  | [] => false
  | t :: rest => t.isSolid || anySolid rest

/-- Whether all terms certainly take a character. -/
def allSolid : List Term → Bool
  | [] => true
  | t :: rest => t.isSolid && allSolid rest

end

/-- The term for a set of characters. -/
def ofCharset (s : Charset) : Term :=
  match s.single? with
  | some c => .literal c
  | none => .charset s

/-- The term for a repetition. -/
def repeated (least : Nat) (most : Option Nat) (inner : Term) : Term :=
  let (least, most) :=
    if inner.isWidthless then (min least 1, some (min (most.getD 1) 1)) else (least, most)
  if most = some 0 then .empty
  else if least = 1 ∧ most = some 1 then inner
  else .repetition least most inner

/-- The items of a sequence that a term contributes. -/
def sequenceItems : Term → List Term
  | .empty => []
  | .sequence items => items
  | t => [t]

/-- The term for some terms one after the other. -/
def inSequence (items : List Term) : Term :=
  match items.flatMap sequenceItems with
  | [] => .empty
  | [t] => t
  | items => .sequence items

/-- The branches of a choice that a term contributes. -/
def choiceBranches : Term → List Term
  | .choice branches => branches
  | t => [t]

/-- The set of characters that a term stands for. -/
def charset? : Term → Option Charset
  | .literal c => some (Charset.single c)
  | .charset s => some s
  | _ => none

/-- The term for a choice between some terms. -/
def inChoice (branches : List Term) : Term :=
  match branches.flatMap choiceBranches with
  | [] => .charset Charset.empty
  | [t] => t
  | branches =>
    match branches.mapM charset? with
    | some sets => ofCharset (Charset.ofRanges (sets.flatMap Charset.ranges))
    | none => .choice branches

end Term

end Compendium.Regex
