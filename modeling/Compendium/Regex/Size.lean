import Compendium.Regex.Term

/-!
# The size of matching programs

A term is matched by a program of states over bytes, one program that reads forwards and one
that reads backwards, and a regular expression is refused when either is too large.  `Size`
counts what a program takes: 32 bytes a state, 8 more for every transition that a state with
several transitions has, and 4 for every way a branching state leads.
-/

namespace Compendium.Regex

/-! ### Characters as sequences of bytes -/

/-- A range of bytes. -/
structure ByteRange where
  first : Nat
  last : Nat
deriving DecidableEq

/-- The bytes that encode a code point in `count` bytes. -/
def encodeCode (count c : Nat) : List Nat :=
  match count with
  | 1 => [c]
  | 2 => [0xc0 + c / 0x40, 0x80 + c % 0x40]
  | 3 => [0xe0 + c / 0x1000, 0x80 + c / 0x40 % 0x40, 0x80 + c % 0x40]
  | _ => [0xf0 + c / 0x40000, 0x80 + c / 0x1000 % 0x40, 0x80 + c / 0x40 % 0x40,
    0x80 + c % 0x40]

/-- Cut a range of code points in two where a block of `2 ^ (6 * level)` code points starts or
ends inside it, if it covers such a block only in part. -/
def cutAtBlock (r : CodeRange) (level : Nat) : Option (CodeRange × CodeRange) :=
  let block := Nat.pow 0x40 level
  if r.first / block = r.last / block then none
  else if r.first % block ≠ 0 then
    let stop := (r.first / block + 1) * block
    some (⟨r.first, stop - 1⟩, ⟨stop, r.last⟩)
  else if r.last % block ≠ block - 1 then
    let start := r.last / block * block
    some (⟨r.first, start - 1⟩, ⟨start, r.last⟩)
  else none

/-- Cut a range of code points in two behind a limit that it spans. -/
def cutBehind (r : CodeRange) (limit resume : Nat) : Option (CodeRange × CodeRange) :=
  if r.first ≤ limit ∧ limit < r.last then some (⟨r.first, limit⟩, ⟨resume, r.last⟩) else none

/-- Cut a range of code points in two if its members have no common form in bytes. -/
def cutCodes (r : CodeRange) : Option (CodeRange × CodeRange) :=
  (cutBehind r 0xd7ff 0xe000).or <| (cutBehind r 0x7f 0x80).or <|
    (cutBehind r 0x7ff 0x800).or <| (cutBehind r 0xffff 0x10000).or <|
      if r.last ≤ 0x7f then none
      else (cutAtBlock r 1).or <| (cutAtBlock r 2).or (cutAtBlock r 3)

/-- The ranges of bytes for a range of code points that needs no cut. -/
def byteRanges (r : CodeRange) : List ByteRange :=
  let count := if r.last < 0x80 then 1 else if r.last < 0x800 then 2
    else if r.last < 0x10000 then 3 else 4
  List.zipWith ByteRange.mk (encodeCode count r.first) (encodeCode count r.last)

/-- The sequences of ranges of bytes for a range of code points, which is cut at most `fuel`
times on the way to each. -/
def byteSequences (fuel : Nat) (r : CodeRange) : List (List ByteRange) :=
  match fuel, cutCodes r with
  | fuel + 1, some (low, high) => byteSequences fuel low ++ byteSequences fuel high
  | _, _ => [byteRanges r]

/-- The sequences of ranges of bytes for a set of characters, in order. -/
def Charset.byteSequences (s : Charset) : List (List ByteRange) :=
  s.ranges.flatMap (Regex.byteSequences 16)

/-- A tree of sequences: those that share a beginning share a branch. -/
inductive ByteTree where
  | node (branches : List (ByteRange × ByteTree))

mutual

/-- Whether two trees are the same. -/
def ByteTree.same : ByteTree → ByteTree → Bool
  | .node bs, .node cs => sameBranches bs cs

/-- Whether two lists of branches are the same. -/
def sameBranches : List (ByteRange × ByteTree) → List (ByteRange × ByteTree) → Bool
  | [], [] => true
  | (r, s) :: bs, (q, t) :: cs => r = q && s.same t && sameBranches bs cs
  | _, _ => false

end

/-- The branches of a tree for sequences in order, none longer than `fuel`. -/
def treeBranches (fuel : Nat) (sequences : List (List ByteRange)) :
    List (ByteRange × ByteTree) :=
  match fuel with
  | 0 => []
  | fuel + 1 =>
    (sequences.splitBy fun s t => s.head? = t.head?).filterMap fun sharing =>
      match sharing with
      | (r :: _) :: _ => some (r, .node (treeBranches fuel (sharing.map List.tail)))
      | _ => none

mutual

/-- The different trees below a tree and the tree itself, besides those already known. -/
def ByteTree.collect (known : List (List (ByteRange × ByteTree))) :
    ByteTree → List (List (ByteRange × ByteTree))
  | .node [] => known
  | .node (b :: bs) =>
    let known := collectBranches known (b :: bs)
    if known.any (sameBranches (b :: bs)) then known else (b :: bs) :: known

/-- The different trees below some branches, besides those already known. -/
def collectBranches (known : List (List (ByteRange × ByteTree))) :
    List (ByteRange × ByteTree) → List (List (ByteRange × ByteTree))
  | [] => known
  | (_, t) :: rest => collectBranches (t.collect known) rest

end

/-- The number of different beginnings that sequences in order have. -/
def beginningCount : List ByteRange → List (List ByteRange) → Nat
  | _, [] => 0
  | before, s :: rest =>
    let shared := (List.zipWith (fun (q r : ByteRange) => decide (q = r)) before s).takeWhile id
    s.length - shared.length + beginningCount s rest

/-! ### Sizes -/

/-- The size of a piece of a program, and whether it ends in a branching state. -/
structure Size where
  bytes : Nat
  endsBranching : Bool

/-- The size of a state. -/
def stateSize : Nat := 32

/-- The size of a transition. -/
def transitionSize : Nat := 8

/-- The size of a way that a branching state leads. -/
def waySize : Nat := 4

/-- What it takes to lead on from the end of a piece. -/
def Size.link (s : Size) : Nat := if s.endsBranching then waySize else 0

/-- The size of a set of characters, read forwards or backwards. -/
def charsetSize (backwards : Bool) (s : Charset) : Nat :=
  if s.below 0x80 then 2 * stateSize + transitionSize * s.ranges.length
  else
    let sequences := Charset.byteSequences s
    if backwards then
      stateSize * (2 + beginningCount [] sequences) + waySize * sequences.length
    else
      let trees := (ByteTree.node (treeBranches 4 sequences)).collect []
      stateSize + trees.foldl (fun n t => n + stateSize + transitionSize * t.length) 0

/-- The size of a piece repeated exactly `count` times. -/
def Size.exactly (s : Size) (count : Nat) : Size :=
  if count = 0 then ⟨stateSize, false⟩
  else ⟨count * s.bytes + (count - 1) * s.link, s.endsBranching⟩

/-- The size of a piece repeated `least` times or more. -/
def Size.atLeast (s : Size) (solid : Bool) (least : Nat) : Size :=
  if least = 0 then
    if solid then ⟨stateSize + s.bytes + waySize + s.link, true⟩
    else ⟨3 * stateSize + s.bytes + 4 * waySize + s.link, false⟩
  else
    let before := if least = 1 then 0 else (s.exactly (least - 1)).bytes + s.link
    ⟨before + s.bytes + stateSize + waySize + s.link, true⟩

/-- The size of a piece repeated `least` to `most` times. -/
def Size.between (s : Size) (least most : Nat) : Size :=
  let before := s.exactly least
  let each := stateSize + s.bytes + 2 * waySize + s.link
  ⟨before.bytes + before.link + stateSize + (most - least) * each, false⟩

mutual

/-- The size of a term, read forwards or backwards. -/
def Term.size (backwards : Bool) : Term → Size
  | .empty => ⟨stateSize, false⟩
  | .literal c => ⟨c.utf8Size * stateSize, false⟩
  | .charset s => ⟨charsetSize backwards s, false⟩
  | .look _ => ⟨stateSize, false⟩
  | .repetition least most inner =>
    let s := inner.size backwards
    match least, most with
    | 0, some 1 => ⟨2 * stateSize + s.bytes + 2 * waySize + s.link, false⟩
    | least, none => s.atLeast inner.isSolid least
    | least, some most => if least = most then s.exactly least else s.between least most
  | .capture inner =>
    let s := inner.size backwards
    if backwards then s else ⟨2 * stateSize + s.bytes + s.link, false⟩
  | .sequence items => sequenceSize backwards items
  | .choice branches => ⟨2 * stateSize + choiceSize backwards branches, false⟩

/-- The size of terms one after the other. -/
def sequenceSize (backwards : Bool) : List Term → Size
  | [] => ⟨0, false⟩
  | [t] => t.size backwards
  | t :: rest =>
    let s := t.size backwards
    let r := sequenceSize backwards rest
    if backwards then ⟨r.bytes + r.link + s.bytes, s.endsBranching⟩
    else ⟨s.bytes + s.link + r.bytes, r.endsBranching⟩

/-- The size of the branches of a choice. -/
def choiceSize (backwards : Bool) : List Term → Nat
  | [] => 0
  | t :: rest =>
    let s := t.size backwards
    waySize + s.bytes + s.link + choiceSize backwards rest

end

/-- The size of what surrounds the program of a term. -/
def frameSize : Nat := 256

/-- The size of the larger of the two programs for a term. -/
def Term.programSize (t : Term) : Nat :=
  max (t.size false).bytes (t.size true).bytes + frameSize

/-- The size that a program may have. -/
def sizeLimit : Nat := 10485760

end Compendium.Regex
