import Compendium.Text

/-!
# Globs

A glob is a list of tokens.  `Glob.read` reads one: `?` and `*` stand for one character and
for any run of them, `[...]` for a class of characters, `{a,b}` for a choice, a backslash
makes the next character stand for itself, and `**` between slashes spans directories.

Globs are matched against bytes.  A character outside ASCII stands for the bytes that encode
it, so `?` takes one byte of such a character and a class lists bytes.
-/

namespace Compendium.Glob

/-- A token of a glob. -/
inductive Token where
  | literal (c : Char)
  /-- `?` -/
  | any
  /-- `*` -/
  | star
  /-- `**/` at the start: nothing, or directories. -/
  | depthFirst
  /-- `/**` at the end: whatever is inside. -/
  | depthLast
  /-- `/**/` in the middle: a slash, or directories between two slashes. -/
  | depthInner
  | charClass (negated : Bool) (ranges : List (Char × Char))
  | choice (branches : List (List Token))

/-- Why a text is no glob. -/
inductive Fault where
  | unclosedClass
  | invalidRange (first last : Char)
  | unopenedChoice
  | unclosedChoice
  | danglingEscape
deriving DecidableEq

/-- The wording of a fault. -/
def Fault.message : Fault → String
  | .unclosedClass => "unclosed character class; missing ']'"
  | .invalidRange first last => s!"invalid range; '{first}' > '{last}'"
  | .unopenedChoice =>
    "unopened alternate group; missing '\x7b' (maybe escape '\x7d' with '[\x7d]'?)"
  | .unclosedChoice =>
    "unclosed alternate group; missing '\x7d' (maybe escape '\x7b' with '[\x7b]'?)"
  | .danglingEscape => "dangling '\\'"

/-! ### Reading classes -/

/-- The part of a class that has been read: its ranges, the last one first, and whether a `-`
waits for the end of a range. -/
structure ClassState where
  ranges : List (Char × Char)
  first : Bool
  inRange : Bool

/-- Let the last range end at `c`. -/
def ClassState.close (s : ClassState) (c : Char) : Except Fault ClassState :=
  match s.ranges with
  | [] => .ok { s with inRange := false }
  | (low, _) :: rest =>
    if c < low then .error (.invalidRange low c)
    else .ok ⟨(low, c) :: rest, false, false⟩

/-- Add `c` as a member of its own. -/
def ClassState.add (s : ClassState) (c : Char) : ClassState :=
  ⟨(c, c) :: s.ranges, false, false⟩

/-- Read a class from behind its bracket and its sign of negation on: the ranges, and the text
behind the class. -/
def readClass (s : ClassState) : List Char → Except Fault (List (Char × Char) × List Char)
  | [] => .error .unclosedClass
  | c :: rest =>
    if c = ']' ∧ !s.first then
      .ok ((if s.inRange then ('-', '-') :: s.ranges else s.ranges).reverse, rest)
    else if c = '-' ∧ !s.first ∧ !s.inRange then
      readClass { s with inRange := true } rest
    else if s.inRange then
      match s.close c with
      | .ok s => readClass s rest
      | .error e => .error e
    else readClass (s.add c) rest

/-- What is left behind a class is shorter. -/
theorem length_of_readClass {s : ClassState} {cs : List Char}
    {ranges : List (Char × Char)} {rest : List Char}
    (h : readClass s cs = .ok (ranges, rest)) :
  rest.length < cs.length
  := by
  induction cs generalizing s with
  | nil => simp [readClass] at h
  | cons c cs ih =>
    rw [readClass] at h
    split at h
    · simp only [Except.ok.injEq, Prod.mk.injEq] at h
      simp [h.2]
    · split at h
      · exact Nat.lt_succ_of_lt (ih h)
      · split at h
        · split at h
          · exact Nat.lt_succ_of_lt (ih h)
          · simp at h
        · exact Nat.lt_succ_of_lt (ih h)

/-! ### Reading globs -/

/-- An open choice: the tokens before it and its finished branches, the last one first. -/
structure OpenChoice where
  before : List Token
  finished : List (List Token)

/-- What has been read: the tokens of the innermost branch, the last one first, and the
choices around it. -/
structure State where
  tokens : List Token
  around : List OpenChoice

/-- Put a token behind the ones read. -/
def State.push (s : State) (t : Token) : State := { s with tokens := t :: s.tokens }

/-- Put a token in place of the last one, which a run of directories stays. -/
def State.replaceLast (s : State) (t : Token) : State :=
  match s.tokens with
  | .depthFirst :: _ | .depthLast :: _ => s
  | _ :: tokens => { s with tokens := t :: tokens }
  | [] => s.push t

/-- Whether two stars behind this character, inside a choice or not, may span directories.
Inside a choice they may behind an escaped comma or brace as well as behind a slash. -/
def opensDepth (inChoice : Bool) (before : Option Char) : Bool :=
  before = some '/' || (inChoice && (before = some ',' || before = some '{'))

/-- What a run of two stars means, which depends on `before`, the character before it, on the
tokens before it, and on what follows.  The answer is the state after the stars, the character
last read, and the rest of the text. -/
def readDepth (s : State) (before : Option Char) (rest : List Char) :
    State × Char × List Char :=
  let plain := ((s.push .star).push .star, '*', rest)
  if s.tokens.isEmpty then
    match rest with
    | [] => (s.push .depthFirst, '*', [])
    | '/' :: rest => (s.push .depthFirst, '/', rest)
    | _ => plain
  else if !opensDepth (!s.around.isEmpty) before then plain
  else
    match rest with
    | [] => (s.replaceLast .depthLast, '*', [])
    | '/' :: rest => (s.replaceLast .depthInner, '/', rest)
    | c :: _ =>
      if (c = ',' ∨ c = '}') ∧ !s.around.isEmpty then (s.replaceLast .depthLast, '*', rest)
      else plain

/-- Two stars are followed by no more text than they had behind them. -/
theorem length_readDepth_le (s : State) (before : Option Char) (rest : List Char) :
  (readDepth s before rest).2.2.length ≤ rest.length
  := by
  unfold readDepth
  split
  · split <;> simp
  · split
    · simp
    · split
      · simp
      · simp
      · dsimp only
        split <;> simp

/-- Read a glob from inside, `before` being the character last read. -/
def readFrom (s : State) (before : Option Char) (text : List Char) :
    Except Fault (List Token) :=
  match text with
  | [] =>
    match s.around with
    | [] => .ok s.tokens.reverse
    | _ :: _ => .error .unclosedChoice
  | '?' :: rest => readFrom (s.push .any) (some '?') rest
  | '*' :: '*' :: rest =>
    let after := readDepth s before rest
    readFrom after.1 (some after.2.1) after.2.2
  | '*' :: rest => readFrom (s.push .star) (some '*') rest
  | '[' :: rest =>
    let negated := rest.head? = some '!' ∨ rest.head? = some '^'
    match _h : readClass ⟨[], true, false⟩ (if negated then rest.tail else rest) with
    | .error e => .error e
    | .ok (ranges, behind) => readFrom (s.push (.charClass negated ranges)) (some ']') behind
  | '{' :: rest => readFrom ⟨[], ⟨s.tokens, []⟩ :: s.around⟩ (some '{') rest
  | '}' :: rest =>
    match s.around with
    | [] => .error .unopenedChoice
    | choice :: around =>
      let branches := (s.tokens.reverse :: choice.finished).reverse
      readFrom ⟨.choice branches :: choice.before, around⟩ (some '}') rest
  | ',' :: rest =>
    match s.around with
    | [] => readFrom (s.push (.literal ',')) (some ',') rest
    | choice :: around =>
      let finished := s.tokens.reverse :: choice.finished
      readFrom ⟨[], { choice with finished } :: around⟩ (some ',') rest
  | '\\' :: rest =>
    match rest with
    | [] => .error .danglingEscape
    | c :: rest => readFrom (s.push (.literal c)) (some c) rest
  | c :: rest => readFrom (s.push (.literal c)) (some c) rest
termination_by text.length
decreasing_by
  all_goals simp only [List.length_cons]
  all_goals try omega
  · exact Nat.lt_succ_of_lt (Nat.lt_succ_of_le (length_readDepth_le s before rest))
  · have shorter := length_of_readClass _h
    split at shorter
    · simp only [List.length_tail] at shorter
      omega
    · omega

/-- Read a glob. -/
def read (text : List Char) : Except Fault (List Token) := readFrom ⟨[], []⟩ none text

/-! ### Matching -/

/-- A row says for each end of a text, from the whole text to the empty one, whether the rest
of a glob accepts it. -/
abbrev Row := List Bool

namespace Row

/-- Whether the whole text is accepted. -/
def first (k : Row) : Bool := k.headD false

/-- The row before a byte that satisfies `p`. -/
def byte (p : UInt8 → Bool) : List UInt8 → Row → Row
  | [], _ => [false]
  | b :: bs, k => (p b && first k.tail) :: byte p bs k.tail

/-- The row before any run of bytes that satisfy `p`. -/
def run (p : UInt8 → Bool) : List UInt8 → Row → Row
  | [], k => [first k]
  | b :: bs, k =>
    let behind := run p bs k.tail
    (first k || (p b && first behind)) :: behind

/-- The row before the given bytes. -/
def bytes (bs : List UInt8) (text : List UInt8) (k : Row) : Row :=
  bs.foldr (fun b k => byte (· == b) text k) k

/-- The row of what either row accepts. -/
def or (k l : Row) : Row := List.zipWith (· || ·) k l

/-- The row of a glob that ends: only the empty text is accepted. -/
def done : List UInt8 → Row
  | [] => [true]
  | _ :: bs => false :: done bs

/-- The row that accepts nothing. -/
def none : List UInt8 → Row
  | [] => [false]
  | _ :: bs => false :: none bs

end Row

/-- The ranges of bytes that a class of characters lists.  The bytes of a character stand for
themselves, and a range leads from the last byte of its first character to the first byte of
its last. -/
def byteRanges (ranges : List (Char × Char)) : List (UInt8 × UInt8) :=
  ranges.flatMap fun (low, high) =>
    let start := String.utf8EncodeChar low
    if low = high then start.map fun b => (b, b)
    else
      let stop := String.utf8EncodeChar high
      (start.dropLast.map fun b => (b, b))
        ++ [(start.getLast?.getD 0, stop.headD 0)]
        ++ (stop.tail.map fun b => (b, b))

/-- Whether a byte is of a class. -/
def classHolds (negated : Bool) (ranges : List (Char × Char)) (b : UInt8) : Bool :=
  ((byteRanges ranges).any fun (low, high) => low ≤ b && b ≤ high) != negated

/-- The slash that separates names. -/
def slash : UInt8 := 0x2f

mutual

/-- Whether the token stands for nothing at all: a choice of nothing but such branches. -/
def Token.isVoid : Token → Bool
  | .choice branches => allVoid branches
  | _ => false

/-- Whether all tokens stand for nothing. -/
def isVoid : List Token → Bool
  | [] => true
  | t :: ts => t.isVoid && isVoid ts

/-- Whether all branches stand for nothing. -/
def allVoid : List (List Token) → Bool
  | [] => true
  | ts :: rest => isVoid ts && allVoid rest

end

mutual

/-- The row before a token.  `wild` are the bytes that `?` and `*` take. -/
def Token.row (wild : UInt8 → Bool) (text : List UInt8) : Token → Row → Row
  | .literal c, k => Row.bytes (String.utf8EncodeChar c) text k
  | .any, k => Row.byte wild text k
  | .star, k => Row.run wild text k
  | .depthFirst, k =>
    let slashed := Row.byte (· == slash) text k
    k.or (slashed.or (Row.run (fun _ => true) text slashed))
  | .depthLast, k => Row.byte (· == slash) text (Row.run (fun _ => true) text k)
  | .depthInner, k =>
    let slashed := Row.byte (· == slash) text k
    slashed.or (Row.byte (· == slash) text (Row.run (fun _ => true) text slashed))
  | .charClass negated ranges, k => Row.byte (classHolds negated ranges) text k
  | .choice branches, k => if allVoid branches then k else branchRow wild text branches k

/-- The row before a list of tokens. -/
def tokenRow (wild : UInt8 → Bool) (text : List UInt8) : List Token → Row → Row
  | [], k => k
  | t :: ts, k => t.row wild text (tokenRow wild text ts k)

/-- The row before a choice of branches.  A branch that stands for nothing does not count. -/
def branchRow (wild : UInt8 → Bool) (text : List UInt8) : List (List Token) → Row → Row
  | [], _ => Row.none text
  | ts :: rest, k =>
    let others := branchRow wild text rest k
    if isVoid ts then others else (tokenRow wild text ts k).or others

end

/-- Whether a glob accepts a text.  The glob `**` alone accepts every text. -/
def accepts (wild : UInt8 → Bool) (tokens : List Token) (text : List UInt8) : Bool :=
  match tokens with
  | [.depthFirst] => true
  | tokens => (tokenRow wild text tokens (Row.done text)).first

end Compendium.Glob
