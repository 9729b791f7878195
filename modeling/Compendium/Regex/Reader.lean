import Compendium.Charset
import Compendium.Text
import Compendium.Unicode.Property
import Compendium.Regex.Expr

/-!
# Reading regular expressions

`readExpr` reads a regular expression from left to right, keeping the open groups on a stack.
In verbose mode blanks between the parts do not count, and `#` starts a comment that runs to
the end of the line.  Of several faults the one found first is reported.
-/

namespace Compendium.Regex

/-! ### Blanks and comments -/

/-- What follows blanks and comments, starting inside a comment or not. -/
def dropBlanks (inComment : Bool) : List Char → List Char
  | [] => []
  | c :: cs =>
    if inComment then dropBlanks (c ≠ '\n') cs
    else if Text.isBlank c then dropBlanks false cs
    else if c = '#' then dropBlanks true cs
    else c :: cs

/-- What follows the blanks and comments that do not count in verbose mode. -/
def skip (verbose : Bool) (cs : List Char) : List Char :=
  if verbose then dropBlanks false cs else cs

/-- What follows the next character, and in verbose mode the blanks behind it. -/
def advance (verbose : Bool) (cs : List Char) : List Char := skip verbose cs.tail

/-- The first character that is not blank and does not start a comment. -/
def firstSolid (inComment : Bool) : List Char → Option Char
  | [] => none
  | c :: cs =>
    if Text.isBlank c then firstSolid inComment cs
    else if c = '#' ∧ !inComment then firstSolid true cs
    else some c

/-- The character that will be found behind the next one. -/
def peekBehind (verbose : Bool) (cs : List Char) : Option Char :=
  if verbose then (firstSolid false cs.tail).or cs.tail.head? else cs.tail.head?

/-! ### Numbers -/

/-- Digits from the start of a text, and what follows them. -/
def takeDigits (verbose : Bool) (fuel : Nat) (cs : List Char) : List Char × List Char :=
  match fuel, cs with
  | fuel + 1, c :: _ =>
    if c.isDigit then
      let (digits, rest) := takeDigits verbose fuel (advance verbose cs)
      (c :: digits, rest)
    else ([], cs)
  | _, _ => ([], cs)

/-- The number that decimal digits write. -/
def decimalValue (digits : List Char) : Nat :=
  digits.foldl (fun n c => 10 * n + (c.toNat - '0'.toNat)) 0

/-- Read a decimal number of 32 bits, with blanks around it, and what follows it. -/
def readDecimal (verbose : Bool) (cs : List Char) : Except Fault Nat × List Char :=
  let (digits, rest) := takeDigits verbose cs.length (cs.dropWhile Text.isBlank)
  let rest := match rest with
    | [] => []
    | c :: _ => if Text.isBlank c then skip verbose (rest.dropWhile Text.isBlank) else rest
  if digits.isEmpty then (.error .countEmpty, rest)
  else
    let n := decimalValue digits
    (if n < Nat.pow 2 32 then .ok n else .error .decimalInvalid, rest)

/-- The character with the given code point, written in hexadecimal. -/
def hexChar (digits : List Char) : Except Fault Char :=
  let n := CodeRange.readHex digits
  if n.isValidChar then .ok (Char.ofNat n) else .error .hexInvalid

/-- Read exactly `count` hexadecimal digits. -/
def readHexDigits (verbose : Bool) : Nat → List Char → Except Fault (List Char × List Char)
  | 0, cs => .ok ([], cs)
  | count + 1, cs =>
    match cs with
    | [] => .error .escapeUnfinished
    | c :: _ =>
      if (CodeRange.hexDigit? c).isNone then .error .hexInvalidDigit
      else do
        let (digits, rest) ← readHexDigits verbose count (advance verbose cs)
        return (c :: digits, rest)

/-- Read hexadecimal digits up to a closing brace. -/
def readHexBraced (verbose : Bool) (fuel : Nat) (cs : List Char) :
    Except Fault (List Char × List Char) :=
  match fuel, cs with
  | fuel + 1, c :: _ =>
    if c = '}' then .ok ([], advance verbose cs)
    else if (CodeRange.hexDigit? c).isNone then .error .hexInvalidDigit
    else do
      let (digits, rest) ← readHexBraced verbose fuel (advance verbose cs)
      return (c :: digits, rest)
  | _, _ => .error .escapeUnfinished

/-- Read the digits of a character written in hexadecimal: `count` of them, or any number
between braces. -/
def readHexLiteral (verbose : Bool) (count : Nat) (cs : List Char) :
    Except Fault (Literal × List Char) :=
  match skip verbose cs with
  | [] => .error .escapeUnfinished
  | '{' :: rest => do
    let (digits, rest) ← readHexBraced verbose (rest.length + 1) (skip verbose rest)
    if digits.isEmpty then .error .hexEmpty
    let c ← hexChar digits
    return (⟨c, false⟩, rest)
  | cs => do
    let (digits, rest) ← readHexDigits verbose count cs
    let c ← hexChar digits
    return (⟨c, count = 2⟩, rest)

/-! ### Escapes -/

/-- A part of an expression that is no group, class or repetition. -/
inductive Atom where
  | literal (l : Literal)
  | assertion (kind : Assertion)
  | property (query : PropertyQuery) (negated : Bool)
  | shorthand (kind : Shorthand) (negated : Bool)

/-- The characters that mean something outside or inside of classes. -/
def isMeta (c : Char) : Bool :=
  ['\\', '.', '+', '*', '?', '(', ')', '|', '[', ']', '{', '}', '^', '$', '#', '&', '-',
    '~'].contains c

/-- Whether a backslash before the character makes it stand for itself: all of ASCII but
letters, digits and the signs of word boundaries. -/
def isEscapable (c : Char) : Bool :=
  isMeta c || (c.toNat < 0x80 && !c.isAlphanum && c ≠ '<' && c ≠ '>')

/-- The text before the first occurrence of `mark`, and the text behind it. -/
def cutAt? (mark : List Char) : List Char → Option (List Char × List Char)
  | [] => none
  | c :: cs =>
    match Text.after? mark (c :: cs) with
    | some rest => some ([], rest)
    | none => (cutAt? mark cs).map fun (before, rest) => (c :: before, rest)

/-- What a property between braces asks for, and whether the sign in it negates. -/
def propertyQuery (text : List Char) : PropertyQuery × Bool :=
  match cutAt? ['!', '='] text with
  | some (name, value) => (.value (String.ofList name) (String.ofList value), true)
  | none =>
    match (cutAt? [':'] text).or (cutAt? ['='] text) with
    | some (name, value) => (.value (String.ofList name) (String.ofList value), false)
    | none => (.name (String.ofList text), false)

/-- Characters up to a closing brace. -/
def takeBraced (verbose : Bool) (fuel : Nat) (cs : List Char) :
    Except Fault (List Char × List Char) :=
  match fuel, cs with
  | fuel + 1, c :: _ =>
    if c = '}' then .ok ([], cs.tail)
    else do
      let (text, rest) ← takeBraced verbose fuel (advance verbose cs)
      return (c :: text, rest)
  | _, _ => .error .escapeUnfinished

/-- Read a property from behind its letter on. -/
def readProperty (verbose negated : Bool) (cs : List Char) :
    Except Fault (Atom × List Char) :=
  match skip verbose cs with
  | [] => .error .escapeUnfinished
  | '{' :: rest => do
    let (text, rest) ← takeBraced verbose (rest.length + 1) (skip verbose rest)
    let (query, flips) := propertyQuery text
    return (.property query (negated != flips), rest)
  | '\\' :: _ => .error .propertyInvalid
  | c :: rest => .ok (.property (.name (String.singleton c)) negated, skip verbose rest)

/-- The letters of the name of a word boundary. -/
def takeBoundaryName (verbose : Bool) (fuel : Nat) (cs : List Char) : List Char × List Char :=
  match fuel, cs with
  | fuel + 1, c :: _ =>
    if c.isAlpha ∨ c = '-' then
      let (name, rest) := takeBoundaryName verbose fuel (advance verbose cs)
      (c :: name, rest)
    else ([], cs)
  | _, _ => ([], cs)

/-- Read the name in braces that may follow a word boundary.  Braces that do not hold a name
are left to be read as a repetition. -/
def readBoundary (verbose : Bool) (cs : List Char) : Except Fault (Assertion × List Char) :=
  match cs with
  | '{' :: inner =>
    match skip verbose inner with
    | [] => .error .boundaryUnfinished
    | c :: more =>
      if c.isAlpha ∨ c = '-' then
        let (name, rest) := takeBoundaryName verbose (more.length + 1) (c :: more)
        match rest with
        | '}' :: rest =>
          match String.ofList name with
          | "start" => .ok (.wordStart, rest)
          | "end" => .ok (.wordEnd, rest)
          | "start-half" => .ok (.wordStartHalf, rest)
          | "end-half" => .ok (.wordEndHalf, rest)
          | _ => .error .boundaryUnrecognized
        | _ => .error .boundaryUnclosed
      else .ok (.wordBoundary, cs)
  | _ => .ok (.wordBoundary, cs)

/-- Read an escape from behind its backslash on. -/
def readEscape (verbose : Bool) : List Char → Except Fault (Atom × List Char)
  | [] => .error .escapeUnfinished
  | c :: rest =>
    let plain (c : Char) : Except Fault (Atom × List Char) := .ok (.literal ⟨c, false⟩, rest)
    let hex (count : Nat) : Except Fault (Atom × List Char) := do
      let (l, rest) ← readHexLiteral verbose count rest
      return (.literal l, rest)
    if c.isDigit then .error .backreference
    else if isEscapable c then plain c
    else match c with
    | 'x' => hex 2
    | 'u' => hex 4
    | 'U' => hex 8
    | 'p' => readProperty verbose false rest
    | 'P' => readProperty verbose true rest
    | 'd' => .ok (.shorthand .digit false, rest)
    | 's' => .ok (.shorthand .blank false, rest)
    | 'w' => .ok (.shorthand .word false, rest)
    | 'D' => .ok (.shorthand .digit true, rest)
    | 'S' => .ok (.shorthand .blank true, rest)
    | 'W' => .ok (.shorthand .word true, rest)
    | 'a' => plain '\x07'
    | 'f' => plain '\x0c'
    | 't' => plain '\t'
    | 'n' => plain '\n'
    | 'r' => plain '\r'
    | 'v' => plain '\x0b'
    | 'A' => .ok (.assertion .textStart, rest)
    | 'z' => .ok (.assertion .textEnd, rest)
    | 'b' => do
      let (kind, rest) ← readBoundary verbose rest
      return (.assertion kind, rest)
    | 'B' => .ok (.assertion .notWordBoundary, rest)
    | '<' => .ok (.assertion .wordStart, rest)
    | '>' => .ok (.assertion .wordEnd, rest)
    | _ => .error .escapeUnrecognized

/-! ### Classes between brackets -/

/-- What is open while a class is read: a class, with the items before it in the class around
it, or an operation with its left side. -/
inductive ClassFrame where
  | opened (before : List ClassExpr) (negated : Bool)
  | operation (op : SetOperation) (left : ClassExpr)

/-- The items of a class, the last one first, as one. -/
def unionOf (items : List ClassExpr) : ClassExpr :=
  match items with
  | [] => .empty
  | [item] => item
  | items => .union items.reverse

/-- Close the operation that is open innermost, if one is, with its right side. -/
def closeOperation (stack : List ClassFrame) (right : ClassExpr) :
    ClassExpr × List ClassFrame :=
  match stack with
  | .operation op left :: stack => (.operation op left right, stack)
  | stack => (right, stack)

/-- The names of classes that stand between colons. -/
def asciiClass? (name : List Char) : Option AsciiClass :=
  match String.ofList name with
  | "alnum" => some .alnum
  | "alpha" => some .alpha
  | "ascii" => some .ascii
  | "blank" => some .blank
  | "cntrl" => some .cntrl
  | "digit" => some .digit
  | "graph" => some .graph
  | "lower" => some .lower
  | "print" => some .print
  | "punct" => some .punct
  | "space" => some .space
  | "upper" => some .upper
  | "word" => some .word
  | "xdigit" => some .xdigit
  | _ => none

/-- Read a class named between colons, from behind its bracket on, if there is one. -/
def readAsciiClass? (cs : List Char) : Option (ClassExpr × List Char) :=
  match cs with
  | ':' :: rest =>
    let (negated, rest) := match rest with
      | '^' :: rest => (true, rest)
      | rest => (false, rest)
    match Text.after? [':', ']'] (rest.dropWhile (· ≠ ':')) with
    | some behind =>
      (asciiClass? (rest.takeWhile (· ≠ ':'))).map fun kind => (.ascii kind negated, behind)
    | none => none
  | _ => none

/-- The hyphens a class starts with, and what follows them. -/
def takeHyphens (verbose : Bool) (fuel : Nat) (cs : List Char) :
    Except Fault (List ClassExpr × List Char) :=
  match fuel, cs with
  | fuel + 1, '-' :: _ => do
    let (items, rest) ← takeHyphens verbose fuel (advance verbose cs)
    return (.literal ⟨'-', false⟩ :: items, rest)
  | _, [] => .error .classUnclosed
  | _, _ => .ok ([], cs)

/-- Read the start of a class, from its bracket on: whether it is negated, its first items, the
last one first, and the rest.  Hyphens at the start stand for themselves, and so does a
closing bracket that comes first. -/
def openClass (verbose : Bool) (cs : List Char) :
    Except Fault (Bool × List ClassExpr × List Char) := do
  let cs := advance verbose cs
  let (negated, cs) := match cs with
    | '^' :: _ => (true, advance verbose cs)
    | cs => (false, cs)
  let (hyphens, cs) ← takeHyphens verbose (cs.length + 1) cs
  match hyphens, cs with
  | [], ']' :: _ =>
    let rest := advance verbose cs
    if rest.isEmpty then .error .classUnclosed
    else return (negated, [.literal ⟨']', false⟩], rest)
  | hyphens, cs => return (negated, hyphens, cs)

/-- Read a character or an escape inside a class. -/
def readClassAtom (verbose : Bool) : List Char → Except Fault (Atom × List Char)
  | [] => .error .classUnclosed
  | '\\' :: rest => readEscape verbose rest
  | c :: rest => .ok (.literal ⟨c, false⟩, rest)

/-- The item of a class that an atom is. -/
def Atom.item : Atom → Except Fault ClassExpr
  | .literal l => .ok (.literal l)
  | .property query negated => .ok (.property query negated)
  | .shorthand kind negated => .ok (.shorthand kind negated)
  | .assertion _ => .error .classEscapeInvalid

/-- The end of a range that an atom is. -/
def Atom.bound : Atom → Except Fault Literal
  | .literal l => .ok l
  | _ => .error .classRangeLiteral

/-- Read a range or a single item of a class. -/
def readRange (verbose : Bool) (cs : List Char) : Except Fault (ClassExpr × List Char) := do
  let (first, rest) ← readClassAtom verbose cs
  let rest := skip verbose rest
  let behind := peekBehind verbose rest
  match rest with
  | [] => .error .classUnclosed
  | c :: _ =>
    if c ≠ '-' ∨ behind = some ']' ∨ behind = some '-' then return (← first.item, rest)
    else
      let rest := advance verbose rest
      if rest.isEmpty then .error .classUnclosed
      let (last, rest) ← readClassAtom verbose rest
      let low ← first.bound
      let high ← last.bound
      if high.char < low.char then .error .classRangeInvalid
      return (.range low high, rest)

/-- Read the inside of a class up to the bracket that closes it.  `items` are the items read so
far of the innermost class, the last one first. -/
def readClassItems (verbose : Bool) (fuel : Nat) (stack : List ClassFrame)
    (items : List ClassExpr) (cs : List Char) :
    Except Fault (Bool × ClassExpr × List Char) :=
  match fuel with
  | 0 => .error .classUnclosed
  | fuel + 1 =>
    let operate (op : SetOperation) (rest : List Char) :=
      let (left, stack) := closeOperation stack (unionOf items)
      readClassItems verbose fuel (.operation op left :: stack) [] rest
    match skip verbose cs with
    | [] => .error .classUnclosed
    | '[' :: rest =>
      match readAsciiClass? rest with
      | some (item, rest) => readClassItems verbose fuel stack (item :: items) rest
      | none => do
        let (negated, first, rest) ← openClass verbose ('[' :: rest)
        readClassItems verbose fuel (.opened items negated :: stack) first rest
    | ']' :: rest =>
      let (inner, stack) := closeOperation stack (unionOf items)
      match stack with
      | .opened _ negated :: [] => .ok (negated, inner, rest)
      | .opened before negated :: stack =>
        readClassItems verbose fuel stack (.bracketed negated inner :: before) rest
      | _ => .error .classUnclosed
    | '&' :: '&' :: rest => operate .intersection rest
    | '-' :: '-' :: rest => operate .difference rest
    | '~' :: '~' :: rest => operate .symmetricDifference rest
    | cs => do
      let (item, rest) ← readRange verbose cs
      readClassItems verbose fuel stack (item :: items) rest

/-- Read a class from its bracket on: whether it is negated, its inside, and the rest. -/
def readBracketed (verbose : Bool) (cs : List Char) :
    Except Fault (Bool × ClassExpr × List Char) := do
  let (negated, first, rest) ← openClass verbose cs
  readClassItems verbose (rest.length + 1) [.opened [] negated] first rest

/-! ### Groups and flags -/

/-- The flag that a letter stands for. -/
def flag? : Char → Option Flag
  | 'i' => some .ignoreCase
  | 'm' => some .multiLine
  | 's' => some .dotAll
  | 'U' => some .swapGreed
  | 'u' => some .unicode
  | 'R' => some .carriageReturn
  | 'x' => some .verbose
  | _ => none

/-- Read flags up to the colon or parenthesis behind them: the settings, whether any sign was
read, and the rest.  `minus` says that a sign of negation was read, `dangling` that it came
last. -/
def readFlags (settings : List Setting) (minus dangling : Bool) :
    List Char → Except Fault (List Setting × Bool × List Char)
  | [] => .error .flagUnfinished
  | c :: rest =>
    if c = ':' ∨ c = ')' then
      if dangling then .error .flagDanglingNegation
      else .ok (settings.reverse, minus || !settings.isEmpty, c :: rest)
    else if c = '-' then
      if minus then .error .flagRepeatedNegation else readFlags settings true true rest
    else match flag? c with
    | none => .error .flagUnrecognized
    | some flag =>
      if settings.any (·.flag = flag) then .error .flagDuplicate
      else readFlags (⟨flag, !minus⟩ :: settings) minus false rest

/-- Whether the settings switch verbose mode, and how. -/
def verboseSetting (settings : List Setting) : Option Bool :=
  (settings.find? (·.flag = .verbose)).map (·.on)

/-- Whether a name of a group may hold the character, first or later. -/
def isNameChar (c : Char) (first : Bool) : Bool :=
  c = '_' || if first then Unicode.alphabetic.holds c
    else c = '.' || c = '[' || c = ']' || Unicode.alphanumeric.holds c

/-- Read the name of a group up to the bracket behind it. -/
def readName (first : Bool) : List Char → Except Fault (List Char × List Char)
  | [] => .error .groupNameUnfinished
  | '>' :: rest => .ok ([], rest)
  | c :: rest =>
    if !isNameChar c first then .error .groupNameInvalid
    else do
      let (name, rest) ← readName false rest
      return (c :: name, rest)

/-- What the inside of an opening parenthesis says. -/
inductive Opening where
  | capture
  | named (name : List Char)
  | settings (list : List Setting)
  | group (list : List Setting)

/-- Read the start of a group from behind its parenthesis on. -/
def readOpening (cs : List Char) : Except Fault (Opening × List Char) :=
  let starts (text : String) : Option (List Char) := Text.after? text.toList cs
  if ["?=", "?!", "?<=", "?<!"].any fun text => (starts text).isSome then .error .lookAround
  else match (starts "?P<").or (starts "?<") with
  | some rest => do
    let (name, rest) ← readName true rest
    if name.isEmpty then .error .groupNameEmpty
    return (.named name, rest)
  | none =>
    match starts "?" with
    | some [] => .error .groupUnclosed
    | some rest => do
      let (settings, any, rest) ← readFlags [] false false rest
      match rest with
      | ')' :: rest =>
        if any then return (.settings settings, rest) else .error .repetitionMissing
      | rest => return (.group settings, rest.tail)
    | none => .ok (.capture, cs)

/-! ### Expressions -/

/-- What is open while an expression is read: a group, with the items before it and the verbose
mode to return to, or an alternation with its finished branches, the last one first. -/
inductive Frame where
  | group (before : List Expr) (settings : List Setting) (captures verbose : Bool)
  | branches (finished : List Expr)

/-- What has been read: the items of the innermost branch, the last one first, what is open
around it, and the names of groups. -/
structure Reading where
  verbose : Bool
  items : List Expr
  stack : List Frame
  names : List (List Char)

/-- Items, the last one first, as one expression. -/
def concatOf (items : List Expr) : Expr :=
  match items with
  | [] => .empty
  | [e] => e
  | items => .concat items.reverse

/-- Branches, the last one first, as one expression. -/
def alternationOf (branches : List Expr) : Expr :=
  match branches with
  | [] => .empty
  | [e] => e
  | branches => .alternation branches.reverse

namespace Reading

/-- Put an expression behind the items read. -/
def push (r : Reading) (e : Expr) : Reading := { r with items := e :: r.items }

/-- Start another branch. -/
def branch (r : Reading) : Reading :=
  match r.stack with
  | .branches finished :: stack =>
    { r with items := [], stack := .branches (concatOf r.items :: finished) :: stack }
  | stack => { r with items := [], stack := .branches [concatOf r.items] :: stack }

/-- Open a group. -/
def enter (r : Reading) (settings : List Setting) (captures : Bool) : Reading :=
  { r with
    verbose := (verboseSetting settings).getD r.verbose
    items := []
    stack := .group r.items settings captures r.verbose :: r.stack }

/-- The innermost branches as one expression, and what is open around them. -/
def close (r : Reading) : Expr × List Frame :=
  match r.stack with
  | .branches finished :: stack => (alternationOf (concatOf r.items :: finished), stack)
  | stack => (concatOf r.items, stack)

/-- Close a group. -/
def leave (r : Reading) : Except Fault Reading :=
  match r.close with
  | (inner, .group before settings captures verbose :: stack) =>
    .ok { r with verbose, items := .group settings captures inner :: before, stack }
  | _ => .error .groupUnopened

/-- The expression, when the text ends. -/
def finish (r : Reading) : Except Fault Expr :=
  match r.close with
  | (e, []) => .ok e
  | _ => .error .groupUnclosed

/-- Let the last item be repeated. -/
def repeated (r : Reading) (least : Nat) (most : Option Nat) (greedy : Bool) : Reading :=
  match r.items with
  | [] => r
  | e :: items => { r with items := .repetition least most greedy e :: items }

/-- Whether there is no item to repeat. -/
def lacksItem (r : Reading) : Bool :=
  match r.items with
  | [] | .empty :: _ | .flags _ :: _ => true
  | _ => false

/-- Read a counted repetition, from its brace on. -/
def readCount (r : Reading) (cs : List Char) : Except Fault (Reading × List Char) := do
  if r.lacksItem then .error .repetitionMissing
  let cs := advance r.verbose cs
  if cs.isEmpty then .error .countUnclosed
  let (low, cs) := readDecimal r.verbose cs
  let (least, most, cs) ← (match cs with
    | [] => .error .countUnclosed
    | ',' :: _ =>
      match advance r.verbose cs with
      | [] => .error .countUnclosed
      | '}' :: rest => do return (← low, none, '}' :: rest)
      | cs => do
        let least ← low
        let (high, cs) := readDecimal r.verbose cs
        return (least, some (← high), cs)
    | cs => do
      let count ← low
      return (count, some count, cs) : Except Fault (Nat × Option Nat × List Char))
  match cs with
  | '}' :: _ =>
    let cs := advance r.verbose cs
    let (greedy, cs) := match cs with
      | '?' :: rest => (false, rest)
      | cs => (true, cs)
    if most.any (· < least) then .error .countInvalid
    return (r.repeated least most greedy, cs)
  | _ => .error .countUnclosed

/-- Read `?`, `*` or `+`, which repeats `least` to `most` times. -/
def readMark (r : Reading) (least : Nat) (most : Option Nat) (rest : List Char) :
    Except Fault (Reading × List Char) :=
  if r.lacksItem then .error .repetitionMissing
  else match rest with
  | '?' :: rest => .ok (r.repeated least most false, rest)
  | rest => .ok (r.repeated least most true, rest)

/-- Read the start of a group, from its parenthesis on. -/
def readGroup (r : Reading) (rest : List Char) : Except Fault (Reading × List Char) := do
  let (opening, rest) ← readOpening (skip r.verbose rest)
  match opening with
  | .capture => return (r.enter [] true, rest)
  | .group settings => return (r.enter settings false, rest)
  | .named name =>
    if r.names.contains name then .error .groupNameDuplicate
    return ({ r with names := name :: r.names }.enter [] true, rest)
  | .settings settings =>
    let verbose := (verboseSetting settings).getD r.verbose
    return ({ r with verbose }.push (.flags settings), rest)

/-- Read one item from a text that does not start with a blank to be skipped. -/
def readItem (r : Reading) : List Char → Except Fault (Reading × List Char)
  | [] => .ok (r, [])
  | '(' :: rest => r.readGroup rest
  | ')' :: rest => do return (← r.leave, rest)
  | '|' :: rest => .ok (r.branch, rest)
  | '[' :: rest => do
    let (negated, inner, rest) ← readBracketed r.verbose ('[' :: rest)
    return (r.push (.bracketed negated inner), rest)
  | '?' :: rest => r.readMark 0 (some 1) rest
  | '*' :: rest => r.readMark 0 none rest
  | '+' :: rest => r.readMark 1 none rest
  | '{' :: rest => r.readCount ('{' :: rest)
  | '.' :: rest => .ok (r.push .dot, rest)
  | '^' :: rest => .ok (r.push (.assertion .lineStart), rest)
  | '$' :: rest => .ok (r.push (.assertion .lineEnd), rest)
  | '\\' :: rest => do
    let (atom, rest) ← readEscape r.verbose rest
    let e := match atom with
      | .literal l => .literal l
      | .assertion kind => .assertion kind
      | .property query negated => .property query negated
      | .shorthand kind negated => .shorthand kind negated
    return (r.push e, rest)
  | c :: rest => .ok (r.push (.literal ⟨c, false⟩), rest)

/-- Read items to the end of the text. -/
def readItems (fuel : Nat) (r : Reading) (cs : List Char) : Except Fault Expr :=
  match skip r.verbose cs, fuel with
  | [], _ => r.finish
  | _ :: _, 0 => .error .groupUnclosed
  | c :: cs, fuel + 1 => do
    let (r, rest) ← r.readItem (c :: cs)
    readItems fuel r rest

end Reading

/-- The depth to which the parts of an expression may nest. -/
def nestLimit : Nat := 250

/-- Read a regular expression. -/
def readExpr (cs : List Char) : Except Fault Expr := do
  let e ← Reading.readItems (cs.length + 1) ⟨false, [], [], []⟩ cs
  if e.depth > nestLimit then .error (.nestedTooDeep nestLimit)
  return e

end Compendium.Regex
