import Compendium.Unicode.Property
import Compendium.Unicode.CaseFold
import Compendium.Regex.Expr
import Compendium.Regex.Term

/-!
# The meaning of written regular expressions

`Expr.meaning` applies flags and looks classes up.  A flag holds from where it is set to the
end of the group around it, into later branches of an alternation too.  Where Unicode is off,
classes are sets of bytes, and one that holds a byte outside ASCII is refused, since it could
match part of a character.
-/

namespace Compendium.Regex

/-- The flags that hold somewhere in an expression. -/
structure Mode where
  ignoreCase : Bool
  multiLine : Bool
  dotAll : Bool
  unicode : Bool
  carriageReturn : Bool
deriving DecidableEq

namespace Mode

/-- The flags that hold at first. -/
def initial : Mode := ⟨false, false, false, true, false⟩

/-- The flags after a setting. -/
def set (m : Mode) (s : Setting) : Mode :=
  match s.flag with
  | .ignoreCase => { m with ignoreCase := s.on }
  | .multiLine => { m with multiLine := s.on }
  | .dotAll => { m with dotAll := s.on }
  | .unicode => { m with unicode := s.on }
  | .carriageReturn => { m with carriageReturn := s.on }
  | .swapGreed | .verbose => m

/-- The flags after some settings. -/
def setAll (m : Mode) (settings : List Setting) : Mode := settings.foldl Mode.set m

/-! ### Sets of characters -/

/-- The case classes of ASCII. -/
def asciiCaseClasses : List (List Nat) :=
  (List.range 26).map fun i => ['A'.toNat + i, 'a'.toNat + i]

/-- The bytes that are not in a set of bytes. -/
def otherBytes (s : Charset) : Charset := (Charset.range '\x00' '\xff').diff s

/-- Finish a class: add case variants where case is ignored, then negate. -/
def finishClass (m : Mode) (negated : Bool) (s : Charset) : Except Fault Charset :=
  let classes := if m.unicode then Unicode.caseClasses else asciiCaseClasses
  let s := if m.ignoreCase then s.foldCase classes else s
  if m.unicode then .ok (if negated then s.complement else s)
  else
    let s := if negated then otherBytes s else s
    if s.below 0x80 then .ok s else .error .invalidUtf8

/-- The characters of a class named between colons. -/
def asciiCharset : AsciiClass → Charset
  | .alnum => Charset.ofRanges (CodeRange.readTable ["30-39 41-5a 61-7a"])
  | .alpha => Charset.ofRanges (CodeRange.readTable ["41-5a 61-7a"])
  | .ascii => Charset.ofRanges (CodeRange.readTable ["0-7f"])
  | .blank => Charset.ofRanges (CodeRange.readTable ["9 20"])
  | .cntrl => Charset.ofRanges (CodeRange.readTable ["0-1f 7f"])
  | .digit => Charset.ofRanges (CodeRange.readTable ["30-39"])
  | .graph => Charset.ofRanges (CodeRange.readTable ["21-7e"])
  | .lower => Charset.ofRanges (CodeRange.readTable ["61-7a"])
  | .print => Charset.ofRanges (CodeRange.readTable ["20-7e"])
  | .punct => Charset.ofRanges (CodeRange.readTable ["21-2f 3a-40 5b-60 7b-7e"])
  | .space => Charset.ofRanges (CodeRange.readTable ["9-d 20"])
  | .upper => Charset.ofRanges (CodeRange.readTable ["41-5a"])
  | .word => Charset.ofRanges (CodeRange.readTable ["30-39 41-5a 5f 61-7a"])
  | .xdigit => Charset.ofRanges (CodeRange.readTable ["30-39 41-46 61-66"])

/-- The characters of a class with an escape of its own. -/
def shorthandCharset (m : Mode) (kind : Shorthand) (negated : Bool) : Except Fault Charset :=
  if m.unicode then
    let s := match kind with
      | .digit => Unicode.digits
      | .blank => Unicode.blanks
      | .word => Unicode.wordCharacters
    .ok (if negated then s.complement else s)
  else if negated then .error .invalidUtf8
  else .ok <| match kind with
    | .digit => asciiCharset .digit
    | .blank => asciiCharset .space
    | .word => asciiCharset .word

/-- The characters of a property. -/
def propertyCharset (m : Mode) (query : PropertyQuery) (negated : Bool) :
    Except Fault Charset :=
  if !m.unicode then .error .unicodeNotAllowed
  else
    let found := match query with
      | .name text => Unicode.lookupName text
      | .value property text => Unicode.lookupValue property text
    match found with
    | .ok s => m.finishClass negated s
    | .error .unknownProperty => .error .propertyNotFound
    | .error .unknownValue => .error .propertyValueNotFound

/-- Refuse a character that names a byte outside ASCII. -/
def checkByte (m : Mode) (l : Literal) : Except Fault Unit :=
  if !m.unicode ∧ l.asByte ∧ 0x80 ≤ l.char.toNat then .error .invalidUtf8 else .ok ()

/-- The character that stands in a class. -/
def classChar (m : Mode) (l : Literal) : Except Fault Char := do
  m.checkByte l
  if !m.unicode ∧ 0x80 ≤ l.char.toNat then .error .unicodeNotAllowed
  return l.char

/-- The set that an operation makes of two sets. -/
def operate (op : SetOperation) (left right : Charset) : Charset :=
  match op with
  | .intersection => left.inter right
  | .difference => left.diff right
  | .symmetricDifference => left.symmetricDiff right

/-- A set with its case variants, where case is ignored. -/
def folded (m : Mode) (s : Charset) : Charset :=
  if m.ignoreCase then s.foldCase (if m.unicode then Unicode.caseClasses else asciiCaseClasses)
  else s

end Mode

mutual

/-- The characters of what stands in a class. -/
def ClassExpr.charset (m : Mode) : ClassExpr → Except Fault Charset
  | .empty => .ok Charset.empty
  | .literal l => do return Charset.single (← m.classChar l)
  | .range first last => do
    let low ← m.classChar first
    let high ← m.classChar last
    return Charset.range low high
  | .ascii kind negated => m.finishClass negated (Mode.asciiCharset kind)
  | .property query negated => m.propertyCharset query negated
  | .shorthand kind negated => m.shorthandCharset kind negated
  | .bracketed negated inner => do m.finishClass negated (← inner.charset m)
  | .union items => do return Charset.ofRanges (← classRanges m items)
  | .operation op left right => do
    let left ← left.charset m
    let right ← right.charset m
    return Mode.operate op (m.folded left) (m.folded right)

/-- The ranges of characters of the items of a class. -/
def classRanges (m : Mode) : List ClassExpr → Except Fault (List CodeRange)
  | [] => .ok []
  | item :: rest => do
    let s ← item.charset m
    return s.ranges ++ (← classRanges m rest)

end

/-- The condition that an assertion stands for. -/
def Mode.look (m : Mode) : Assertion → Look
  | .lineStart =>
    if !m.multiLine then .textStart else if m.carriageReturn then .lineStartAny else .lineStart
  | .lineEnd =>
    if !m.multiLine then .textEnd else if m.carriageReturn then .lineEndAny else .lineEnd
  | .textStart => .textStart
  | .textEnd => .textEnd
  | .wordBoundary => .boundary (!m.unicode)
  | .notWordBoundary => .notBoundary (!m.unicode)
  | .wordStart => .wordStart (!m.unicode)
  | .wordEnd => .wordEnd (!m.unicode)
  | .wordStartHalf => .wordStartHalf (!m.unicode)
  | .wordEndHalf => .wordEndHalf (!m.unicode)

/-- The term for a character. -/
def Mode.literalTerm (m : Mode) (l : Literal) : Except Fault Term := do
  m.checkByte l
  return Term.ofCharset (m.folded (Charset.single l.char))

/-- The term for a dot. -/
def Mode.dotTerm (m : Mode) : Except Fault Term :=
  if !m.unicode then .error .invalidUtf8
  else if m.dotAll then .ok (.charset Charset.empty.complement)
  else if m.carriageReturn then .ok (.charset (Charset.ofCodes [0x0a, 0x0d]).complement)
  else .ok (.charset (Charset.ofCodes [0x0a]).complement)

mutual

/-- What an expression matches, and the flags that hold behind it. -/
def Expr.meaning (m : Mode) : Expr → Except Fault (Term × Mode)
  | .empty => .ok (.empty, m)
  | .flags settings => .ok (.empty, m.setAll settings)
  | .literal l => do return (← m.literalTerm l, m)
  | .dot => do return (← m.dotTerm, m)
  | .assertion kind => .ok (.look (m.look kind), m)
  | .property query negated => do
    return (Term.ofCharset (← m.propertyCharset query negated), m)
  | .shorthand kind negated => do
    return (Term.ofCharset (← m.shorthandCharset kind negated), m)
  | .bracketed negated inner => do
    return (Term.ofCharset (← m.finishClass negated (← inner.charset m)), m)
  | .repetition least most _ inner => do
    let (t, m) ← inner.meaning m
    return (Term.repeated least most t, m)
  | .group settings captures inner => do
    let (t, _) ← inner.meaning (m.setAll settings)
    return (if captures then .capture t else t, m)
  | .alternation branches => do
    let (ts, m) ← meanings m branches
    return (Term.inChoice ts, m)
  | .concat items => do
    let (ts, m) ← meanings m items
    return (Term.inSequence ts, m)

/-- What expressions match that follow each other in the text. -/
def meanings (m : Mode) : List Expr → Except Fault (List Term × Mode)
  | [] => .ok ([], m)
  | e :: rest => do
    let (t, m) ← e.meaning m
    let (ts, m) ← meanings m rest
    return (t :: ts, m)

end

end Compendium.Regex
