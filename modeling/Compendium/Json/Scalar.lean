import Compendium.Charset
import Compendium.Json.Cursor
import Compendium.Text.Quoted
import Compendium.Decimal.Shortest

/-!
# Strings, numbers and words of JSON

The readers in this module start at the first character of a value, or behind the quote of a
string, and hand back the value and the place behind it.  Numbers are read for what faults say
about them only.
-/

namespace Compendium.Json

/-! ### Strings -/

/-- The number that four hexadecimal digits write. -/
def hexValue? (digits : List Char) : Option Nat :=
  if digits.all fun c => (CodeRange.hexDigit? c).isSome then some (CodeRange.readHex digits)
  else none

/-- The place at the end of the text. -/
def Cursor.atEnd (k : Cursor) : Cursor :=
  k.rest.foldl (fun k c => k.past c []) k

/-- Read four hexadecimal digits.  It is an unfinished string if fewer than four bytes follow. -/
def readHex (k : Cursor) : Except Fault (Nat × Cursor) :=
  match k.rest with
  | a :: b :: c :: d :: rest =>
    match hexValue? [a, b, c, d] with
    | some n => .ok (n, ⟨rest, k.line, k.column + 4⟩)
    | none => .error (k.faultAfter 4 .invalidEscape)
  | short =>
    if short.foldl (fun n c => n + c.utf8Size) 0 < 4 then
      .error (k.atEnd.fault .unfinishedString)
    else .error (k.faultAfter 4 .invalidEscape)

/-- Whether a number is the first half of a pair that names a character. -/
def isHighSurrogate (n : Nat) : Bool := 0xd800 ≤ n && n ≤ 0xdbff

/-- Whether a number is the second half of a pair that names a character. -/
def isLowSurrogate (n : Nat) : Bool := 0xdc00 ≤ n && n ≤ 0xdfff

/-- Read a character named by number, from behind the `u` on: four digits, or two times four
for a character that needs a pair. -/
def readCodeEscape (k : Cursor) : Except Fault (Char × Cursor) := do
  let (high, k) ← readHex k
  if isLowSurrogate high then .error (k.fault .loneSurrogate)
  if !isHighSurrogate high then return (Char.ofNat high, k)
  match k.rest with
  | [] => .error (k.fault .unfinishedString)
  | '\\' :: _ =>
    let k := k.next
    match k.rest with
    | [] => .error (k.fault .unfinishedString)
    | 'u' :: _ =>
      let (low, k) ← readHex k.next
      if !isLowSurrogate low then .error (k.fault .loneSurrogate)
      return (Char.ofNat (0x10000 + (high - 0xd800) * 0x400 + (low - 0xdc00)), k)
    | _ => .error (k.faultNext .unfinishedSurrogate)
  | _ => .error (k.faultNext .unfinishedSurrogate)

/-- Read an escape from behind its backslash on. -/
def readEscape (k : Cursor) : Except Fault (Char × Cursor) :=
  match k.rest with
  | [] => .error (k.fault .unfinishedString)
  | '"' :: _ => .ok ('"', k.next)
  | '\\' :: _ => .ok ('\\', k.next)
  | '/' :: _ => .ok ('/', k.next)
  | 'b' :: _ => .ok ('\x08', k.next)
  | 'f' :: _ => .ok ('\x0c', k.next)
  | 'n' :: _ => .ok ('\n', k.next)
  | 'r' :: _ => .ok ('\r', k.next)
  | 't' :: _ => .ok ('\t', k.next)
  | 'u' :: _ => readCodeEscape k.next
  | _ => .error (k.faultNext .invalidEscape)

/-- Read characters up to the quote that ends a string, `fuel` of them at most. -/
def readChars (fuel : Nat) (k : Cursor) : Except Fault (List Char × Cursor) :=
  match fuel, k.rest with
  | fuel + 1, c :: _ =>
    if c = '"' then .ok ([], k.next)
    else do
      let (c, k) ← if c = '\\' then readEscape k.next
        else if c.toNat < 0x20 then .error (k.faultNext .controlCharacter)
        else .ok (c, k.next)
      let (cs, k) ← readChars fuel k
      return (c :: cs, k)
  | _, _ => .error (k.fault .unfinishedString)

/-- Read a string from behind its quote on. -/
def readString (k : Cursor) : Except Fault (String × Cursor) := do
  let (cs, k) ← readChars (k.rest.length + 1) k
  return (String.ofList cs, k)

/-! ### Words -/

/-- Read the rest of a word. -/
def readWord (k : Cursor) : List Char → Except Fault Cursor
  | [] => .ok k
  | c :: word =>
    match k.rest with
    | [] => .error (k.fault .unfinishedValue)
    | d :: _ => if c = d then readWord k.next word else .error (k.faultNext .expectedIdent)

/-! ### Numbers -/

/-- A number, as faults tell numbers apart. -/
inductive Number where
  | natural (n : Nat)
  | negative (n : Nat)
  | float (x : Float)

/-- Numbers with a fraction or an exponent, and those too large for 64 bits, are written with
the point in its place from `0.00001` on and below `10 ^ 16`. -/
def floatLayout : Decimal.Layout := ⟨-5, 15⟩

/-- A number as faults name it. -/
def Number.found : Number → Found
  | .natural n => .integer (toString n)
  | .negative n => .integer ("-" ++ toString n)
  | .float x => .floatingPoint (Decimal.writeFloat floatLayout x)

/-- The bound of the digits of a number that count. -/
def digitBound : Nat := Nat.pow 2 64

/-- The digit that follows, if one does. -/
def Cursor.digit? (k : Cursor) : Option Nat :=
  match k.rest with
  | c :: _ => if c.isDigit then some (c.toNat - '0'.toNat) else none
  | [] => none

/-- The place behind the digits that follow. -/
def Cursor.skipDigits (k : Cursor) : Cursor :=
  (k.rest.takeWhile Char.isDigit).foldl (fun k _ => k.next) k

/-- Read digits onto a number as long as it stays below the bound of digits that count: the
number, how many digits were read, and whether one more would have been too many. -/
def readDigits (fuel : Nat) (n : Nat) (k : Cursor) : Nat × Nat × Bool × Cursor :=
  match fuel, k.digit? with
  | fuel + 1, some d =>
    if digitBound ≤ 10 * n + d then (n, 0, true, k)
    else
      let (n, count, more, k) := readDigits fuel (10 * n + d) k.next
      (n, count + 1, more, k)
  | _, _ => (n, 0, false, k)

/-- The number `significand * 10 ^ exponent`, computed in steps of at most `10 ^ 308`.  There is
none if a step leaves the range of numbers. -/
def scale (fuel : Nat) (x : Float) (exponent : Int) : Option Float :=
  let size := exponent.natAbs
  if size ≤ 308 then
    let ten := Float.ofScientific 1 false size
    if 0 ≤ exponent then
      let y := x * ten
      if y.isInf then none else some y
    else some (x / ten)
  else if x == 0.0 then some x
  else if 0 ≤ exponent then none
  else
    match fuel with
    | 0 => some 0.0
    | fuel + 1 => scale fuel (x / Float.ofScientific 1 false 308) (exponent + 308)

/-- The floating point number with the given parts. -/
def ofParts (negative : Bool) (significand : Nat) (exponent : Int) (k : Cursor) :
    Except Fault (Number × Cursor) :=
  match scale 8 (Float.ofNat significand) exponent with
  | some x => .ok (.float (if negative then -x else x), k)
  | none => .error (k.fault .numberOutOfRange)

/-- The bound of exponents. -/
def exponentBound : Nat := Nat.pow 2 31

/-- Read the digits of an exponent; none if they exceed the bound, with the place where they do
so. -/
def readExponentDigits (fuel : Nat) (n : Nat) (k : Cursor) : Option Nat × Cursor :=
  match fuel, k.digit? with
  | fuel + 1, some d =>
    if exponentBound ≤ 10 * n + d then (none, k.next)
    else readExponentDigits fuel (10 * n + d) k.next
  | _, _ => (some n, k)

/-- Keep an exponent in the range of 32 bits. -/
def clampExponent (e : Int) : Int := max (-(exponentBound : Int)) (min e (exponentBound - 1))

/-- Read an exponent, from its letter on, and finish the number. -/
def readExponent (negative : Bool) (significand : Nat) (exponent : Int) (k : Cursor) :
    Except Fault (Number × Cursor) :=
  let k := k.next
  let (down, k) := match k.rest with
    | '+' :: _ => (false, k.next)
    | '-' :: _ => (true, k.next)
    | _ => (false, k)
  match k.rest, k.digit? with
  | [], _ => .error (k.fault .unfinishedValue)
  | _ :: _, none => .error (k.faultNext .invalidNumber)
  | _ :: _, some d =>
    match readExponentDigits k.rest.length d k.next with
    | (some e, k) =>
      ofParts negative significand (clampExponent (if down then exponent - e else exponent + e)) k
    | (none, k) =>
      if significand ≠ 0 ∧ !down then .error (k.fault .numberOutOfRange)
      else .ok (.float (if negative then -0.0 else 0.0), k.skipDigits)

/-- Finish a number whose digits have been read: an exponent may follow. -/
def finishFraction (negative : Bool) (significand : Nat) (exponent : Int) (k : Cursor) :
    Except Fault (Number × Cursor) :=
  match k.rest with
  | 'e' :: _ | 'E' :: _ => readExponent negative significand exponent k
  | _ => ofParts negative significand exponent k

/-- Read a fraction, from its point on, and finish the number. -/
def readFraction (negative : Bool) (significand : Nat) (exponent : Int) (k : Cursor) :
    Except Fault (Number × Cursor) :=
  let k := k.next
  let (significand, count, more, k) := readDigits k.rest.length significand k
  if more then finishFraction negative significand (exponent - count) k.skipDigits
  else if count = 0 then
    .error (k.faultNext (if k.rest.isEmpty then .unfinishedValue else .invalidNumber))
  else finishFraction negative significand (exponent - count) k

/-- Finish a number whose whole part has been read. -/
def finishWhole (negative : Bool) (significand : Nat) (k : Cursor) :
    Except Fault (Number × Cursor) :=
  match k.rest with
  | '.' :: _ => readFraction negative significand 0 k
  | 'e' :: _ | 'E' :: _ => readExponent negative significand 0 k
  | _ =>
    if !negative then .ok (.natural significand, k)
    else if significand = 0 ∨ Nat.pow 2 63 < significand then
      .ok (.float (-(Float.ofNat significand)), k)
    else .ok (.negative significand, k)

/-- Read a number from behind its sign on. -/
def readNumber (negative : Bool) (k : Cursor) : Except Fault (Number × Cursor) :=
  match k.rest, k.digit? with
  | [], _ => .error (k.fault .unfinishedValue)
  | _ :: _, none => .error (k.faultNext .invalidNumber)
  | _ :: _, some 0 =>
    if k.next.digit?.isSome then .error (k.next.faultNext .invalidNumber)
    else finishWhole negative 0 k.next
  | _ :: _, some _ =>
    let (significand, _, more, k) := readDigits k.rest.length 0 k
    if !more then finishWhole negative significand k
    else
      let behind := k.skipDigits
      let exponent : Int := (k.rest.length - behind.rest.length : Nat)
      match behind.rest with
      | '.' :: _ => readFraction negative significand exponent behind
      | _ => finishFraction negative significand exponent behind

/-- The fault of a value that is not what was expected.  Scalars are read first, and a fault in
them comes first. -/
def unexpected (expected : String) (k : Cursor) : Fault :=
  let mistaken (found : Found) (k : Cursor) : Fault := k.fault (.invalidType found expected)
  let word (rest : String) (found : Found) : Fault :=
    match readWord k.next rest.toList with
    | .ok k => mistaken found k
    | .error f => f
  let number (negative : Bool) (k : Cursor) : Fault :=
    match readNumber negative k with
    | .ok (n, k) => mistaken n.found k
    | .error f => f
  match k.rest with
  | 'n' :: _ => word "ull" .null
  | 't' :: _ => word "rue" (.boolean true)
  | 'f' :: _ => word "alse" (.boolean false)
  | '-' :: _ => number true k.next
  | '"' :: _ =>
    match readString k.next with
    | .ok (s, k) => mistaken (.string (Text.Quoted.quote s)) k
    | .error f => f
  | '[' :: _ => mistaken .sequence k
  | '{' :: _ => mistaken .map k
  | _ => if k.digit?.isSome then number false k else k.faultNext .expectedValue

end Compendium.Json
