import Compendium.Glob

/-!
# Segments of ignore patterns

A segment is what an ignore pattern says about one name of a path, or, for `**`, about any
number of names.  A segment without wildcards is compared with the name; another is turned into
a glob, in which runs of stars count as one and braces stand for themselves.
-/

namespace Compendium

/-- A segment of an ignore pattern. -/
inductive Segment where
  | literal (name : List Char)
  | glob (tokens : List Glob.Token)
  /-- Exactly one name, whatever it is. -/
  | anyOne
  /-- Any number of names, zero included. -/
  | anyDepth

namespace Segment

/-- The characters that make a segment a glob. -/
def isWild (c : Char) : Bool := c = '*' || c = '?' || c = '[' || c = '\\'

/-- The text of the glob for a segment, where `afterStar` says that a star has just been
written. -/
def globText (afterStar : Bool) : List Char → List Char
  | [] => []
  | '\\' :: [] => ['\\']
  | '\\' :: c :: rest => '\\' :: c :: globText false rest
  | c :: rest =>
    if c = '*' then if afterStar then globText true rest else c :: globText true rest
    else if c = '{' ∨ c = '}' then '\\' :: c :: globText false rest
    else c :: globText false rest

/-- A fault of a glob together with the text of that glob. -/
structure Fault where
  glob : List Char
  cause : Glob.Fault
deriving DecidableEq

/-- The wording of a fault. -/
def Fault.message (f : Fault) : String :=
  "error parsing glob '" ++ String.ofList f.glob ++ "': " ++ f.cause.message

/-- The segment that the text of a glob stands for. -/
def ofGlobText (text : List Char) : Except Fault Segment :=
  match Glob.read text with
  | .ok tokens => .ok (.glob tokens)
  | .error cause => .error ⟨text, cause⟩

/-- Read a segment. -/
def read (raw : List Char) : Except Fault Segment :=
  if raw = ['*', '*'] then .ok .anyDepth
  else if !raw.any isWild then .ok (.literal raw)
  else ofGlobText (globText false raw)

/-- In a name every byte but the slash is a wildcard's to take. -/
def wild (b : UInt8) : Bool := b != Glob.slash

/-- Whether the segment accepts a name. -/
def accepts : Segment → List Char → Bool
  | .literal text, name => text = name
  | .glob tokens, name => Glob.accepts wild tokens (Text.bytes name)
  | .anyOne, _ => true
  | .anyDepth, _ => true

/-- Whether the segment is `**`. -/
def isAnyDepth : Segment → Bool
  | .anyDepth => true
  | _ => false

/-- The ends of a list, from the whole list to the empty one. -/
def ends {α : Type} : List α → List (List α)
  | [] => [[]]
  | a :: rest => (a :: rest) :: ends rest

/-- Whether names can be cut into consecutive pieces, one per segment: any number of names for
`**`, and one accepted name for every other segment. -/
def acceptAll : List Segment → List (List Char) → Bool
  | [], names => names.isEmpty
  | .anyDepth :: rest, names => (ends names).any (acceptAll rest)
  | segment :: rest, names =>
    match names with
    | [] => false
    | name :: names => segment.accepts name && acceptAll rest names

end Segment

end Compendium
