import Compendium.Regex.Term
import Compendium.Unicode.Property

/-!
# Matching

A term is laid over a text: each set of characters becomes the set of the places where the text
has one of them, and each condition the set of the places where it holds.  What is left is a
`Stencil`, which leads from places to places.  Sets of places are numbers, the bit `i` standing
for the place behind `i` characters.
-/

namespace Compendium.Regex

/-- A term laid over a text. -/
inductive Stencil where
  | stay
  /-- Lead from each of the places one character on. -/
  | step (places : Nat)
  /-- Stay at the places where a condition holds. -/
  | gate (places : Nat)
  | repetition (least : Nat) (most : Option Nat) (inner : Stencil)
  | sequence (items : List Stencil)
  | choice (branches : List Stencil)

/-! ### Places -/

/-- The set of the places at which a list of booleans has `true`. -/
def placesOf : List Bool → Nat
  | [] => 0
  | b :: rest => 2 * placesOf rest + b.toNat

/-- The characters of a text around each place: the one before it and the one behind it. -/
def surroundings (before : Option Char) : List Char → List (Option Char × Option Char)
  | [] => [(before, none)]
  | c :: rest => (before, some c) :: surroundings (some c) rest

/-- Whether there is a character and it is of words. -/
def isWord (ascii : Bool) (c : Option Char) : Bool :=
  c.any fun c =>
    if ascii then c.isAlphanum || c = '_' else Unicode.wordCharacters.holds c

/-- Whether a condition holds at a place between two characters. -/
def Look.holds (l : Look) (before behind : Option Char) : Bool :=
  match l with
  | .textStart => before.isNone
  | .textEnd => behind.isNone
  | .lineStart => before.isNone || before = some '\n'
  | .lineEnd => behind.isNone || behind = some '\n'
  | .lineStartAny =>
    before.isNone || before = some '\n' || (before = some '\r' && behind ≠ some '\n')
  | .lineEndAny =>
    behind.isNone || behind = some '\r' || (behind = some '\n' && before ≠ some '\r')
  | .boundary ascii => isWord ascii before != isWord ascii behind
  | .notBoundary ascii => isWord ascii before == isWord ascii behind
  | .wordStart ascii => !isWord ascii before && isWord ascii behind
  | .wordEnd ascii => isWord ascii before && !isWord ascii behind
  | .wordStartHalf ascii => !isWord ascii before
  | .wordEndHalf ascii => !isWord ascii behind

mutual

/-- Lay a term over a text. -/
def Term.stencil (text : List Char) : Term → Stencil
  | .empty => .stay
  | .literal c => .step (placesOf (text.map (· = c)))
  | .charset s => .step (placesOf (text.map s.holds))
  | .look l =>
    .gate (placesOf ((surroundings none text).map fun (before, behind) => l.holds before behind))
  | .repetition least most inner => .repetition least most (inner.stencil text)
  | .capture inner => inner.stencil text
  | .sequence items => .sequence (layAll text items)
  | .choice branches => .choice (layAll text branches)

/-- Lay terms over a text. -/
def layAll (text : List Char) : List Term → List Stencil
  | [] => []
  | t :: rest => t.stencil text :: layAll text rest

end

/-! ### Reaching places -/

/-- Apply a function `count` times, or until it changes nothing. -/
def exactly (f : Nat → Nat) : Nat → Nat → Nat
  | 0, places => places
  | count + 1, places =>
    let reached := f places
    if reached = places then places else exactly f count reached

/-- The places reached by applying a function up to `count` times. -/
def upTo (f : Nat → Nat) : Nat → Nat → Nat
  | 0, places => places
  | count + 1, places =>
    let reached := places ||| f places
    if reached = places then places else upTo f count reached

mutual

/-- The places to which a stencil leads from the given ones, in a text of `size` characters. -/
def Stencil.reach (size : Nat) : Stencil → Nat → Nat
  | .stay, places => places
  | .step cells, places => (places &&& cells) <<< 1
  | .gate cells, places => places &&& cells
  | .repetition least most inner, places =>
    let most := (most.map (· - least)).getD (size + 1)
    upTo (inner.reach size) most (exactly (inner.reach size) least places)
  | .sequence items, places => reachAll size items places
  | .choice branches, places => reachAny size branches places

/-- The places to which stencils lead one after the other. -/
def reachAll (size : Nat) : List Stencil → Nat → Nat
  | [], places => places
  | s :: rest, places => reachAll size rest (s.reach size places)

/-- The places to which any of the stencils leads. -/
def reachAny (size : Nat) : List Stencil → Nat → Nat
  | [], _ => 0
  | s :: rest, places => s.reach size places ||| reachAny size rest places

end

/-- Whether a term matches somewhere in a text. -/
def Term.occursIn (t : Term) (text : List Char) : Bool :=
  (t.stencil text).reach text.length (Nat.pow 2 (text.length + 1) - 1) ≠ 0

end Compendium.Regex
