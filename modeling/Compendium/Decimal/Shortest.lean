/-!
# The shortest decimal of a floating point number

A finite number of 64 bits is `mantissa * 2 ^ exponent`.  Every decimal between the middle of it
and its lower neighbour and the middle of it and its upper neighbour reads back as that number.
`shortest` finds the one with the fewest digits, and of these the one closest to the number.
-/

namespace Compendium.Decimal

/-- The absolute value of a finite floating point number, `mantissa * 2 ^ exponent`. -/
structure Binary where
  mantissa : Nat
  exponent : Int
deriving DecidableEq

/-- The absolute value of the floating point number with the given bits. -/
def Binary.ofBits (bits : Nat) : Binary :=
  let fraction := bits % Nat.pow 2 52
  let biased : Nat := bits / Nat.pow 2 52 % Nat.pow 2 11
  if biased = 0 then ⟨fraction, -1074⟩ else ⟨Nat.pow 2 52 + fraction, (biased : Int) - 1075⟩

/-- Whether the lower neighbour of the number is closer than the upper one. -/
def Binary.isLopsided (b : Binary) : Bool := b.mantissa = Nat.pow 2 52 && b.exponent > -1074

/-- A decimal, `digits * 10 ^ exponent`. -/
structure Scaled where
  digits : Nat
  exponent : Int
deriving DecidableEq

/-- The number `base ^ e` as a numerator and a denominator. -/
def power (base : Nat) (e : Int) : Nat × Nat :=
  if 0 ≤ e then (base.pow e.toNat, 1) else (1, base.pow (-e).toNat)

/-- The number, the ends of the interval that reads back as it, and the unit `10 ^ exponent`,
all as multiples of one small number. -/
structure Grid where
  value : Nat
  low : Nat
  high : Nat
  step : Nat

/-- Put the number on a grid with the given unit. -/
def Binary.grid (b : Binary) (exponent : Int) : Grid :=
  let (twos, halves) := power 2 (b.exponent - 2)
  let (tens, tenths) := power 10 exponent
  let quarter := twos * tenths
  let value := 4 * b.mantissa * quarter
  ⟨value, value - (if b.isLopsided then 1 else 2) * quarter, value + 2 * quarter, tens * halves⟩

/-- Whether the multiple of the unit reads back as the number. -/
def Grid.readsBack (g : Grid) (even : Bool) (n : Nat) : Bool :=
  let point := n * g.step
  if even then g.low ≤ point && point ≤ g.high else g.low < point && point < g.high

/-- The multiple of the unit that reads back as the number and is closest to it, an even one if
there are two. -/
def Grid.closest? (g : Grid) (even : Bool) : Option Nat :=
  let below := g.value / g.step
  let above := below + 1
  let distance := g.value - below * g.step
  match g.readsBack even below, g.readsBack even above with
  | false, false => none
  | true, false => some below
  | false, true => some above
  | true, true =>
    if 2 * distance < g.step ∨ (2 * distance = g.step ∧ below % 2 = 0) then some below
    else some above

/-- Look for a decimal on finer and finer grids, `fuel` at most. -/
def search (b : Binary) (exponent : Int) : Nat → Scaled
  | 0 => ⟨b.mantissa, 0⟩
  | fuel + 1 =>
    match (b.grid exponent).closest? (b.mantissa % 2 = 0) with
    | some 0 | none => search b (exponent - 1) fuel
    | some n => ⟨n, exponent⟩

/-- The shortest decimal that reads back as the number. -/
def shortest (b : Binary) : Scaled :=
  if b.mantissa = 0 then ⟨0, 0⟩ else search b 309 700

/-- The decimal without zeros at its end. -/
def Scaled.trim (fuel : Nat) (s : Scaled) : Scaled :=
  match fuel with
  | 0 => s
  | fuel + 1 =>
    if s.digits ≠ 0 ∧ s.digits % 10 = 0 then Scaled.trim fuel ⟨s.digits / 10, s.exponent + 1⟩
    else s

/-- How a decimal is written: with the point in its place as long as the exponent of the first
digit is in the given bounds, else with an exponent that always has a sign. -/
structure Layout where
  leastFixed : Int
  greatestFixed : Int

/-- Write a decimal. -/
def Scaled.write (layout : Layout) (s : Scaled) : String :=
  let s := s.trim 20
  let digits := Nat.toDigits 10 s.digits
  let exponent : Int := if s.digits = 0 then 0 else s.exponent + digits.length - 1
  let text :=
    if layout.leastFixed ≤ exponent ∧ exponent ≤ layout.greatestFixed then
      if exponent < 0 then
        ['0', '.'] ++ List.replicate ((-exponent).toNat - 1) '0' ++ digits
      else
        let whole := exponent.toNat + 1
        let padded := digits ++ List.replicate (whole - digits.length) '0'
        let fraction := padded.drop whole
        padded.take whole ++ ['.'] ++ (if fraction = [] then ['0'] else fraction)
    else
      let fraction := digits.drop 1
      let sign := if exponent < 0 then '-' else '+'
      digits.take 1 ++ (if fraction = [] then [] else '.' :: fraction)
        ++ ['e', sign] ++ Nat.toDigits 10 exponent.natAbs
  String.ofList text

/-- Write a finite floating point number. -/
def writeFloat (layout : Layout) (x : Float) : String :=
  let bits := x.toBits.toNat
  let text := (shortest (Binary.ofBits bits)).write layout
  if Nat.pow 2 63 ≤ bits then "-" ++ text else text

end Compendium.Decimal
