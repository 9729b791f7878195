import Mathlib.Data.Nat.Find
import Compendium.Proofs.Except
import Compendium.Proofs.Rule.Run

/-!
# The ranges a rule removes

A rule that does not stop at the lines that match its start has `Ranges` in lines: each is from
the first line behind the one before it that starts a range to the first line behind that which
closes it, or to the end.  Lines have just one list of such ranges.  What the rule keeps are the
lines in none of them, and the first line of each if it is to keep that.
-/

namespace Compendium

/-- A range of lines, by the places of the first and the last of them. -/
structure LineRange where
  first : Nat
  last : Nat
deriving DecidableEq

/-- Whether a place is in the range. -/
def LineRange.covers (range : LineRange) (i : Nat) : Bool := range.first ≤ i && i ≤ range.last

/-- Whether a place is in the range behind its first line. -/
def LineRange.follows (range : LineRange) (i : Nat) : Bool := range.first < i && i ≤ range.last

/-! ### First places -/

section Places

variable {α : Type} {p q : α → Bool} {items items' : List α} {start i : Nat}

/-- The item at place `i` is the first from place `start` on that has a property. -/
structure FirstFrom (p : α → Bool) (items : List α) (start i : Nat) : Prop where
  le : start ≤ i
  holds : ∃ a, items[i]? = some a ∧ p a = true
  before : ∀ j a, start ≤ j → j < i → items[j]? = some a → p a = false

/-- No item from place `start` on has a property. -/
def NoneFrom (p : α → Bool) (items : List α) (start : Nat) : Prop :=
  ∀ j a, start ≤ j → items[j]? = some a → p a = false

instance : Decidable (FirstFrom p items start i) :=
  decidable_of_iff
    (start ≤ i ∧ (∃ a ∈ items[i]?, p a = true)
      ∧ ∀ j < i, start ≤ j → ∀ a ∈ items[j]?, p a = false)
    ⟨fun ⟨hle, hholds, hbefore⟩ => ⟨hle, hholds, fun j a hj hlt ha => hbefore j hlt hj a ha⟩,
      fun h => ⟨h.le, h.holds, fun j hlt hj a ha => h.before j a hj hlt ha⟩⟩

/-- There is a first place, unless there is none at all. -/
theorem exists_firstFrom_or_noneFrom (p : α → Bool) (items : List α) (start : Nat) :
  (∃ i, FirstFrom p items start i) ∨ NoneFrom p items start
  := by
  by_cases h : ∃ i, start ≤ i ∧ ∃ a, items[i]? = some a ∧ p a = true
  · obtain ⟨hle, hholds⟩ := Nat.find_spec h
    refine .inl ⟨Nat.find h, hle, hholds, ?_⟩
    intro j a hj hlt ha
    rw [← Bool.not_eq_true]
    intro hp
    apply Nat.find_min h hlt ⟨hj, a, ha, hp⟩
  · refine .inr fun j a hj ha => ?_
    rw [← Bool.not_eq_true]
    intro hp
    apply h ⟨j, hj, a, ha, hp⟩

theorem FirstFrom.not_noneFrom (h : FirstFrom p items start i) :
  ¬ NoneFrom p items start
  := by
  intro hnone
  obtain ⟨a, ha, hp⟩ := h.holds
  simp [hnone i a h.le ha] at hp

/-- There is only one first place. -/
theorem FirstFrom.unique {j : Nat} (h : FirstFrom p items start i)
    (h' : FirstFrom p items start j) :
  i = j
  := by
  obtain ⟨a, ha, hp⟩ := h.holds
  obtain ⟨b, hb, hp'⟩ := h'.holds
  apply Nat.le_antisymm
  · apply Nat.le_of_not_lt
    intro hlt
    simp [h.before j b h'.le hlt hb] at hp'
  · apply Nat.le_of_not_lt
    intro hlt
    simp [h'.before i a h.le hlt ha] at hp

theorem FirstFrom.lt_length (h : FirstFrom p items start i) :
  i < items.length
  := by
  obtain ⟨a, ha, -⟩ := h.holds
  apply (List.getElem?_eq_some_iff.mp ha).1

/-- The items from `start` on are some without the property, the first with it and the rest. -/
theorem FirstFrom.drop_eq (h : FirstFrom p items start i) :
  ∃ before a, items.drop start = before ++ a :: items.drop (i + 1)
    ∧ start + before.length = i ∧ (∀ b ∈ before, p b = false) ∧ p a = true
  := by
  obtain ⟨a, ha, hp⟩ := h.holds
  obtain ⟨hi, rfl⟩ := List.getElem?_eq_some_iff.mp ha
  have hle := h.le
  use (items.drop start).take (i - start), items[i]
  refine ⟨?_, ?_, ?_, hp⟩
  · have hrest : items.drop i = (items.drop start).drop (i - start) := by
      rw [List.drop_drop, Nat.add_sub_cancel' hle]
    rw [← List.drop_eq_getElem_cons hi, hrest, List.take_append_drop]
  · rw [List.length_take, List.length_drop]
    omega
  · intro b hb
    obtain ⟨k, hk⟩ := List.mem_iff_getElem?.mp hb
    rw [List.getElem?_take] at hk
    split at hk
    · rename_i hlt
      rw [List.getElem?_drop] at hk
      apply h.before (start + k) b (by omega) (by omega) hk
    · cases hk

theorem NoneFrom.forall_mem_drop (h : NoneFrom p items start) :
  ∀ a ∈ items.drop start, p a = false
  := by
  intro a ha
  obtain ⟨k, hk⟩ := List.mem_iff_getElem?.mp ha
  rw [List.getElem?_drop] at hk
  apply h (start + k) a (by omega) hk

theorem noneFrom_iff :
  NoneFrom p items start ↔ ∀ a ∈ items.drop start, p a = false
  := by
  use NoneFrom.forall_mem_drop
  intro h j a hj ha
  apply h a
  rw [List.mem_iff_getElem?]
  use j - start
  rw [List.getElem?_drop, Nat.add_sub_cancel' hj, ha]

instance : Decidable (NoneFrom p items start) := decidable_of_iff _ noneFrom_iff.symm

/-- A first place depends on nothing but what holds of the items up to it. -/
theorem FirstFrom.congr (h : FirstFrom p items start i) (hlen : items'.length = items.length)
    (hpq : ∀ j a a', start ≤ j → j ≤ i → items[j]? = some a → items'[j]? = some a' →
      q a' = p a) :
  FirstFrom q items' start i
  := by
  obtain ⟨a, ha, hp⟩ := h.holds
  have hi : i < items'.length := hlen ▸ h.lt_length
  have ha' := List.getElem?_eq_getElem hi
  refine ⟨h.le, ⟨_, ha', ?_⟩, ?_⟩
  · rw [hpq i a _ h.le (Nat.le_refl i) ha ha', hp]
  · intro j b' hj hlt hb'
    have hb := List.getElem?_eq_getElem (Nat.lt_trans hlt h.lt_length)
    rw [hpq j _ b' hj (Nat.le_of_lt hlt) hb hb', h.before j _ hj hlt hb]

theorem NoneFrom.congr (h : NoneFrom p items start) (hlen : items'.length = items.length)
    (hpq : ∀ j a a', start ≤ j → items[j]? = some a → items'[j]? = some a' → q a' = p a) :
  NoneFrom q items' start
  := by
  intro j a' hj ha'
  have hlt : j < items.length := hlen ▸ (List.getElem?_eq_some_iff.mp ha').1
  have ha := List.getElem?_eq_getElem hlt
  rw [hpq j _ a' hj ha ha', h j _ hj ha]

end Places

/-! ### The ranges of a rule -/

namespace Rule

variable {r : Rule} {lines : List String} {start : Nat} {range : LineRange}
  {ranges : List LineRange}

/-- A range is the next that the rule removes from place `start` on: it opens at the first line
there that starts a range, and ends with the first line behind that which closes it, or with the
last line of all if none does. -/
structure Removes (r : Rule) (lines : List String) (start : Nat) (range : LineRange) : Prop where
  opens : FirstFrom r.start.occursIn lines start range.first
  ends : FirstFrom r.finish.closes lines (range.first + 1) range.last
    ∨ NoneFrom r.finish.closes lines (range.first + 1) ∧ range.last + 1 = lines.length

/-- The ranges that the rule has in lines from place `start` on. -/
inductive Ranges (r : Rule) (lines : List String) : Nat → List LineRange → Prop where
  /-- No line starts a range any more. -/
  | none {start : Nat} (h : NoneFrom r.start.occursIn lines start) : Ranges r lines start []
  /-- The next range, and then those behind it. -/
  | more {start : Nat} {range : LineRange} {rest : List LineRange}
    (h : r.Removes lines start range) (hrest : Ranges r lines (range.last + 1) rest) :
    Ranges r lines start (range :: rest)

instance : Decidable (r.Removes lines start range) :=
  decidable_of_iff
    (FirstFrom r.start.occursIn lines start range.first
      ∧ (FirstFrom r.finish.closes lines (range.first + 1) range.last
        ∨ NoneFrom r.finish.closes lines (range.first + 1) ∧ range.last + 1 = lines.length))
    ⟨fun ⟨hopens, hends⟩ => ⟨hopens, hends⟩, fun h => ⟨h.opens, h.ends⟩⟩

instance decidableRanges (r : Rule) (lines : List String) :
    (start : Nat) → (ranges : List LineRange) → Decidable (r.Ranges lines start ranges)
  | start, [] =>
    decidable_of_iff (NoneFrom r.start.occursIn lines start) ⟨.none, fun | .none h => h⟩
  | start, range :: rest =>
    have := decidableRanges r lines (range.last + 1) rest
    decidable_of_iff (r.Removes lines start range ∧ r.Ranges lines (range.last + 1) rest)
      ⟨fun ⟨h, hrest⟩ => .more h hrest, fun | .more h hrest => ⟨h, hrest⟩⟩

theorem Removes.bounds (h : r.Removes lines start range) :
  start ≤ range.first ∧ range.first ≤ range.last ∧ range.last < lines.length
  := by
  have hfirst := h.opens.lt_length
  use h.opens.le
  rcases h.ends with hlast | ⟨-, hlast⟩
  · use Nat.le_of_succ_le hlast.le, hlast.lt_length
  · omega

theorem Ranges.bounds (h : r.Ranges lines start ranges) :
  ∀ range ∈ ranges,
    start ≤ range.first ∧ range.first ≤ range.last ∧ range.last < lines.length
  := by
  induction h with
  | none => simp
  | more h _ ih =>
    rw [List.forall_mem_cons]
    use h.bounds
    intro range hrange
    have hnext := ih range hrange
    have hbounds := h.bounds
    omega

/-- Ranges do not meet, and are in the order of the lines. -/
theorem Ranges.pairwise (h : r.Ranges lines start ranges) :
  ranges.Pairwise (·.last < ·.first)
  := by
  induction h with
  | none => exact .nil
  | more _ hrest ih => exact .cons (fun range hrange => (hrest.bounds range hrange).1) ih

/-! ### There is one list of ranges -/

theorem exists_removes {first : Nat} (h : FirstFrom r.start.occursIn lines start first) :
  ∃ last, r.Removes lines start ⟨first, last⟩
  := by
  rcases exists_firstFrom_or_noneFrom r.finish.closes lines (first + 1) with ⟨last, hlast⟩ | hnone
  · use last, h, .inl hlast
  · have hlt := h.lt_length
    use lines.length - 1, h
    right
    use hnone
    apply Nat.sub_add_cancel (by omega)

theorem exists_ranges (r : Rule) (lines : List String) (start : Nat) :
  ∃ ranges, r.Ranges lines start ranges
  := by
  -- A range takes at least one line, so the recursion is on the number of lines behind it.
  induction n : lines.length - start using Nat.strong_induction_on generalizing start with
  | h n ih =>
    rcases exists_firstFrom_or_noneFrom r.start.occursIn lines start with ⟨first, hfirst⟩ | hnone
    · obtain ⟨last, h⟩ := exists_removes hfirst
      obtain ⟨hstart, hle, hlt⟩ : start ≤ first ∧ first ≤ last ∧ last < lines.length := h.bounds
      obtain ⟨rest, hrest⟩ := ih (lines.length - (last + 1)) (by omega) (last + 1) rfl
      exact ⟨_, .more h hrest⟩
    · use [], .none hnone

theorem Removes.unique {other : LineRange} (h : r.Removes lines start range)
    (h' : r.Removes lines start other) :
  range = other
  := by
  obtain ⟨first, last⟩ := range
  obtain ⟨first', last'⟩ := other
  obtain rfl : first = first' := h.opens.unique h'.opens
  rw [LineRange.mk.injEq]
  use rfl
  rcases h.ends with hlast | ⟨hnone, hlast⟩ <;> rcases h'.ends with hlast' | ⟨hnone', hlast'⟩
  · apply hlast.unique hlast'
  · apply absurd hnone' hlast.not_noneFrom
  · apply absurd hnone hlast'.not_noneFrom
  · simp only at hlast hlast'
    omega

theorem Ranges.unique {others : List LineRange} (h : r.Ranges lines start ranges)
    (h' : r.Ranges lines start others) :
  ranges = others
  := by
  induction h generalizing others with
  | none hnone =>
    cases h' with
    | none => rfl
    | more h' => apply absurd hnone h'.opens.not_noneFrom
  | more h _ ih =>
    cases h' with
    | none hnone => apply absurd hnone h.opens.not_noneFrom
    | more h' hrest' =>
      obtain rfl := h.unique h'
      rw [ih hrest']

/-! ### What is left -/

/-- The lines at the places that stay, when the first of them is at place `start`. -/
def linesAt (here : Nat → Bool) (start : Nat) (lines : List String) : List String :=
  ((lines.zipIdx start).filter fun (_, i) => here i).map Prod.fst

/-- Whether the line at a place stays when ranges are removed.  The first line of each stays if
`keepStart` holds. -/
def stays (ranges : List LineRange) (keepStart : Bool) (i : Nat) : Bool :=
  !ranges.any (·.covers i) || (keepStart && ranges.any (·.first == i))

theorem linesAt_append (here : Nat → Bool) (start : Nat) (lines more : List String) :
  linesAt here start (lines ++ more)
    = linesAt here start lines ++ linesAt here (start + lines.length) more
  := by
  simp [linesAt, List.zipIdx_append]

theorem linesAt_congr {here there : Nat → Bool}
    (h : ∀ i, start ≤ i → i < start + lines.length → here i = there i) :
  linesAt here start lines = linesAt there start lines
  := by
  rw [linesAt, linesAt]
  congr 1
  apply List.filter_congr
  rintro ⟨line, i⟩ hmem
  obtain ⟨hle, hlt, -⟩ := List.mem_zipIdx hmem
  apply h i hle hlt

theorem linesAt_eq_self {here : Nat → Bool}
    (h : ∀ i, start ≤ i → i < start + lines.length → here i = true) :
  linesAt here start lines = lines
  := by
  rw [linesAt_congr h]
  simp [linesAt]

theorem linesAt_eq_nil {here : Nat → Bool}
    (h : ∀ i, start ≤ i → i < start + lines.length → here i = false) :
  linesAt here start lines = []
  := by
  rw [linesAt_congr h]
  simp [linesAt]

/-- All lines of a range but the first go, and behind it the rule goes on as from a start. -/
theorem Removes.run_ends (h : r.Removes lines start range) :
  ∃ inside, lines.drop (range.first + 1) = inside ++ lines.drop (range.last + 1)
    ∧ range.first + inside.length = range.last
    ∧ (r.run true (lines.drop (range.first + 1))).1
      = (r.run false (lines.drop (range.last + 1))).1
  := by
  rcases h.ends with hlast | ⟨hnone, hlast⟩
  · obtain ⟨inside, line, hdrop, hlen, hinside, hcloses⟩ := hlast.drop_eq
    use inside ++ [line]
    use by simp [hdrop], by simp; omega
    rw [hdrop, run_append, run_of_not_closes hinside, run_cons]
    simp [keeps, opensAfter, hcloses]
  · have hbounds := h.bounds
    use lines.drop (range.first + 1)
    rw [hlast, List.drop_length, List.append_nil, List.length_drop,
      run_of_not_closes hnone.forall_mem_drop, run]
    exact ⟨rfl, by omega, rfl⟩

/-- Up to the end of its next range the rule keeps the lines before the range, and the first
line of it if it is to keep that. -/
theorem Removes.run_eq (h : r.Removes lines start range) (hr : r.finish.isSameLine = false) :
  ∃ before line inside,
    lines.drop start = before ++ ([line] ++ (inside ++ lines.drop (range.last + 1)))
    ∧ start + before.length = range.first ∧ range.first + inside.length = range.last
    ∧ (r.run false (lines.drop start)).1
      = before ++ ((if r.keepStart then [line] else [])
        ++ (r.run false (lines.drop (range.last + 1))).1)
  := by
  obtain ⟨before, line, hdrop, hlen, hbefore, hstart⟩ := h.opens.drop_eq
  obtain ⟨inside, hinside, hlen', hrun⟩ := h.run_ends
  use before, line, inside
  use by simp [hdrop, hinside], hlen, hlen'
  rw [hdrop, run_append, run_of_not_start hbefore, run_cons]
  simp [keeps, opensAfter, hstart, hr, hrun]

/-- No range behind another has a part in the places up to the end of that one. -/
theorem any_eq_false_of_le {rest : List LineRange} {q : LineRange → Bool} {i : Nat}
    (hrest : ∀ other ∈ rest, range.last < other.first) (hi : i ≤ range.last)
    (hq : ∀ other, q other = true → other.first ≤ i) :
  rest.any q = false
  := by
  rw [List.any_eq_false]
  intro other hother h
  have hbehind := hrest other hother
  have hle := hq other h
  omega

/-- Before a range lines stay, its first line does if it is to, the others of it go, and behind
it all is as the ranges there say. -/
theorem stays_cons {rest : List LineRange} (hle : range.first ≤ range.last)
    (hrest : ∀ other ∈ rest, range.last < other.first) (keepStart : Bool) (i : Nat) :
  stays (range :: rest) keepStart i
    = if i < range.first then true
      else if i = range.first then keepStart
      else if i ≤ range.last then false
      else stays rest keepStart i
  := by
  by_cases hi : i ≤ range.last
  · have hcovers : rest.any (·.covers i) = false :=
      any_eq_false_of_le hrest hi fun other hother => by grind [LineRange.covers]
    have hfirst : rest.any (·.first == i) = false :=
      any_eq_false_of_le hrest hi fun other hother => by grind
    simp only [stays, List.any_cons, hcovers, hfirst, Bool.or_false]
    grind [LineRange.covers]
  · have hfirst : (range.first == i) = false := by
      simp
      omega
    rw [if_neg (by omega), if_neg (by omega), if_neg hi]
    simp [stays, LineRange.covers, hi, hfirst]

/-- Lines that are cut at the ends of a range stay before it, its first does if it is to, and
behind it those stay that the ranges there leave. -/
theorem linesAt_stays_cons {rest : List LineRange}
    (hrest : ∀ other ∈ rest, range.last < other.first) (keepStart : Bool)
    {before inside : List String} (hbefore : start + before.length = range.first)
    (hinside : range.first + inside.length = range.last) (line : String) (behind : List String) :
  linesAt (stays (range :: rest) keepStart) start (before ++ ([line] ++ (inside ++ behind)))
    = before ++ ((if keepStart then [line] else [])
      ++ linesAt (stays rest keepStart) (range.last + 1) behind)
  := by
  have hstays := stays_cons (by omega) hrest keepStart
  generalize stays (range :: rest) keepStart = here at hstays
  have hbefore' : linesAt here start before = before := by
    apply linesAt_eq_self
    intro i _ hi
    rw [hstays, if_pos (by omega)]
  have hline : linesAt here range.first [line] = if keepStart then [line] else [] := by
    have hfirst : here range.first = keepStart := by simp [hstays]
    cases keepStart <;> simp [linesAt, hfirst]
  have hinside' : linesAt here (range.first + 1) inside = [] := by
    apply linesAt_eq_nil
    intro i hi hi'
    rw [hstays, if_neg (by omega), if_neg (by omega), if_pos (by omega)]
  have hbehind : linesAt here (range.last + 1) behind
      = linesAt (stays rest keepStart) (range.last + 1) behind := by
    apply linesAt_congr
    intro i hi _
    rw [hstays, if_neg (by omega), if_neg (by omega), if_neg (by omega)]
  rw [linesAt_append, linesAt_append, linesAt_append, hbefore', hbefore, hline,
    List.length_singleton, hinside', Nat.add_right_comm, hinside, hbehind, List.nil_append]

/-- What the rule keeps are the lines that stay when its ranges are removed. -/
theorem Ranges.run_eq (h : r.Ranges lines start ranges) (hr : r.finish.isSameLine = false) :
  (r.run false (lines.drop start)).1
    = linesAt (stays ranges r.keepStart) start (lines.drop start)
  := by
  induction h with
  | none hnone =>
    rw [run_of_not_start hnone.forall_mem_drop, linesAt_eq_self]
    simp [stays]
  | @more start range rest h hrest ih =>
    obtain ⟨before, line, inside, hdrop, hbefore, hinside, hrun⟩ := h.run_eq hr
    have hbehind := fun other hother => (hrest.bounds other hother).1
    rw [hrun, hdrop, linesAt_stays_cons hbehind r.keepStart hbefore hinside, ih]

/-! ### What lines are looked at for -/

/-- Up to the first line of a range no place follows in it, then all do up to its last line, and
behind it those follow that the ranges there say. -/
theorem any_follows_cons {rest : List LineRange} (hle : range.first ≤ range.last)
    (hrest : ∀ other ∈ rest, range.last < other.first) (i : Nat) :
  (range :: rest).any (·.follows i)
    = if i ≤ range.first then false else if i ≤ range.last then true
      else rest.any (·.follows i)
  := by
  by_cases hi : i ≤ range.last
  · have hfollows : rest.any (·.follows i) = false :=
      any_eq_false_of_le hrest hi fun other hother => by grind [LineRange.follows]
    simp only [List.any_cons, hfollows, Bool.or_false]
    grind [LineRange.follows]
  · rw [if_neg (by omega), if_neg hi]
    simp [LineRange.follows, hi]

/-- The ranges depend on nothing but what each line is looked at for: whether it closes a range,
if its place follows in one, and whether it starts one, if not. -/
theorem Ranges.congr {r' : Rule} {lines' : List String} (h : r.Ranges lines start ranges)
    (hlen : lines'.length = lines.length)
    (hsame : ∀ i line line', start ≤ i → lines[i]? = some line → lines'[i]? = some line' →
      if ranges.any (·.follows i) then r'.finish.closes line' = r.finish.closes line
      else r'.start.occursIn line' = r.start.occursIn line) :
  r'.Ranges lines' start ranges
  := by
  induction h with
  | none hnone =>
    apply Ranges.none
    apply hnone.congr hlen
    intro i line line' hi hline hline'
    simpa using hsame i line line' hi hline hline'
  | @more start range rest h hrest ih =>
    obtain ⟨hstart, hle, -⟩ := h.bounds
    have hfollows := any_follows_cons hle fun other hother => (hrest.bounds other hother).1
    have hinside : ∀ i line line', range.first < i → i ≤ range.last → lines[i]? = some line →
        lines'[i]? = some line' → r'.finish.closes line' = r.finish.closes line := by
      intro i line line' hi hi' hline hline'
      have hclose := hsame i line line' (by omega) hline hline'
      rwa [hfollows, if_neg (Nat.not_le.mpr hi), if_pos hi', if_pos rfl] at hclose
    refine .more ⟨?_, ?_⟩ ?_
    · apply h.opens.congr hlen
      intro i line line' hi hi' hline hline'
      have hopen := hsame i line line' hi hline hline'
      rwa [hfollows, if_pos hi', if_neg Bool.false_ne_true] at hopen
    · rcases h.ends with hlast | ⟨hnone, hlast⟩
      · left
        apply hlast.congr hlen
        intro i line line' hi hi'
        apply hinside i line line' hi hi'
      · refine .inr ⟨?_, hlast.trans hlen.symm⟩
        apply hnone.congr hlen
        intro i line line' hi hline
        have hlt := (List.getElem?_eq_some_iff.mp hline).1
        apply hinside i line line' hi (by omega) hline
    · apply ih
      intro i line line' hi hline hline'
      have hfirst : ¬ i ≤ range.first := by omega
      have hbehind := hsame i line line' (by omega) hline hline'
      rwa [hfollows, if_neg hfirst, if_neg (Nat.not_le.mpr hi)] at hbehind

/-- A rule that does not stop at the lines that match its start has just one list of ranges in
lines, none of which meets another, and what it keeps are the lines in none of them, with the
first line of each if it is to keep that.  No line is looked at for anything else: whether one
at which a range starts would close a range, and whether one behind the first line of a range,
the one that closes it included, would start a range has no part in what the ranges are. -/
theorem apply_removes_ranges (r : Rule) (hr : r.finish.isSameLine = false)
    (lines : List String) :
  ∃ ranges,
    (∀ others, r.Ranges lines 0 others ↔ others = ranges)
    ∧ ranges.Pairwise (·.last < ·.first)
    ∧ (∀ range ∈ ranges, range.first ≤ range.last ∧ range.last < lines.length)
    ∧ r.apply lines = linesAt (stays ranges r.keepStart) 0 lines
    ∧ ∀ (r' : Rule) (lines' : List String), r'.finish.isSameLine = false →
      lines'.length = lines.length →
      (∀ i line line', lines[i]? = some line → lines'[i]? = some line' →
        if ranges.any (·.follows i) then r'.finish.closes line' = r.finish.closes line
        else r'.start.occursIn line' = r.start.occursIn line) →
      r'.Ranges lines' 0 ranges
        ∧ r'.apply lines' = linesAt (stays ranges r'.keepStart) 0 lines'
  := by
  obtain ⟨ranges, h⟩ := exists_ranges r lines 0
  use ranges
  refine ⟨?_, h.pairwise, fun range hrange => (h.bounds range hrange).2, h.run_eq hr, ?_⟩
  · intro others
    constructor
    · intro hothers
      apply hothers.unique h
    · rintro rfl
      apply h
  · intro r' lines' hr' hlen hsame
    have h' : r'.Ranges lines' 0 ranges :=
      h.congr hlen fun i line line' _ hline hline' => hsame i line line' hline hline'
    use h'
    apply h'.run_eq hr'

/-- Three ranges: the first opens at a line that would close it, the second is closed by the next
line, and the last goes on to the end.  Other lines have the same ranges although the first of
them closes none and some inside the ranges would start one. -/
theorem apply_removes_ranges_begin_end :
  ∃ r, compile ⟨"*", none, "BEGIN", "END", true⟩ = .ok r ∧ r.finish.isSameLine = false
    ∧ r.Ranges ["BEGIN END", "a", "END", "BEGIN", "END", "b", "BEGIN", "c"] 0
      [⟨0, 2⟩, ⟨3, 4⟩, ⟨6, 7⟩]
    ∧ r.apply ["BEGIN END", "a", "END", "BEGIN", "END", "b", "BEGIN", "c"]
      = ["BEGIN END", "BEGIN", "b", "BEGIN"]
    ∧ r.apply ["BEGIN", "BEGIN", "BEGIN END", "BEGIN", "END", "b", "BEGIN", "BEGIN"]
      = ["BEGIN", "BEGIN", "b", "BEGIN"]
  := by
  have hsample : ∃ r ∈ (compile ⟨"*", none, "BEGIN", "END", true⟩).toOption,
      r.finish.isSameLine = false ∧ r.keepStart = true
        ∧ r.Ranges ["BEGIN END", "a", "END", "BEGIN", "END", "b", "BEGIN", "c"] 0
          [⟨0, 2⟩, ⟨3, 4⟩, ⟨6, 7⟩]
        ∧ ∀ i < 8,
          ∀ line ∈ ["BEGIN END", "a", "END", "BEGIN", "END", "b", "BEGIN", "c"][i]?,
          ∀ line' ∈ ["BEGIN", "BEGIN", "BEGIN END", "BEGIN", "END", "b", "BEGIN", "BEGIN"][i]?,
            if [⟨0, 2⟩, ⟨3, 4⟩, ⟨6, 7⟩].any (LineRange.follows · i)
            then r.finish.closes line' = r.finish.closes line
            else r.start.occursIn line' = r.start.occursIn line := by
    decide +kernel
  obtain ⟨r, hr, hfinish, hkeep, hranges, hsame⟩ := hsample
  obtain ⟨ranges, hunique, -, -, happly, hlooked⟩ := apply_removes_ranges r hfinish
    ["BEGIN END", "a", "END", "BEGIN", "END", "b", "BEGIN", "c"]
  obtain rfl := (hunique _).mp hranges
  obtain ⟨-, happly'⟩ := hlooked r
    ["BEGIN", "BEGIN", "BEGIN END", "BEGIN", "END", "b", "BEGIN", "BEGIN"] hfinish rfl
    fun i line line' hline hline' =>
      hsame i (List.getElem?_eq_some_iff.mp hline).1 line hline line' hline'
  use r, toOption_eq_some_iff.mp hr, hfinish, hranges
  rw [happly, happly', hkeep]
  decide

end Rule

end Compendium
