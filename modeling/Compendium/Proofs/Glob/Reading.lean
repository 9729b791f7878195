import Mathlib.Data.List.Basic
import Compendium.Glob

/-!
# Reading globs

What `readFrom` does outside a choice, by the next character of the text, as long as no two stars
stand behind each other.  A class is read up to the first closing bracket behind its first member,
so what follows it has no part in its ranges.
-/

namespace Compendium.Glob

variable {tokens : List Token} {before : Option Char} {rest : List Char}

/-! ### Outside a class -/

theorem readFrom_nil :
  readFrom ⟨tokens, []⟩ before [] = .ok tokens.reverse
  := by
  rw [readFrom]

theorem readFrom_question :
  readFrom ⟨tokens, []⟩ before ('?' :: rest) = readFrom ⟨.any :: tokens, []⟩ (some '?') rest
  := by
  rw [readFrom]
  rfl

/-- A star with no star behind it. -/
theorem readFrom_star (h : rest.head? ≠ some '*') :
  readFrom ⟨tokens, []⟩ before ('*' :: rest) = readFrom ⟨.star :: tokens, []⟩ (some '*') rest
  := by
  rw [readFrom]
  · rfl
  · rintro rest rfl
    simp at h

theorem readFrom_escape_nil :
  readFrom ⟨tokens, []⟩ before ['\\'] = .error .danglingEscape
  := by
  rw [readFrom]

theorem readFrom_escape (c : Char) :
  readFrom ⟨tokens, []⟩ before ('\\' :: c :: rest)
    = readFrom ⟨.literal c :: tokens, []⟩ (some c) rest
  := by
  rw [readFrom]
  rfl

/-- Any other character stands for itself. -/
theorem readFrom_plain {c : Char} (h : c ∉ ['?', '*', '[', '{', '}', '\\']) :
  readFrom ⟨tokens, []⟩ before (c :: rest) = readFrom ⟨.literal c :: tokens, []⟩ (some c) rest
  := by
  simp only [List.mem_cons, not_or, List.not_mem_nil] at h
  by_cases hc : c = ','
  · subst hc
    rw [readFrom]
    rfl
  · rw [readFrom]
    · rfl
    all_goals simp_all

/-! ### Classes -/

/-- A class, by whether it begins with a sign of negation. -/
theorem readFrom_class :
  (readFrom ⟨tokens, []⟩ before ('[' :: rest)).toOption
    = let negated := rest.head? = some '!' ∨ rest.head? = some '^'
      (readClass ⟨[], true, false⟩ (if negated then rest.tail else rest)).toOption.bind
        fun (ranges, behind) =>
          (readFrom ⟨.charClass negated ranges :: tokens, []⟩ (some ']') behind).toOption
  := by
  rw [readFrom]
  dsimp only
  split <;> rename_i heq <;> rw [heq] <;> rfl

theorem readFrom_negated {sign : Char} (h : sign = '!' ∨ sign = '^') :
  (readFrom ⟨tokens, []⟩ before ('[' :: sign :: rest)).toOption
    = (readClass ⟨[], true, false⟩ rest).toOption.bind fun (ranges, behind) =>
        (readFrom ⟨.charClass true ranges :: tokens, []⟩ (some ']') behind).toOption
  := by
  simp [readFrom_class, h]

theorem readFrom_listed (h : ¬(rest.head? = some '!' ∨ rest.head? = some '^')) :
  (readFrom ⟨tokens, []⟩ before ('[' :: rest)).toOption
    = (readClass ⟨[], true, false⟩ rest).toOption.bind fun (ranges, behind) =>
        (readFrom ⟨.charClass false ranges :: tokens, []⟩ (some ']') behind).toOption
  := by
  simp [readFrom_class, h]

/-- The ranges that the members of a class stand for, unless one of them is backwards. -/
def ranges? (members : List Char) : Option (List (Char × Char)) :=
  (readClass ⟨[], true, false⟩ (members ++ [']'])).toOption.map Prod.fst

/-- The first member of a class is a member whatever it is. -/
theorem readClass_first (c : Char) :
  readClass ⟨[], true, false⟩ (c :: rest) = readClass ⟨[(c, c)], false, false⟩ rest
  := by
  rw [readClass]
  simp [ClassState.add]

/-- Behind its first member, the state of a class stays so. -/
theorem ClassState.first_close {s s' : ClassState} {c : Char} (h : s.close c = .ok s') :
  s'.first = s.first ∨ s'.first = false
  := by
  unfold ClassState.close at h
  split at h
  · obtain rfl := Except.ok.inj h
    left
    rfl
  · split at h
    · contradiction
    · obtain rfl := Except.ok.inj h
      right
      rfl

/-- What is behind a class is left as it is. -/
theorem readClass_append {s : ClassState} (hs : s.first = false) {members : List Char}
    (h : ']' ∉ members) (behind : List Char) :
  (readClass s (members ++ ']' :: behind)).toOption
    = (readClass s (members ++ [']'])).toOption.map fun (ranges, _) => (ranges, behind)
  := by
  induction members generalizing s with
  | nil => simp [readClass, hs, Except.toOption]
  | cons c members ih =>
    obtain ⟨hc, hmembers⟩ := not_or.mp (mt List.mem_cons.mpr h)
    simp only [List.cons_append, readClass, Ne.symm hc, false_and, if_false]
    split
    · exact ih hs hmembers
    · split
      · split
        · rename_i s' hclose
          have hs' : s'.first = false := by
            rcases ClassState.first_close hclose with h' | h'
            · apply h'.trans hs
            · apply h'
          apply ih hs' hmembers
        · rfl
      · apply ih rfl hmembers

/-- A class with no closing bracket is none. -/
theorem readClass_unclosed {s : ClassState} {members : List Char} (h : ']' ∉ members) :
  (readClass s members).toOption = none
  := by
  induction members generalizing s with
  | nil => rfl
  | cons c members ih =>
    obtain ⟨hc, hmembers⟩ := not_or.mp (mt List.mem_cons.mpr h)
    simp only [readClass, Ne.symm hc, false_and, if_false]
    split
    · apply ih hmembers
    · split
      · split
        · apply ih hmembers
        · rfl
      · apply ih hmembers

/-- A class ends with the first closing bracket behind its first member. -/
theorem readClass_closed (c : Char) {members : List Char} (h : ']' ∉ members)
    (behind : List Char) :
  (readClass ⟨[], true, false⟩ (c :: members ++ ']' :: behind)).toOption
    = (ranges? (c :: members)).map (·, behind)
  := by
  rw [ranges?, List.cons_append, List.cons_append, readClass_first, readClass_first,
    readClass_append rfl h, Option.map_map]
  rfl

end Compendium.Glob
