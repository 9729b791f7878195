import Mathlib.Data.List.DropRight
import Compendium.Text

/-!
# Trimming

Trimming leaves a text alone exactly if there is no blank at either end of it, and after trimming
there is none.
-/

namespace Compendium.Text

variable {cs : List Char}

theorem trimEnd_eq_rdropWhile (cs : List Char) :
  trimEnd cs = cs.rdropWhile isBlank
  := rfl

/-- Of a text that begins without blanks, trimming leaves a beginning. -/
theorem isPrefix_trim (cs : List Char) :
  trim cs <+: trimStart cs
  := List.rdropWhile_prefix isBlank (trimStart cs)

theorem trimStart_eq_self_iff :
  trimStart cs = cs ↔ ∀ c ∈ cs.head?, isBlank c = false
  := by
  cases cs with
  | nil => simp [trimStart]
  | cons c cs => simp [trimStart, List.dropWhile_eq_self_iff]

theorem trimEnd_eq_self_iff :
  trimEnd cs = cs ↔ ∀ c ∈ cs.getLast?, isBlank c = false
  := by
  rw [trimEnd_eq_rdropWhile, List.rdropWhile_eq_self_iff]
  by_cases h : cs = []
  · simp [h]
  · simp [h, List.getLast?_eq_some_getLast h]

/-- A text is left alone if it has no blank at its ends. -/
theorem trim_eq_self_iff :
  trim cs = cs ↔ (∀ c ∈ cs.head?, isBlank c = false) ∧ ∀ c ∈ cs.getLast?, isBlank c = false
  := by
  rw [← trimStart_eq_self_iff, ← trimEnd_eq_self_iff]
  constructor
  · intro h
    have hstart : trimStart cs = cs := by
      apply (List.dropWhile_suffix isBlank).eq_of_length_le
      have hprefix := isPrefix_trim cs
      rw [h] at hprefix
      apply hprefix.length_le
    use hstart
    rw [trim, hstart] at h
    apply h
  · rintro ⟨hstart, hend⟩
    rw [trim, hstart, hend]

theorem trim_trim (cs : List Char) :
  trim (trim cs) = trim cs
  := by
  rw [trim_eq_self_iff]
  constructor
  · intro c hc
    obtain ⟨more, hmore⟩ := isPrefix_trim cs
    have hhead : (trimStart cs).head? = some c := by
      rw [← hmore, List.head?_append, hc]
      rfl
    have hfirst := List.head?_dropWhile_not isBlank cs
    rw [← trimStart, hhead] at hfirst
    apply hfirst
  · intro c hc
    obtain ⟨hne, rfl⟩ := List.mem_getLast?_eq_getLast hc
    rw [← Bool.not_eq_true]
    apply List.rdropWhile_last_not isBlank (trimStart cs) hne

/-- A text that is blank is trimmed away. -/
theorem trimEnd_eq_nil_iff :
  trimEnd cs = [] ↔ cs.all isBlank = true
  := by
  rw [trimEnd_eq_rdropWhile, List.rdropWhile_eq_nil_iff, List.all_eq_true]

/-- Behind a text that does not end in a blank, trimming leaves that text alone. -/
theorem trimEnd_append (h : trimEnd cs = cs) (ds : List Char) :
  trimEnd (cs ++ ds) = cs ++ trimEnd ds
  := by
  induction ds using List.reverseRecOn with
  | nil => simpa [trimEnd] using h
  | append_singleton ds d ih =>
    rw [← List.append_assoc, trimEnd_eq_rdropWhile, trimEnd_eq_rdropWhile, List.rdropWhile_concat,
      List.rdropWhile_concat]
    split
    · apply ih
    · rw [List.append_assoc]

/-- Behind a trimmed text that is not empty, only the end is trimmed. -/
theorem trim_append_of_ne_nil (h : trim cs = cs) (hne : cs ≠ []) (ds : List Char) :
  trim (cs ++ ds) = cs ++ trimEnd ds
  := by
  obtain ⟨hstart, hend⟩ := trim_eq_self_iff.mp h
  have hself : trimStart (cs ++ ds) = cs ++ ds := by
    rw [trimStart_eq_self_iff, List.head?_append_of_ne_nil cs hne]
    apply hstart
  rw [trim, hself, trimEnd_append (trimEnd_eq_self_iff.mpr hend)]

theorem trim_append {ds : List Char} (hc : trim cs = cs) (hd : trim ds = ds) :
  trim (cs ++ ds) = cs ++ ds
  := by
  rw [trim_eq_self_iff] at hc hd ⊢
  simp only [List.head?_append, List.getLast?_append, Option.mem_def, Option.or_eq_some_iff]
  constructor
  · rintro c (hhead | ⟨-, hhead⟩)
    · apply hc.1 c hhead
    · apply hd.1 c hhead
  · rintro c (hlast | ⟨-, hlast⟩)
    · apply hd.2 c hlast
    · apply hc.2 c hlast

end Compendium.Text
