import Mathlib.Data.List.Basic
import Compendium.Text

/-!
# Cutting and joining

Cutting a text at a separator and joining the pieces gives the text back, and joining pieces
without the separator and cutting the text gives the pieces back.  The lines of a text are its
pieces between line feeds, so that what follows a line feed has lines of its own.
-/

namespace Compendium.Text

variable {sep : Char}

/-- There is at least one piece. -/
theorem pieces_ne_nil (sep : Char) (cs : List Char) :
  pieces sep cs ≠ []
  := by
  cases cs with
  | nil => simp [pieces]
  | cons c cs =>
    rw [pieces]
    split
    · simp
    · split <;> simp

@[simp]
theorem pieces_nil (sep : Char) :
  pieces sep [] = [[]]
  := rfl

@[simp]
theorem pieces_cons_self (sep : Char) (cs : List Char) :
  pieces sep (sep :: cs) = [] :: pieces sep cs
  := by
  simp [pieces]

/-- A character that does not separate belongs to the first piece. -/
theorem pieces_cons_of_ne {c : Char} (h : c ≠ sep) {cs piece : List Char}
    {rest : List (List Char)} (hcs : pieces sep cs = piece :: rest) :
  pieces sep (c :: cs) = (c :: piece) :: rest
  := by
  simp [pieces, h, hcs]

/-- A text without the separator is one piece. -/
theorem pieces_of_notMem {cs : List Char} (h : sep ∉ cs) :
  pieces sep cs = [cs]
  := by
  induction cs with
  | nil => rfl
  | cons c cs ih =>
    simp only [List.mem_cons, not_or] at h
    apply pieces_cons_of_ne (Ne.symm h.1) (ih h.2)

/-- A separator between two texts separates their pieces. -/
theorem pieces_append (cs ds : List Char) :
  pieces sep (cs ++ sep :: ds) = pieces sep cs ++ pieces sep ds
  := by
  induction cs with
  | nil => simp
  | cons c cs ih =>
    by_cases h : c = sep
    · subst h
      simp [ih]
    · obtain ⟨piece, rest, hcs⟩ := List.exists_cons_of_ne_nil (pieces_ne_nil sep cs)
      rw [List.cons_append, pieces_cons_of_ne h (ih.trans (by rw [hcs]; rfl)),
        pieces_cons_of_ne h hcs]
      rfl

/-- No piece holds the separator. -/
theorem notMem_of_mem_pieces {cs piece : List Char} (h : piece ∈ pieces sep cs) :
  sep ∉ piece
  := by
  induction cs generalizing piece with
  | nil =>
    obtain rfl := List.mem_singleton.mp h
    simp
  | cons c cs ih =>
    by_cases hc : c = sep
    · subst hc
      rw [pieces_cons_self, List.mem_cons] at h
      rcases h with rfl | h
      · simp
      · apply ih h
    · obtain ⟨first, rest, hcs⟩ := List.exists_cons_of_ne_nil (pieces_ne_nil sep cs)
      rw [pieces_cons_of_ne hc hcs, List.mem_cons] at h
      rw [hcs] at ih
      rcases h with rfl | h
      · rw [List.mem_cons, not_or]
        use Ne.symm hc
        apply ih List.mem_cons_self
      · apply ih (List.mem_cons_of_mem first h)

/-- A piece has no characters but those of the text. -/
theorem subset_of_mem_pieces {cs piece : List Char} (h : piece ∈ pieces sep cs) :
  piece ⊆ cs
  := by
  induction cs generalizing piece with
  | nil =>
    obtain rfl := List.mem_singleton.mp h
    apply List.Subset.refl []
  | cons c cs ih =>
    by_cases hc : c = sep
    · subst hc
      rw [pieces_cons_self, List.mem_cons] at h
      rcases h with rfl | h
      · apply List.nil_subset _
      · apply List.subset_cons_of_subset c (ih h)
    · obtain ⟨first, rest, hcs⟩ := List.exists_cons_of_ne_nil (pieces_ne_nil sep cs)
      rw [pieces_cons_of_ne hc hcs, List.mem_cons] at h
      rw [hcs] at ih
      rcases h with rfl | h
      · apply List.cons_subset_cons c (ih List.mem_cons_self)
      · apply List.subset_cons_of_subset c (ih (List.mem_cons_of_mem first h))

/-! ### Joining -/

theorem join_cons {sep piece : List Char} {rest : List (List Char)} (h : rest ≠ []) :
  join sep (piece :: rest) = piece ++ sep ++ join sep rest
  := by
  cases rest with
  | nil => contradiction
  | cons => rfl

/-- A separator stands between two joined texts. -/
theorem join_append {sep : List Char} {pieces rest : List (List Char)}
    (hp : pieces ≠ []) (hr : rest ≠ []) :
  join sep (pieces ++ rest) = join sep pieces ++ sep ++ join sep rest
  := by
  induction pieces with
  | nil => contradiction
  | cons piece pieces ih =>
    by_cases h : pieces = []
    · subst h
      apply join_cons hr
    · rw [List.cons_append, join_cons (by simp [h]), join_cons h, ih h]
      simp

/-- Joining the pieces of a text gives the text. -/
theorem join_pieces (sep : Char) (cs : List Char) :
  join [sep] (pieces sep cs) = cs
  := by
  induction cs with
  | nil => rfl
  | cons c cs ih =>
    by_cases h : c = sep
    · subst h
      rw [pieces_cons_self, join_cons (pieces_ne_nil c cs), ih]
      rfl
    · obtain ⟨piece, rest, hcs⟩ := List.exists_cons_of_ne_nil (pieces_ne_nil sep cs)
      rw [pieces_cons_of_ne h hcs]
      rw [hcs] at ih
      cases rest with
      | nil => simpa [join] using ih
      | cons => simpa [join] using ih

/-- Cutting joined pieces gives the pieces, if none of them holds the separator. -/
theorem pieces_join {names : List (List Char)} (hn : names ≠ []) (h : ∀ n ∈ names, sep ∉ n) :
  pieces sep (join [sep] names) = names
  := by
  induction names with
  | nil => contradiction
  | cons name names ih =>
    have hname := pieces_of_notMem (h name (by simp))
    by_cases hr : names = []
    · subst hr
      apply hname
    · rw [join_cons hr, List.append_assoc, List.singleton_append, pieces_append, hname,
        ih hr fun n hn => h n (by simp [hn])]
      rfl

/-- Two pieces or more have a separator before the last of them. -/
theorem eq_append_of_pieces {cs last : List Char} {before : List (List Char)}
    (h : pieces sep cs = before ++ [last]) (hb : before ≠ []) :
  ∃ ds, cs = ds ++ sep :: last
  := by
  use join [sep] before
  rw [← join_pieces sep cs, h, join_append hb (by simp)]
  simp [join]

/-! ### Beginnings of a text -/

theorem after?_eq_some_iff {start cs rest : List Char} :
  after? start cs = some rest ↔ cs = start ++ rest
  := by
  induction start generalizing cs with
  | nil => simp [after?]
  | cons s start ih =>
    cases cs with
    | nil => simp [after?]
    | cons c cs =>
      by_cases h : s = c
      · subst h
        simp [after?, ih]
      · simp [after?, h, Ne.symm h]

theorem after?_isSome_iff {start cs : List Char} :
  (after? start cs).isSome = true ↔ ∃ rest, cs = start ++ rest
  := by
  simp [Option.isSome_iff_exists, after?_eq_some_iff]

/-! ### Lines -/

/-- The lines are the pieces that a line feed ends, and the last one unless it is empty. -/
theorem lines_of_pieces {cs last : List Char} {ended : List (List Char)}
    (h : pieces '\n' cs = ended ++ [last]) :
  lines cs = ended.map dropReturn ++ if last = [] then [] else [last]
  := by
  rw [lines, h, List.reverse_append, List.reverse_singleton, List.singleton_append]
  simp only [List.reverse_reverse]
  split <;> simp

/-- What follows a line feed has lines of its own. -/
theorem lines_append (cs ds : List Char) :
  lines (cs ++ '\n' :: ds) = lines (cs ++ ['\n']) ++ lines ds
  := by
  obtain ⟨ended, last, hds⟩ : ∃ ended last, pieces '\n' ds = ended ++ [last] :=
    ⟨_, _, (List.dropLast_append_getLast (pieces_ne_nil '\n' ds)).symm⟩
  have hall : pieces '\n' (cs ++ '\n' :: ds) = (pieces '\n' cs ++ ended) ++ [last] := by
    rw [pieces_append, hds, List.append_assoc]
  have hcs : pieces '\n' (cs ++ ['\n']) = pieces '\n' cs ++ [[]] := pieces_append cs []
  rw [lines_of_pieces hall, lines_of_pieces hcs, lines_of_pieces hds]
  simp

theorem linesOf_append (text more : String) :
  linesOf (text ++ "\n" ++ more) = linesOf (text ++ "\n") ++ linesOf more
  := by
  have hend : "\n".toList = ['\n'] := rfl
  simp only [linesOf, String.toList_append, hend, List.append_assoc, List.singleton_append,
    lines_append text.toList more.toList, List.map_append]

end Compendium.Text
