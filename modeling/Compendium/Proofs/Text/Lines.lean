import Compendium.Proofs.Text.Pieces

/-!
# What lines make again

The lines of a text, each with a line feed behind it, make the text again, but for two things:
the carriage return that is right before a line feed is not there, and a last line that nothing
has ended is ended.
-/

namespace Compendium.Text

/-- The text without the carriage return that is right before a line feed. -/
def plainEnds : List Char → List Char
  | '\r' :: '\n' :: cs => '\n' :: plainEnds cs
  | c :: cs => c :: plainEnds cs
  | [] => []

/-- The text with a line feed at its end, unless it is empty. -/
def closed (cs : List Char) : List Char :=
  if cs = [] ∨ cs.getLast? = some '\n' then cs else cs ++ ['\n']

/-! ### One line -/

theorem dropReturn_cons_cons (c d : Char) (line : List Char) :
  dropReturn (c :: d :: line) = c :: dropReturn (d :: line)
  := by
  obtain ⟨before, last, heq⟩ := List.eq_nil_or_concat' (d :: line) |>.resolve_left (by simp)
  rw [heq, ← List.cons_append]
  by_cases hlast : last = '\r'
  · simp [dropReturn, hlast]
  · simp [dropReturn, hlast]

theorem dropReturn_subset (line : List Char) :
  dropReturn line ⊆ line
  := by
  intro c hc
  rw [dropReturn] at hc
  split at hc
  · rename_i rest heq
    rw [← List.mem_reverse, heq]
    apply List.mem_cons_of_mem _ (List.mem_reverse.mp hc)
  · apply hc

theorem plainEnds_cons_of_ne {c : Char} {cs : List Char} (h : cs.head? ≠ some '\n') :
  plainEnds (c :: cs) = c :: plainEnds cs
  := by
  cases cs with
  | nil =>
    rw [plainEnds]
    simp
  | cons d cs =>
    rw [plainEnds]
    rintro rest - heq
    simp [(List.cons.inj heq).1] at h

theorem plainEnds_feed (cs : List Char) :
  plainEnds ('\n' :: cs) = '\n' :: plainEnds cs
  := by
  rw [plainEnds]
  simp

/-- A line feed ends a line, together with a carriage return before it. -/
theorem plainEnds_line {line : List Char} (h : '\n' ∉ line) (rest : List Char) :
  plainEnds (line ++ '\n' :: rest) = dropReturn line ++ '\n' :: plainEnds rest
  := by
  induction line with
  | nil => apply plainEnds_feed rest
  | cons c line ih =>
    rw [List.mem_cons, not_or] at h
    cases line with
    | nil =>
      by_cases hc : c = '\r'
      · subst hc
        rfl
      · rw [List.singleton_append, plainEnds, plainEnds_feed]
        · simp [dropReturn, hc]
        · rintro cs rfl
          apply absurd rfl hc
    | cons d line =>
      have hd : '\n' ≠ d := fun heq => h.2 (heq ▸ List.mem_cons_self)
      rw [List.cons_append, plainEnds_cons_of_ne (by simpa using hd.symm), ih h.2,
        dropReturn_cons_cons]
      rfl

/-- A text that is one line has no line feed to rid of a carriage return. -/
theorem plainEnds_of_notMem {cs : List Char} (h : '\n' ∉ cs) :
  plainEnds cs = cs
  := by
  induction cs with
  | nil => rfl
  | cons c cs ih =>
    rw [List.mem_cons, not_or] at h
    have hnext : cs.head? ≠ some '\n' := fun hhead => h.2 (List.mem_of_mem_head? hhead)
    rw [plainEnds_cons_of_ne hnext, ih h.2]

/-- What is before a line feed does not matter for the end of the text. -/
theorem closed_append (cs ds : List Char) :
  closed (cs ++ '\n' :: ds) = cs ++ '\n' :: closed ds
  := by
  rw [closed, closed]
  cases ds with
  | nil => simp
  | cons d ds =>
    simp only [List.append_eq_nil_iff, List.cons_ne_nil, and_false, false_or]
    rw [List.getLast?_append_of_ne_nil _ (by simp), List.getLast?_cons_cons]
    split <;> simp

/-! ### All lines -/

/-- The line before the first line feed is the first line. -/
theorem lines_line {line : List Char} (h : '\n' ∉ line) (rest : List Char) :
  lines (line ++ '\n' :: rest) = dropReturn line :: lines rest
  := by
  have hpieces : pieces '\n' (line ++ ['\n']) = [line] ++ [[]] := by
    rw [pieces_append, pieces_of_notMem h, pieces_nil]
  rw [lines_append, lines_of_pieces hpieces]
  rfl

/-- A text without line feeds is one line, unless it is empty. -/
theorem lines_of_notMem {cs : List Char} (h : '\n' ∉ cs) :
  lines cs = if cs = [] then [] else [cs]
  := by
  have hpieces : pieces '\n' cs = [] ++ [cs] := pieces_of_notMem h
  rw [lines_of_pieces hpieces]
  rfl

/-- A text is taken line by line. -/
theorem induction_lines {motive : List Char → Prop} (cs : List Char)
    (last : ∀ cs, '\n' ∉ cs → motive cs)
    (line : ∀ line rest, '\n' ∉ line → motive rest → motive (line ++ '\n' :: rest)) :
  motive cs
  := by
  by_cases hmem : '\n' ∈ cs
  · obtain ⟨first, rest, heq, hfirst⟩ := List.eq_append_cons_of_mem hmem
    rw [heq]
    apply line first rest hfirst (induction_lines rest last line)
  · apply last cs hmem
termination_by cs.length
decreasing_by
  simp only [heq, List.length_append, List.length_cons]
  omega

/-- The lines of a text with their ends are the text with plain ends. -/
theorem flatMap_lines (cs : List Char) :
  (lines cs).flatMap (· ++ ['\n']) = closed (plainEnds cs)
  := by
  induction cs using induction_lines with
  | last cs h =>
    rw [lines_of_notMem h, plainEnds_of_notMem h, closed]
    by_cases hempty : cs = []
    · simp [hempty]
    · have hlast : cs.getLast? ≠ some '\n' := fun hlast => h (List.mem_of_getLast? hlast)
      simp [hempty, hlast]
  | line line rest h ih =>
    rw [lines_line h, List.flatMap_cons, ih, plainEnds_line h, closed_append,
      List.append_assoc, List.singleton_append]

/-- No line holds a line feed. -/
theorem notMem_of_mem_lines {cs line : List Char} (h : line ∈ lines cs) :
  '\n' ∉ line
  := by
  induction cs using induction_lines with
  | last cs hcs =>
    rw [lines_of_notMem hcs] at h
    split at h
    · simp at h
    · rwa [List.mem_singleton.mp h]
  | line first rest hfirst ih =>
    rw [lines_line hfirst, List.mem_cons] at h
    rcases h with rfl | h
    · intro hmem
      apply hfirst (dropReturn_subset first hmem)
    · apply ih h

end Compendium.Text
