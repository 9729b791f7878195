import Mathlib.Data.List.SplitBy
import Compendium.Sink
import Compendium.Proofs.Document.Fence

/-!
# The body of a text block

Between the fences of a text block stand the lines of the file, each with an end.  In the block
of a Markdown file every run of backticks is turned for itself: as many of them as make whole
fences become apostrophes, and the one or two that are left over stay.  As a run ends where its
character does, what is left over never meets other backticks, and no fence comes up again.
-/

namespace Compendium.Text

variable {old new cs : List Char}

/-- A text keeps its length when what is turned is as long as what it turns into. -/
theorem length_replaceAll (hold : old ≠ []) (h : old.length = new.length) (cs : List Char) :
  (replaceAll old new 0 cs).length = cs.length
  := by
  induction n : cs.length using Nat.strong_induction_on generalizing cs with
  | h n ih =>
    subst n
    by_cases hstart : old <+: cs
    · obtain ⟨rest, rfl⟩ := hstart
      have hpos := List.length_pos_iff.mpr hold
      have hrest := ih rest.length (by simp; omega) rest rfl
      rw [replaceAll_append hold, List.length_append, List.length_append, hrest, h]
    · cases cs with
      | nil => rfl
      | cons c cs =>
        rw [replaceAll_cons hstart, List.length_cons, ih cs.length (by simp) cs rfl,
          List.length_cons]

/-- A text without an occurrence stays. -/
theorem replaceAll_eq_self (h : ¬ old <:+: cs) :
  replaceAll old new 0 cs = cs
  := by
  induction cs with
  | nil => rfl
  | cons c cs ih =>
    rw [List.infix_cons_iff, not_or] at h
    rw [replaceAll_cons h.1, ih h.2]

end Compendium.Text

namespace Compendium.Document

/-! ### The parts of a block -/

/-- The start of the block of a text file, up to the end of the line with the first fence. -/
def opening (path : Path) : String :=
  String.ofList separator ++ "\n\n" ++ title path ++ "\n\n"
    ++ String.ofList fence ++ languageOf path ++ "\n"

/-- The end of the block of a text file. -/
def closing : String := String.ofList fence ++ "\n\n"

/-- Lines with their ends. -/
def bodyOf (lines : List String) : String := String.join (lines.map (· ++ "\n"))

theorem textBlock_eq (path : Path) (lines : List String) :
  textBlock path lines
    = opening path ++ bodyOf (lines.map (bodyLine (languageOf path))) ++ closing
  := by
  simp [textBlock, opening, closing, bodyOf, String.append_assoc, Function.comp_def]

theorem toList_bodyOf (lines : List String) :
  (bodyOf lines).toList = (lines.map String.toList).flatMap (· ++ ['\n'])
  := by
  have hend : "\n".toList = ['\n'] := rfl
  induction lines with
  | nil => rfl
  | cons line lines ih =>
    rw [bodyOf] at ih ⊢
    rw [List.map_cons, String.join_cons, String.toList_append, String.toList_append, ih, hend,
      List.map_cons, List.flatMap_cons]

section

variable {lines : List String} (h : ∀ line ∈ lines, '\n' ∉ line.toList)

include h

/-- Lines that hold no end of a line are found again in their body. -/
theorem pieces_bodyOf :
  Text.pieces '\n' (bodyOf lines).toList = lines.map String.toList ++ [[]]
  := by
  simpa [bodyOf] using pieces_lines h []

/-- A body has as many lines as it is made of. -/
theorem length_linesOf_bodyOf :
  (Text.linesOf (bodyOf lines)).length = lines.length
  := by
  rw [Text.linesOf, Text.lines_of_pieces (pieces_bodyOf h)]
  simp

/-- A body has as many ends of lines as it has lines. -/
theorem count_bodyOf :
  (bodyOf lines).toList.count '\n' = lines.length
  := by
  rw [toList_bodyOf]
  induction lines with
  | nil => rfl
  | cons line lines ih =>
    obtain ⟨hline, hlines⟩ := List.forall_mem_cons.mp h
    rw [List.map_cons, List.flatMap_cons, List.count_append, List.count_append,
      List.count_eq_zero_of_not_mem hline, ih hlines]
    simp [Nat.add_comm]

end

/-! ### Runs of one character -/

/-- What becomes of a run of one character. -/
def neutralRun (run : List Char) : List Char :=
  if run.head? = some '\x60' then
    List.replicate (3 * (run.length / 3)) '\'' ++ List.replicate (run.length % 3) '\x60'
  else run

/-- No fence starts where backticks end before it could. -/
theorem not_fence_prefix {count : Nat} {rest : List Char} (hcount : count < 3)
    (hrest : rest.head? ≠ some '\x60') :
  ¬ fence <+: List.replicate count '\x60' ++ rest
  := by
  intro h
  have hlast : (List.replicate count '\x60' ++ rest)[count]? = some '\x60' := by
    rw [List.prefix_iff_getElem?.mp h count hcount]
    simp only [fence, List.getElem_replicate]
  rw [List.getElem?_append_right (by simp)] at hlast
  apply hrest
  simpa [List.head?_eq_getElem?] using hlast

/-- The backticks up to another character are turned for themselves. -/
theorem neutral_replicate_append (count : Nat) {rest : List Char}
    (hrest : rest.head? ≠ some '\x60') :
  Text.replaceAll fence neutralFence 0 (List.replicate count '\x60' ++ rest)
    = List.replicate (3 * (count / 3)) '\'' ++ List.replicate (count % 3) '\x60'
      ++ Text.replaceAll fence neutralFence 0 rest
  := by
  induction count using Nat.strong_induction_on with
  | h count ih =>
    rcases Nat.lt_or_ge count 3 with hcount | hcount
    · rw [Nat.div_eq_of_lt hcount, Nat.mod_eq_of_lt hcount]
      -- None of the backticks starts a fence.
      induction count with
      | zero => rfl
      | succ count ih' =>
        have hstart := not_fence_prefix hcount hrest
        rw [List.replicate_succ, List.cons_append] at hstart ⊢
        rw [Text.replaceAll_cons hstart, ih' (fun k hk => ih k (by omega)) (by omega)]
        rfl
    · obtain ⟨count, rfl⟩ := Nat.exists_eq_add_of_le hcount
      have hfence : List.replicate (3 + count) '\x60' = fence ++ List.replicate count '\x60' :=
        List.replicate_add 3 count '\x60'
      rw [hfence, List.append_assoc, Text.replaceAll_append fence_ne_nil,
        ih count (by omega), Nat.add_div_left count (by decide), Nat.add_mod_left,
        Nat.mul_succ, Nat.add_comm (3 * (count / 3)) 3, List.replicate_add]
      simp [neutralFence]

/-- Characters that are no backticks stay. -/
theorem neutral_append_of_notMem {run : List Char} (h : '\x60' ∉ run) (rest : List Char) :
  Text.replaceAll fence neutralFence 0 (run ++ rest)
    = run ++ Text.replaceAll fence neutralFence 0 rest
  := by
  induction run with
  | nil => rfl
  | cons c run ih =>
    rw [List.mem_cons, not_or] at h
    have hstart : ¬ fence <+: c :: (run ++ rest) := by
      intro hstart
      apply h.1 (List.cons_prefix_cons.mp hstart).1
    rw [List.cons_append, Text.replaceAll_cons hstart, ih h.2, List.cons_append]

/-- A run is turned for itself when another character follows it. -/
theorem neutral_run_append {run rest : List Char} (hrun : run.IsChain (· = ·))
    (hrest : ∀ c ∈ run.head?, rest.head? ≠ some c) :
  Text.replaceAll fence neutralFence 0 (run ++ rest)
    = neutralRun run ++ Text.replaceAll fence neutralFence 0 rest
  := by
  have hrepeated := List.isChain_eq_iff_eq_replicate.mp hrun
  by_cases hticks : run.head? = some '\x60'
  · have hrun := hrepeated '\x60' hticks
    rw [neutralRun, if_pos hticks, ← neutral_replicate_append run.length (hrest _ hticks),
      ← hrun]
  · rw [neutralRun, if_neg hticks]
    apply neutral_append_of_notMem
    intro hmem
    obtain ⟨c, hc⟩ :=
      Option.isSome_iff_exists.mp (List.isSome_head?.mpr (List.ne_nil_of_mem hmem))
    rw [hrepeated c hc] at hmem
    obtain rfl := List.eq_of_mem_replicate hmem
    apply hticks hc

/-- Runs that end where their character does are turned one by one. -/
theorem neutral_flatten {runs : List (List Char)}
    (hrun : ∀ run ∈ runs, run.IsChain (· = ·))
    (hmaximal : runs.IsChain fun run next =>
      ∃ hr hn, (run.getLast hr == next.head hn) = false) :
  Text.replaceAll fence neutralFence 0 runs.flatten = runs.flatMap neutralRun
  := by
  induction runs with
  | nil => rfl
  | cons run runs ih =>
    obtain ⟨hfirst, hlater⟩ := List.forall_mem_cons.mp hrun
    obtain ⟨hnext, hbehind⟩ := List.isChain_cons.mp hmaximal
    have hends : ∀ c ∈ run.head?, runs.flatten.head? ≠ some c := by
      intro c hc hsame
      cases runs with
      | nil => simp at hsame
      | cons next runs =>
        obtain ⟨hr, hn, hdiffers⟩ := hnext next rfl
        have hlast : run.getLast hr = c := by
          apply List.eq_of_mem_replicate (n := run.length)
          rw [← List.isChain_eq_iff_eq_replicate.mp hfirst c hc]
          apply List.getLast_mem hr
        rw [List.flatten_cons, List.head?_append_of_ne_nil _ hn,
          List.head?_eq_some_head hn] at hsame
        simp [hlast, Option.some.inj hsame] at hdiffers
    rw [List.flatten_cons, neutral_run_append hfirst hends, List.flatMap_cons,
      ih hlater hbehind]

/-- A line is turned run by run. -/
theorem neutral_eq_flatMap (line : List Char) :
  Text.replaceAll fence neutralFence 0 line = (line.splitBy (· == ·)).flatMap neutralRun
  := by
  have hrun : ∀ run ∈ line.splitBy (· == ·), run.IsChain (· = ·) := by
    intro run hmem
    simpa using List.isChain_of_mem_splitBy hmem
  rw [← neutral_flatten hrun (List.isChain_getLast_head_splitBy (· == ·) line),
    List.flatten_splitBy]

/-! ### Markdown files -/

/-- What a line of a Markdown file has become.  `splitBy` cuts the line into its maximal runs of
equal characters. -/
structure Neutralised (line written : String) : Prop where
  runs : written.toList = (line.toList.splitBy (· == ·)).flatMap neutralRun
  length : written.length = line.length
  no_fence : ¬ fence <:+: written.toList
  unchanged : ¬ fence <:+: line.toList → written = line
  again : bodyLine "markdown" written = written

/-- A line without a fence is written as it is. -/
theorem bodyLine_eq_self {line : String} (h : ¬ fence <:+: line.toList) :
  bodyLine "markdown" line = line
  := by
  rw [bodyLine, if_pos rfl, Text.replaceAll_eq_self h, String.ofList_toList]

theorem neutralised_bodyLine (line : String) :
  Neutralised line (bodyLine "markdown" line)
  := by
  have hwritten : (bodyLine "markdown" line).toList
      = Text.replaceAll fence neutralFence 0 line.toList := by
    rw [bodyLine, if_pos rfl, String.toList_ofList]
  have hnone : ¬ fence <:+: (bodyLine "markdown" line).toList := by
    rw [hwritten]
    apply not_fence_infix_neutral line.toList
  constructor
  · rw [hwritten, neutral_eq_flatMap]
  · rw [← String.length_toList, hwritten, Text.length_replaceAll fence_ne_nil (by decide),
      String.length_toList]
  · apply hnone
  · apply bodyLine_eq_self
  · apply bodyLine_eq_self hnone

/-- The body of the block that the writer makes for a Markdown file has one line for each line
of the file, in which each run of backticks has been turned for itself. -/
theorem markdown_body_neutralised (path : Path) (hp : languageOf path = "markdown")
    (lines : List String) :
  ∃ written : List String,
    Sink.writeText path lines = Sink.write (opening path ++ bodyOf written ++ closing)
    ∧ List.Forall₂ Neutralised lines written
    ∧ ((∀ line ∈ lines, '\n' ∉ line.toList) →
        Text.pieces '\n' (bodyOf written).toList = written.map String.toList ++ [[]])
  := by
  use lines.map (bodyLine (languageOf path))
  refine ⟨?_, ?_, ?_⟩
  · rw [Sink.writeText, textBlock_eq]
  · rw [hp, List.forall₂_map_right_iff, List.forall₂_same]
    intro line _
    apply neutralised_bodyLine line
  · intro h
    apply pieces_bodyOf
    intro written hmem
    obtain ⟨line, hline, rfl⟩ := List.mem_map.mp hmem
    apply notMem_bodyLine (h line hline)

/-- A line with seven backticks in a row, and one with an apostrophe between two. -/
theorem markdown_body_neutralised_runs :
  ∃ written : List String,
    Sink.writeText ⟨"a.md"⟩ ["\x60\x60\x60\x60\x60\x60\x60", "\x60'\x60"]
      = Sink.write (opening ⟨"a.md"⟩ ++ bodyOf written ++ closing)
    ∧ written = ["''''''\x60", "\x60'\x60"]
  := by
  obtain ⟨written, hblock, hlines, -⟩ := markdown_body_neutralised ⟨"a.md"⟩ (by decide)
    ["\x60\x60\x60\x60\x60\x60\x60", "\x60'\x60"]
  use written, hblock
  cases hlines with
  | cons hfirst hlines =>
    cases hlines with
    | cons hsecond hlines =>
      cases hlines
      rw [List.cons.injEq, List.cons.injEq]
      refine ⟨?_, ?_, rfl⟩
      · apply String.toList_inj.mp (hfirst.runs.trans (by decide))
      · apply String.toList_inj.mp (hsecond.runs.trans (by decide))

end Compendium.Document
