import Compendium.Proofs.Pattern.Plain
import Compendium.Proofs.Pattern.Reading

/-!
# Literals

A segment without wildcards is a literal, which is compared with names.  It could be a glob like any
other segment: the glob of its text compiles, and accepts that text alone, also if it holds
characters that mean something elsewhere, as braces, commas, brackets and signs of negation do.  So
comparing is a shortcut that no pattern tells apart.
-/

namespace Compendium.Segment

/-! ### Globs in place of literals -/

@[simp]
theorem accepts_byGlob (segment : Segment) (name : List Char) :
  segment.byGlob.accepts name = segment.accepts name
  := by
  cases segment with
  | literal raw =>
    rw [Bool.eq_iff_iff, accepts_byGlob_literal_iff, accepts, decide_eq_true_iff, eq_comm]
  | _ => rfl

theorem takes_byGlob_iff (segment : Segment) (piece : List (List Char)) :
  segment.byGlob.Takes piece ↔ segment.Takes piece
  := by
  cases segment with
  | literal raw =>
    have hglob : byGlob (.literal raw) ≠ .anyDepth := by simp [byGlob]
    rw [takes_iff hglob, takes_iff (by simp)]
    simp only [accepts_byGlob]
  | _ => rfl

theorem acceptAll_map_byGlob (segments : List Segment) (names : List (List Char)) :
  acceptAll (segments.map byGlob) names = acceptAll segments names
  := by
  induction segments generalizing names with
  | nil => rfl
  | cons segment rest ih =>
    rw [Bool.eq_iff_iff, List.map_cons, acceptAll_cons_iff, acceptAll_cons_iff]
    simp only [takes_byGlob_iff, ih]

/-- A pattern matches the same with globs in place of its literals. -/
theorem matchesNames_map_byGlob (p : Pattern) (names : List (List Char)) (isDir : Bool) :
  { p with segments := p.segments.map byGlob }.matchesNames names isDir
    = p.matchesNames names isDir
  := by
  apply Pattern.matchesNames_congr
  · rfl
  · intro _
    rfl
  · intro names _
    apply acceptAll_map_byGlob

/-! ### The shortcut -/

/-- A text without wildcards is read as a literal.  The glob of the text compiles too, to a token
for each character, and accepts a name if and only if that is the text.  So no pattern matches
differently for having literals where it could have globs. -/
theorem literal_eq_glob {raw : List Char} (h : ∀ c ∈ raw, c ∉ ['?', '*', '[', '\\']) :
  read raw = .ok (.literal raw)
    ∧ ofGlobText (globText false raw) = .ok (byGlob (.literal raw))
    ∧ (∀ name, (byGlob (.literal raw)).accepts name = true ↔ name = raw)
    ∧ ∀ (p : Pattern) (names : List (List Char)) (isDir : Bool),
      { p with segments := p.segments.map byGlob }.matchesNames names isDir
        = p.matchesNames names isDir
  := by
  have hplain : raw.any isWild = false := by
    apply List.any_eq_false.mpr
    intro c hc
    rw [isWild_eq_false_iff.mpr (h c hc)]
    apply Bool.false_ne_true
  have hdepth : raw ≠ ['*', '*'] := by
    rintro rfl
    simp at h
  refine ⟨?_, ofGlobText_of_plain hplain, accepts_byGlob_literal_iff raw, matchesNames_map_byGlob⟩
  rw [read, if_neg hdepth, hplain]
  rfl

/-- The text `{a,!}]-` is written with two backslashes for its glob.  The glob is no choice and no
class, and accepts none of the names that these would. -/
theorem literal_eq_glob_marks :
  let raw := ['{', 'a', ',', '!', '}', ']', '-']
  (∀ c ∈ raw, c ∉ ['?', '*', '[', '\\'])
    ∧ globText false raw = ['\\', '{', 'a', ',', '!', '\\', '}', ']', '-']
    ∧ ofGlobText (globText false raw) = .ok (byGlob (.literal raw))
    ∧ (byGlob (.literal raw)).accepts raw = true
    ∧ (byGlob (.literal raw)).accepts ['a', ']', '-'] = false
  := by
  intro raw
  have hraw : ∀ c ∈ raw, c ∉ ['?', '*', '[', '\\'] := by simp [raw]
  obtain ⟨-, hglob, haccepts, -⟩ := literal_eq_glob hraw
  use hraw, rfl, hglob, (haccepts raw).mpr rfl
  rw [Bool.eq_false_iff, ne_eq, haccepts]
  decide

end Compendium.Segment
