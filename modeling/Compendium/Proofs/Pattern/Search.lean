import Compendium.Proofs.Pattern.Cut

/-!
# Searching for a cut

Whether names can be cut for segments is found out by a search: behind `**` the ends of the names
are tried one after the other, until one is accepted.  `SearchOrder.Returns` says what such a search
returns, in whatever order it tries them.  It is inductive, so a search that returns has come to an
end.  Every search returns, and all return the same.
-/

namespace Compendium.Segment

/-! ### Searches -/

/-- An order in which the ends of the names are tried behind `**`.  It may depend on the segments
that follow.  Every end is tried, and nothing else is. -/
structure SearchOrder where
  tries : List Segment → List (List Char) → List (List (List Char))
  mem_tries_iff : ∀ rest names below, below ∈ tries rest names ↔ ∃ piece, names = piece ++ below

namespace SearchOrder

/-- The end behind the longest piece first. -/
def longestFirst : SearchOrder where
  tries _ names := (ends names).reverse
  mem_tries_iff _ names below := by rw [List.mem_reverse, mem_ends_iff]

example : longestFirst.tries [] [['a'], ['b']] = [[], [['b']], [['a'], ['b']]] := rfl

/-- What the search returns that lays segments over names, by what the searches for the rest of the
segments return. -/
inductive Returns (order : SearchOrder) : List Segment → List (List Char) → Bool → Prop
  | nil (names : List (List Char)) : Returns order [] names names.isEmpty
  | missing {segment : Segment} (h : segment ≠ .anyDepth) (rest : List Segment) :
    Returns order (segment :: rest) [] false
  | refused {segment : Segment} (h : segment ≠ .anyDepth) (rest : List Segment)
    {name : List Char} (hname : segment.accepts name = false) (below : List (List Char)) :
    Returns order (segment :: rest) (name :: below) false
  | accepted {segment : Segment} (h : segment ≠ .anyDepth) {rest : List Segment}
    {name : List Char} (hname : segment.accepts name = true) {below : List (List Char)}
    {answer : Bool} (hbelow : Returns order rest below answer) :
    Returns order (segment :: rest) (name :: below) answer
  /-- The ends that are tried before an accepted one fail, and those behind it are not tried. -/
  | found {rest : List Segment} {names below : List (List Char)}
    {before after : List (List (List Char))}
    (htries : order.tries rest names = before ++ below :: after)
    (hbefore : ∀ failed ∈ before, Returns order rest failed false)
    (hbelow : Returns order rest below true) :
    Returns order (.anyDepth :: rest) names true
  | exhausted {rest : List Segment} {names : List (List Char)}
    (htries : ∀ failed ∈ order.tries rest names, Returns order rest failed false) :
    Returns order (.anyDepth :: rest) names false

end SearchOrder

variable {order : SearchOrder} {segment : Segment}

/-! ### What a search returns -/

/-- Behind `**` it does not matter in which order the ends are tried. -/
theorem SearchOrder.any_tries (order : SearchOrder) (rest : List Segment)
    (names : List (List Char)) :
  (order.tries rest names).any (acceptAll rest) = acceptAll (.anyDepth :: rest) names
  := by
  rw [acceptAll, Bool.eq_iff_iff, List.any_eq_true, List.any_eq_true]
  simp only [order.mem_tries_iff, mem_ends_iff]

/-- What a search returns is right. -/
theorem SearchOrder.Returns.eq {segments : List Segment} {names : List (List Char)} {answer : Bool}
    (h : order.Returns segments names answer) :
  answer = acceptAll segments names
  := by
  induction h with
  | nil names => rfl
  | missing h rest => rw [acceptAll_cons_nil h]
  | refused h rest hname below => rw [acceptAll_cons_cons h, hname, Bool.false_and]
  | accepted h hname _ ih => rw [acceptAll_cons_cons h, hname, Bool.true_and, ih]
  | found htries _ _ _ ih =>
    rw [← order.any_tries, htries, List.any_append, List.any_cons, ← ih, Bool.true_or,
      Bool.or_true]
  | exhausted _ ih =>
    rw [← order.any_tries, eq_comm, List.any_eq_false]
    intro failed hfailed
    rw [← ih failed hfailed]
    apply Bool.false_ne_true

/-- The ends are tried up to the first that is accepted, or one and all. -/
theorem SearchOrder.returns_anyDepth {rest : List Segment}
    (h : ∀ below, order.Returns rest below (acceptAll rest below)) (names : List (List Char)) :
  order.Returns (.anyDepth :: rest) names (acceptAll (.anyDepth :: rest) names)
  := by
  have hfailed : ∀ failed, acceptAll rest failed = false → order.Returns rest failed false := by
    intro failed hfailed
    rw [← hfailed]
    apply h
  rw [← order.any_tries]
  cases hfind : (order.tries rest names).find? (acceptAll rest) with
  | none =>
    have hnone : ∀ failed ∈ order.tries rest names, ¬acceptAll rest failed = true :=
      List.find?_eq_none.mp hfind
    rw [List.any_eq_false.mpr hnone]
    apply Returns.exhausted
    intro failed hmem
    apply hfailed
    apply Bool.eq_false_iff.mpr (hnone failed hmem)
  | some below =>
    obtain ⟨hbelow, before, after, htries, hbefore⟩ := List.find?_eq_some_iff_append.mp hfind
    rw [htries, List.any_append, List.any_cons, hbelow, Bool.true_or, Bool.or_true]
    apply Returns.found htries
    · intro failed hmem
      apply hfailed
      simpa using hbefore failed hmem
    · rw [← hbelow]
      apply h

/-- Every search returns.  The induction is on the segments, of which each end that is tried has one
less to be cut for. -/
theorem SearchOrder.returns (order : SearchOrder) (segments : List Segment)
    (names : List (List Char)) :
  order.Returns segments names (acceptAll segments names)
  := by
  induction segments generalizing names with
  | nil => apply Returns.nil
  | cons segment rest ih =>
    by_cases h : segment = .anyDepth
    · subst h
      apply returns_anyDepth ih
    · cases names with
      | nil =>
        rw [acceptAll_cons_nil h]
        apply Returns.missing h
      | cons name below =>
        rw [acceptAll_cons_cons h]
        cases hname : segment.accepts name with
        | false => apply Returns.refused h rest hname
        | true => apply Returns.accepted h hname (ih below)

theorem SearchOrder.returns_iff {segments : List Segment} {names : List (List Char)}
    {answer : Bool} :
  order.Returns segments names answer ↔ answer = acceptAll segments names
  := by
  constructor
  · apply Returns.eq
  · rintro rfl
    apply order.returns

/-! ### Adjacent `**` -/

/-- The segments at the end may be exchanged for others that accept the same names. -/
theorem acceptAll_append_congr {tail tail' : List Segment}
    (h : ∀ names, acceptAll tail names = acceptAll tail' names) (before : List Segment)
    (names : List (List Char)) :
  acceptAll (before ++ tail) names = acceptAll (before ++ tail') names
  := by
  induction before generalizing names with
  | nil => apply h
  | cons segment before ih =>
    rw [Bool.eq_iff_iff, List.cons_append, List.cons_append, acceptAll_cons_iff,
      acceptAll_cons_iff]
    simp only [ih]

theorem acceptAll_anyDepth_anyDepth (rest : List Segment) (names : List (List Char)) :
  acceptAll (.anyDepth :: .anyDepth :: rest) names = acceptAll (.anyDepth :: rest) names
  := by
  rw [Bool.eq_iff_iff, acceptAll_iff_cut, acceptAll_iff_cut]
  apply cut_anyDepth_anyDepth
  simp

/-- Segments accept the names that can be cut into consecutive pieces, any piece for `**` and one
accepted name for any other segment.  The search that tries the longest piece first returns whether
they do, for any segments and names, every search in another order returns the same, and of two
adjacent `**` one can be left out. -/
theorem search_complete (segments : List Segment) (names : List (List Char)) :
  (acceptAll segments names = true ↔ Cut Takes (fun _ => True) segments names)
    ∧ (∀ answer, SearchOrder.longestFirst.Returns segments names answer
        ↔ answer = acceptAll segments names)
    ∧ (∀ (order : SearchOrder) (answer : Bool), order.Returns segments names answer
        ↔ SearchOrder.longestFirst.Returns segments names answer)
    ∧ ∀ before after, acceptAll (before ++ .anyDepth :: .anyDepth :: after) names
        = acceptAll (before ++ .anyDepth :: after) names
  := by
  refine ⟨acceptAll_iff_cut, fun answer => SearchOrder.returns_iff, ?_, ?_⟩
  · intro order answer
    rw [SearchOrder.returns_iff, SearchOrder.returns_iff]
  · intro before after
    apply acceptAll_append_congr
    apply acceptAll_anyDepth_anyDepth

end Compendium.Segment
