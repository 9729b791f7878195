import Mathlib.Data.List.Forall2
import Compendium.Config.Reader
import Compendium.Proofs.Json.Reading

/-!
# Reading values and lists of values

A reader for what a place asks for reads just the values of JSON that stand for such a thing.
The elements of a list can be read one by one by the same reader, or each by its own.
-/

namespace Compendium.Config

open Json

variable {ε α β : Type}

/-! ### Values -/

/-- The reader reads the values that stand for something, as `R` says. -/
def ReadsValue (read : Cursor → Except ε (α × Cursor)) (R : Value → α → Prop) : Prop :=
  Reads read fun cs a rest => ∃ v, Denotes cs v rest ∧ R v a

@[simp]
theorem gives_placed {outcome : Except Fault (α × Cursor)} {a : α} {rest : List Char} :
  Gives (placed outcome) a rest ↔ Gives outcome a rest
  := by
  cases outcome <;> simp [placed, Gives]

/-- The next mark is the first character behind the blanks. -/
theorem mark_skip {c : Char} (hc : Cursor.isSpace c = false) {k : Cursor} {rest : List Char} :
  Mark c k.rest rest ↔ k.skip.rest = c :: rest
  := by
  rw [mark_iff hc, Cursor.skip_rest]

/-- A mark in front of which reading stops comes next. -/
theorem mark_end_iff {c : Char} (hc : Cursor.isSpace c = false) {cs rest : List Char} :
  (∃ mid, (∃ tail, Mark c cs tail ∧ mid = c :: tail) ∧ Mark c mid rest) ↔ Mark c cs rest
  := by
  constructor
  · rintro ⟨mid, ⟨tail, htail, rfl⟩, hmark⟩
    obtain rfl : tail = rest := by simpa [hc] using (mark_iff hc).mp hmark
    apply htail
  · intro h
    use c :: rest, ⟨rest, h, rfl⟩
    apply Blanks.refl _

/-- Blanks are passed over before a value. -/
theorem denotes_skip {k : Cursor} {v : Value} {rest : List Char} :
  Denotes k.skip.rest v rest ↔ Denotes k.rest v rest
  := by
  rw [Cursor.skip_rest, denotes_dropWhile]

theorem denotes_null_iff {k : Cursor} {rest : List Char} :
  Denotes k.rest .null rest ↔ k.skip.rest = "null".toList ++ rest
  := by
  have h : Mark 'n' k.rest ("ull".toList ++ rest)
      ↔ k.skip.rest = 'n' :: ("ull".toList ++ rest) := mark_skip (by decide)
  use fun | .null hnull => h.mp hnull, fun hnull => .null (h.mpr hnull)

theorem denotes_bool_iff {k : Cursor} {b : Bool} {rest : List Char} :
  Denotes k.rest (.bool b) rest
    ↔ k.skip.rest = (if b then "true" else "false").toList ++ rest
  := by
  cases b with
  | true =>
    have h : Mark 't' k.rest ("rue".toList ++ rest)
        ↔ k.skip.rest = 't' :: ("rue".toList ++ rest) := mark_skip (by decide)
    use fun | .isTrue htrue => h.mp htrue, fun htrue => .isTrue (h.mpr htrue)
  | false =>
    have h : Mark 'f' k.rest ("alse".toList ++ rest)
        ↔ k.skip.rest = 'f' :: ("alse".toList ++ rest) := mark_skip (by decide)
    use fun | .isFalse hfalse => h.mp hfalse, fun hfalse => .isFalse (h.mpr hfalse)

theorem denotes_string_iff {k : Cursor} {s : String} {rest : List Char} :
  Denotes k.rest (.string s) rest
    ↔ ∃ inside, k.skip.rest = '"' :: inside ∧ Contents inside s.toList rest
  := by
  simp only [← mark_skip (c := '"') (by decide)]
  use fun | .string hs => hs, .string

theorem denotes_list_iff {k : Cursor} {vs : List Value} {rest : List Char} :
  Denotes k.rest (.list vs) rest
    ↔ ∃ inside, k.skip.rest = '[' :: inside ∧ Elements true inside vs rest
  := by
  simp only [← mark_skip (c := '[') (by decide)]
  use fun | .list hopen hvs => ⟨_, hopen, hvs⟩, fun ⟨_, hopen, hvs⟩ => .list hopen hvs

theorem denotes_object_iff {k : Cursor} {ms : List (String × Value)} {rest : List Char} :
  Denotes k.rest (.object ms) rest
    ↔ ∃ inside, k.skip.rest = '{' :: inside ∧ Members true inside ms rest
  := by
  simp only [← mark_skip (c := '{') (by decide)]
  use fun | .object hopen hms => ⟨_, hopen, hms⟩, fun ⟨_, hopen, hms⟩ => .object hopen hms

/-- A string is read where a string denotes. -/
theorem readsValue_readString :
  ReadsValue readString fun v s => v = .string s
  := by
  intro k s rest
  simp only [exists_eq_right, denotes_string_iff]
  rw [readString]
  split
  · next hk => simp [hk]
  · next inside hk =>
    rw [reads_readString k.skip.next s rest, Cursor.next_rest, hk, List.tail_cons]
    simp
  · next hk =>
    simp only [not_gives_error, false_iff]
    rintro ⟨inside, hinside, -⟩
    apply hk inside hinside

/-- A word is read for what it stands for. -/
theorem gives_word {a b : α} {k : Cursor} {word rest : List Char} :
  Gives (readWord k word >>= fun k => pure (a, k)) b rest ↔ b = a ∧ k.rest = word ++ rest
  := by
  rw [← readWord_iff]
  constructor
  · rintro ⟨k', hk', rfl⟩
    obtain ⟨behind, hword, heq⟩ := bind_eq_ok_iff.mp hk'
    obtain ⟨rfl, rfl⟩ := Prod.mk.inj (Except.ok.inj heq)
    exact ⟨rfl, behind, hword, rfl⟩
  · rintro ⟨rfl, behind, hword, rfl⟩
    exact ⟨behind, bind_eq_ok_iff.mpr ⟨behind, hword, rfl⟩, rfl⟩

/-- A boolean is read where a boolean denotes. -/
theorem readsValue_readBool :
  ReadsValue readBool fun v b => v = .bool b
  := by
  intro k b rest
  simp only [exists_eq_right, denotes_bool_iff]
  rw [readBool]
  split
  · next hk => cases b <;> simp [hk]
  · next tail hk =>
    rw [gives_word, Cursor.next_rest, hk]
    cases b <;> simp
  · next tail hk =>
    rw [gives_word, Cursor.next_rest, hk]
    cases b <;> simp
  · next htrue hfalse =>
    simp only [not_gives_error, false_iff]
    intro hk
    cases b
    · apply hfalse _ hk
    · apply htrue _ hk

/-- A string or nothing is read where a string or `null` denotes. -/
theorem readsValue_readOptionalString :
  ReadsValue readOptionalString
    fun v s => v = .null ∧ s = none ∨ ∃ t, v = .string t ∧ s = some t
  := by
  intro k s rest
  dsimp only
  have hsplit :
      (∃ v, Denotes k.rest v rest ∧ (v = .null ∧ s = none ∨ ∃ t, v = .string t ∧ s = some t))
      ↔ s = none ∧ Denotes k.rest .null rest
        ∨ ∃ t, Denotes k.rest (.string t) rest ∧ s = some t := by
    constructor
    · rintro ⟨v, hv, ⟨rfl, hs⟩ | ⟨t, rfl, hs⟩⟩
      · left
        use hs, hv
      · right
        use t, hv, hs
    · rintro (⟨hs, hv⟩ | ⟨t, hv, hs⟩)
      · exact ⟨_, hv, .inl ⟨rfl, hs⟩⟩
      · exact ⟨_, hv, .inr ⟨t, rfl, hs⟩⟩
  rw [hsplit, readOptionalString]
  split
  · next tail hk =>
    rw [gives_word, denotes_null_iff, Cursor.next_rest, hk]
    simp [denotes_string_iff, hk]
  · next hk =>
    have hnull : ¬ Denotes k.rest .null rest := by
      rw [denotes_null_iff]
      apply hk _
    refine Iff.trans gives_map ?_
    have hread (t : String) := readsValue_readString k.skip t rest
    simp only [exists_eq_right, denotes_skip] at hread
    simp only [hread, hnull, and_false, false_or]

/-! ### Ends -/

/-- What is read is `a`, and behind it the mark `c` closes what it stands in. -/
def Closes (c : Char) (outcome : Except ε (α × Cursor)) (a : α) (rest : List Char) : Prop :=
  ∃ mid, Gives outcome a mid ∧ Mark c mid rest

theorem closes_ok {c : Char} {a b : α} {k : Cursor} {rest : List Char} :
  Closes c (.ok (a, k) : Except ε (α × Cursor)) b rest ↔ b = a ∧ Mark c k.rest rest
  := by
  simp [Closes, gives_ok, and_assoc]

@[simp]
theorem not_closes_error {c : Char} {e : ε} {a : α} {rest : List Char} :
  ¬ Closes c (.error e) a rest
  := by
  simp [Closes]

@[simp]
theorem closes_placed {c : Char} {outcome : Except Fault (α × Cursor)} {a : α}
    {rest : List Char} :
  Closes c (placed outcome) a rest ↔ Closes c outcome a rest
  := by
  simp [Closes]

/-- What is closed may be read by one reader after another. -/
theorem closes_bind {c : Char} {outcome : Except ε (α × Cursor)} {R : α → List Char → Prop}
    {after : α × Cursor → Except ε (β × Cursor)} {S : α → List Char → Prop} {b : β}
    {rest : List Char} (h : ∀ a mid, Gives outcome a mid ↔ R a mid)
    (h' : ∀ a k, R a k.rest → (Closes c (after (a, k)) b rest ↔ S a k.rest)) :
  Closes c (outcome >>= after) b rest ↔ ∃ a mid, R a mid ∧ S a mid
  := by
  constructor
  · rintro ⟨mid, ⟨k', hk', rfl⟩, hmark⟩
    obtain ⟨⟨a, k⟩, houtcome, hafter⟩ := bind_eq_ok_iff.mp hk'
    have hR := (h a k.rest).mp ⟨k, houtcome, rfl⟩
    use a, k.rest, hR
    apply (h' a k hR).mp ⟨k'.rest, ⟨k', hafter, rfl⟩, hmark⟩
  · rintro ⟨a, mid, hR, hS⟩
    obtain ⟨k, houtcome, rfl⟩ := (h a mid).mpr hR
    obtain ⟨mid, ⟨k', hafter, rfl⟩, hmark⟩ := (h' a k hR).mpr hS
    exact ⟨k'.rest, ⟨k', bind_eq_ok_iff.mpr ⟨(a, k), houtcome, hafter⟩, rfl⟩, hmark⟩

/-- A reader and a function of what it reads. -/
theorem closes_map {c : Char} {outcome : Except ε (α × Cursor)} {f : α → β} {b : β}
    {rest : List Char} :
  Closes c (outcome >>= fun p => .ok (f p.1, p.2)) b rest
    ↔ ∃ a, Closes c outcome a rest ∧ b = f a
  := by
  simp only [Closes, gives_map]
  constructor
  · rintro ⟨mid, ⟨a, ha, hb⟩, hmark⟩
    use a, ⟨mid, ha, hmark⟩, hb
  · rintro ⟨a, ⟨mid, ha, hmark⟩, hb⟩
    exact ⟨mid, ⟨a, ha, hb⟩, hmark⟩

/-- A list or an object that is read has to end. -/
theorem gives_enclose {c : Char} {finish : Cursor → Cursor × Except Fault Unit}
    (hfinish : ∀ k rest, (∃ k', finish k = (k', .ok ()) ∧ k'.rest = rest) ↔ Mark c k.rest rest)
    {inner : Except Trouble (α × Cursor)} {a : α} {rest : List Char} :
  Gives (enclose finish inner) a rest ↔ Closes c inner a rest
  := by
  cases inner with
  | error trouble => cases trouble <;> simp [enclose]
  | ok p =>
    obtain ⟨b, k⟩ := p
    rw [closes_ok, ← hfinish, enclose]
    cases hk : finish k with
    | mk k' outcome =>
      cases outcome with
      | error f => simp
      | ok u => simp [gives_ok, eq_comm]

/-! ### Lists -/

theorem comma_first_iff {cs item : List Char} :
  Comma true cs item ↔ item = cs
  := by
  constructor
  · rintro ⟨⟩
    rfl
  · rintro rfl
    apply Comma.first

theorem comma_next_iff {k : Cursor} {item : List Char} :
  Comma false k.rest item ↔ k.skip.rest = ',' :: item
  := by
  rw [← mark_skip (by decide)]
  use fun | .next h => h, .next

/-- A place at which something other than the end of the list stands is one before an element. -/
theorem gives_before_element {k : Cursor} {mid : List Char} (hnil : k.rest ≠ [])
    (hend : ∀ tail, k.rest ≠ ']' :: tail) :
  Gives (.ok (true, k) : Except ε (Bool × Cursor)) true mid
    ↔ mid = k.rest ∧ mid ≠ [] ∧ ∀ tail, mid ≠ ']' :: tail
  := by
  rw [gives_ok]
  constructor
  · rintro ⟨-, rfl⟩
    use rfl, hnil, hend
  · rintro ⟨rfl, -⟩
    constructor
    · rfl
    · rfl

/-- Another element of a list follows, behind blanks. -/
theorem gives_nextElement_true {first : Bool} {k : Cursor} {mid : List Char} :
  Gives (nextElement first k) true mid
    ↔ ∃ item, Comma first k.rest item ∧ mid = item.dropWhile Cursor.isSpace
      ∧ mid ≠ [] ∧ ∀ tail, mid ≠ ']' :: tail
  := by
  cases first with
  | true =>
    simp only [comma_first_iff, exists_eq_left, ← Cursor.skip_rest]
    rw [nextElement]
    split
    · next hk =>
      simp only [not_gives_error, hk, false_iff]
      rintro ⟨rfl, hne, -⟩
      contradiction
    · next tail hk =>
      simp only [gives_ok, hk, reduceCtorEq, false_and, false_iff]
      rintro ⟨rfl, -, hend⟩
      apply hend tail rfl
    · next tail hk => exact gives_before_element (by simp [hk]) (by simp [hk])
    · next hnil hend hcomma => exact gives_before_element hnil hend
  | false =>
    simp only [comma_next_iff]
    rw [nextElement]
    split
    · next hk => simp [hk]
    · next tail hk => simp [hk, gives_ok]
    · next item hk =>
      have hbehind : k.skip.next.skip.rest = item.dropWhile Cursor.isSpace := by
        rw [Cursor.skip_rest, Cursor.next_rest, hk, List.tail_cons]
      rw [if_neg (by decide)]
      simp only [hk, List.cons.injEq, true_and, exists_eq_left', ← hbehind]
      split
      · next hnil =>
        simp only [not_gives_error, hnil, false_iff]
        rintro ⟨rfl, hne, -⟩
        contradiction
      · next tail hend =>
        simp only [not_gives_error, hend, false_iff]
        rintro ⟨rfl, -, hne⟩
        apply hne tail rfl
      · next hnil hend => exact gives_before_element hnil hend
    · next hnil hend hcomma =>
      simp only [Bool.false_eq_true, if_false, not_gives_error, false_iff]
      rintro ⟨item, hk, -⟩
      apply hcomma item hk

/-- The end of a list follows, behind blanks. -/
theorem gives_nextElement_false {first : Bool} {k : Cursor} {mid : List Char} :
  Gives (nextElement first k) false mid ↔ ∃ tail, Mark ']' k.rest tail ∧ mid = ']' :: tail
  := by
  simp only [mark_skip (c := ']') (by decide)]
  rw [nextElement]
  split
  · next hk => simp [hk]
  · next tail hk => simp [gives_ok, hk]
  · next tail hk =>
    split
    · simp [gives_ok, hk]
    · dsimp only
      split <;> simp [gives_ok, hk]
  · next hnil hend hcomma =>
    have hno : ¬ ∃ tail, k.skip.rest = ']' :: tail ∧ mid = ']' :: tail := by
      rintro ⟨tail, hk, -⟩
      apply hend tail hk
    split <;> simp [gives_ok, hno]

/-- An element that follows is there behind the blanks. -/
theorem element_iff {first : Bool} {k : Cursor} {v : Value} {next : List Char} :
  (∃ mid, Gives (nextElement first k) true mid ∧ Denotes mid v next)
    ↔ ∃ item, Comma first k.rest item ∧ Denotes item v next
  := by
  constructor
  · rintro ⟨mid, hmid, hv⟩
    obtain ⟨item, hcomma, rfl, -⟩ := gives_nextElement_true.mp hmid
    use item, hcomma
    apply denotes_dropWhile.mp hv
  · rintro ⟨item, hcomma, hv⟩
    obtain ⟨c, tail, hc, hspace, hend⟩ := hv.start
    rw [mark_iff hspace] at hc
    refine ⟨c :: tail, gives_nextElement_true.mpr ⟨item, hcomma, hc.symm, ?_⟩, ?_⟩
    · simp [hend]
    · rwa [← hc, denotes_dropWhile]

/-- The end of a list that follows closes it. -/
theorem no_element_iff {first : Bool} {k : Cursor} {rest : List Char} :
  (∃ mid, Gives (nextElement first k) false mid ∧ Mark ']' mid rest) ↔ Mark ']' k.rest rest
  := by
  simp only [gives_nextElement_false, mark_end_iff (c := ']') (by decide)]

theorem length_le_of_gives_nextElement {first : Bool} {k : Cursor} {mid : List Char}
    (h : Gives (nextElement first k) true mid) :
  mid.length ≤ k.rest.length
  := by
  obtain ⟨item, hcomma, rfl, -⟩ := gives_nextElement_true.mp h
  exact Nat.le_trans (blanks_dropWhile item).length_le hcomma.length_le

/-- Elements are either none, or there is one first. -/
theorem elements_iff {first : Bool} {k : Cursor} {rest : List Char} {P : Prop}
    {S : Value → List Value → Prop} :
  (∃ vs, Elements first k.rest vs rest ∧ match vs with
      | [] => P
      | v :: vs => S v vs)
    ↔ ∃ more mid, Gives (nextElement first k) more mid ∧ if more then
        ∃ v behind, Denotes mid v behind ∧ ∃ vs, Elements false behind vs rest ∧ S v vs
      else P ∧ Mark ']' mid rest
  := by
  constructor
  · rintro ⟨vs, hvs, hm⟩
    cases hvs with
    | done h =>
      have hend : ∃ mid, Gives (nextElement first k) false mid ∧ Mark ']' mid rest :=
        no_element_iff.mpr h
      obtain ⟨mid, hmid, hmark⟩ := hend
      exact ⟨false, mid, hmid, hm, hmark⟩
    | more hcomma hv hvs =>
      obtain ⟨mid, hmid, hv⟩ := element_iff.mpr ⟨_, hcomma, hv⟩
      exact ⟨true, mid, hmid, _, _, hv, _, hvs, hm⟩
  · rintro ⟨more, mid, hmid, hS⟩
    cases more with
    | false =>
      obtain ⟨hs, hmark⟩ := hS
      use [], .done (no_element_iff.mp ⟨mid, hmid, hmark⟩), hs
    | true =>
      obtain ⟨v, behind, hv, vs, hvs, hg⟩ := hS
      obtain ⟨item, hcomma, hitem⟩ := element_iff.mp ⟨mid, hmid, hv⟩
      use v :: vs, .more hcomma hitem hvs, hg

/-- What reads the elements of a list from some place on reads them all, if it stops at the end
of the list as it should, and goes on before an element as it should. -/
theorem closes_elements {first : Bool} {k : Cursor} {next : Except ε (Bool × Cursor)}
    (hnext : ∀ more mid, Gives next more mid ↔ Gives (nextElement first k) more mid)
    {after : Bool × Cursor → Except ε (β × Cursor)} {b : β} {rest : List Char} {P : Prop}
    {S : Value → List Value → Prop}
    (hstop : ∀ k' tail, k'.rest = ']' :: tail →
      (Closes ']' (after (false, k')) b rest ↔ P ∧ Mark ']' k'.rest rest))
    (hgo : ∀ k', k'.rest.length ≤ k.rest.length → (Closes ']' (after (true, k')) b rest
      ↔ ∃ v behind, Denotes k'.rest v behind ∧ ∃ vs, Elements false behind vs rest ∧ S v vs)) :
  Closes ']' (next >>= after) b rest
    ↔ ∃ vs, Elements first k.rest vs rest ∧ match vs with
      | [] => P
      | v :: vs => S v vs
  := by
  rw [elements_iff, closes_bind hnext]
  intro more k' hmore
  cases more with
  | false =>
    obtain ⟨tail, -, hk'⟩ := gives_nextElement_false.mp hmore
    apply hstop k' tail hk'
  | true => apply hgo k' (length_le_of_gives_nextElement hmore)

/-- The end of a list, behind blanks. -/
theorem endList_iff (k : Cursor) (rest : List Char) :
  (∃ k', endList k = (k', .ok ()) ∧ k'.rest = rest) ↔ Mark ']' k.rest rest
  := by
  rw [mark_skip (by decide), endList]
  split
  · next hk => simp [hk]
  · next tail hk => simp [hk]
  · next tail hk =>
    dsimp only
    split <;> simp [hk]
  · next hnil hend hcomma =>
    have hno : ¬ k.skip.rest = ']' :: rest := hend rest
    simp [hno]

/-- The elements of a list are read one by one up to its end. -/
theorem closes_readElements {item : Cursor → Except Fault (α × Cursor)} {R : Value → α → Prop}
    (hitem : ReadsValue item R) {fuel : Nat} {first : Bool} {k : Cursor}
    (hfuel : k.rest.length < fuel) {as : List α} {rest : List Char} :
  Closes ']' (readElements item fuel first k) as rest
    ↔ ∃ vs, Elements first k.rest vs rest ∧ List.Forall₂ R vs as
  := by
  induction fuel generalizing first k as with
  | zero => contradiction
  | succ fuel ih =>
    have hstep : readElements item (fuel + 1) first k = nextElement first k >>= fun p =>
        if !p.1 then .ok ([], p.2) else item p.2 >>= fun q =>
          readElements item fuel false q.2 >>= fun r => .ok (q.1 :: r.1, r.2) := rfl
    rw [hstep, closes_elements (fun _ _ => Iff.rfl) (P := as = [])
      (S := fun v vs => ∃ a as', R v a ∧ List.Forall₂ R vs as' ∧ as = a :: as')]
    · apply exists_congr
      rintro (_ | ⟨v, vs⟩)
      · rw [List.forall₂_nil_left_iff]
      · rw [List.forall₂_cons_left_iff]
    · intro k' tail hk'
      apply closes_ok
    · intro k' hk'
      have hrest : ∀ a (k'' : Cursor), (∃ v, Denotes k'.rest v k''.rest ∧ R v a) →
          (Closes ']' (readElements item fuel false k'' >>= fun r => .ok (a :: r.1, r.2)) as rest
            ↔ ∃ as', (∃ vs, Elements false k''.rest vs rest ∧ List.Forall₂ R vs as')
              ∧ as = a :: as') := by
        rintro a k'' ⟨v, hv, -⟩
        have hlength := hv.length_lt
        simp only [closes_map, ih (show k''.rest.length < fuel by omega)]
      refine Iff.trans (closes_bind (hitem k') (S := fun a mid =>
        ∃ as', (∃ vs, Elements false mid vs rest ∧ List.Forall₂ R vs as') ∧ as = a :: as') hrest) ?_
      constructor
      · rintro ⟨a, mid, ⟨v, hv, ha⟩, as', ⟨vs, hvs, has⟩, rfl⟩
        exact ⟨v, mid, hv, vs, hvs, a, as', ha, has, rfl⟩
      · rintro ⟨v, mid, hv, vs, hvs, a, as', ha, has, rfl⟩
        exact ⟨a, mid, ⟨v, hv, ha⟩, as', ⟨vs, hvs, has⟩, rfl⟩

/-- A list is read where a list denotes, if its elements are read where they denote. -/
theorem readsValue_readList {item : Cursor → Except Fault (α × Cursor)} {R : Value → α → Prop}
    (hitem : ReadsValue item R) :
  ReadsValue (readList item) fun v as => ∃ vs, v = .list vs ∧ List.Forall₂ R vs as
  := by
  intro k as rest
  have hlist : (∃ v, Denotes k.rest v rest ∧ ∃ vs, v = .list vs ∧ List.Forall₂ R vs as)
      ↔ ∃ inside, k.skip.rest = '[' :: inside
        ∧ ∃ vs, Elements true inside vs rest ∧ List.Forall₂ R vs as := by
    constructor
    · rintro ⟨v, hv, vs, rfl, has⟩
      obtain ⟨inside, hk, hvs⟩ := denotes_list_iff.mp hv
      use inside, hk, vs, hvs, has
    · rintro ⟨inside, hk, vs, hvs, has⟩
      exact ⟨_, denotes_list_iff.mpr ⟨inside, hk, hvs⟩, vs, rfl, has⟩
  dsimp only
  rw [hlist, readList]
  split
  · next hk => simp [hk]
  · next inside hk =>
    have hinside : k.skip.next.rest = inside := by rw [Cursor.next_rest, hk, List.tail_cons]
    rw [gives_enclose endList_iff]
    rw [closes_placed, closes_readElements hitem (by rw [hinside]; omega), hinside]
    simp [hk]
  · next hnil hopen =>
    simp only [not_gives_error, false_iff]
    rintro ⟨inside, hk, -⟩
    apply hopen inside hk

/-! ### Elements with readers of their own -/

/-- At the end of a list there are no more elements. -/
theorem eq_nil_of_end {tail rest : List Char} {vs : List Value}
    (h : Elements false (']' :: tail) vs rest) :
  vs = []
  := by
  cases h with
  | done => rfl
  | more hcomma =>
    cases hcomma with
    | next h =>
      have hcomma := (mark_iff (by decide)).mp h
      simp [Cursor.isSpace] at hcomma

/-- Nothing more is read from a list. -/
theorem closes_last {a b : α} {k : Cursor} {rest : List Char} :
  Closes ']' (.ok (a, k) : Except ε (α × Cursor)) b rest
    ↔ ∃ vs, Elements false k.rest vs rest ∧ vs = [] ∧ b = a
  := by
  rw [closes_ok]
  constructor
  · rintro ⟨rfl, hmark⟩
    exact ⟨[], .done hmark, rfl, rfl⟩
  · rintro ⟨vs, hvs, rfl, rfl⟩
    cases hvs with
    | done hmark =>
      constructor
      · rfl
      · apply hmark

/-- At the end of a list, what goes on with the elements goes on with none. -/
theorem elements_end_iff {tail rest : List Char} {S : List Value → Prop} :
  (∃ vs, Elements false (']' :: tail) vs rest ∧ S vs) ↔ S [] ∧ Mark ']' (']' :: tail) rest
  := by
  constructor
  · rintro ⟨vs, hvs, hS⟩
    obtain rfl := eq_nil_of_end hvs
    cases hvs with
    | done hmark =>
      constructor
      · apply hS
      · apply hmark
  · rintro ⟨hS, hmark⟩
    use [], .done hmark, hS

/-- The next element of a list is read for what it stands for, or a default is taken where the
list has ended. -/
theorem closes_readNext {first : Bool} {k : Cursor} {orElse : Cursor → Except Trouble α}
    {d : Option α} (horElse : ∀ k a, orElse k = .ok a ↔ d = some a)
    {read : Cursor → Except Fault (α × Cursor)} {R : Value → α → Prop} (hread : ReadsValue read R)
    {after : α × Cursor → Except Trouble (β × Cursor)} {S : α → List Value → Prop} {b : β}
    {rest : List Char}
    (hafter : ∀ a k', Closes ']' (after (a, k')) b rest
      ↔ ∃ vs, Elements false k'.rest vs rest ∧ S a vs) :
  Closes ']' (readNext first orElse read k >>= after) b rest
    ↔ ∃ vs, Elements first k.rest vs rest ∧ match vs with
      | [] => ∃ a, d = some a ∧ S a []
      | v :: vs => ∃ a, R v a ∧ S a vs
  := by
  have hstep : readNext first orElse read k >>= after = placed (nextElement first k) >>= fun p =>
      (if p.1 then placed (read p.2) else orElse p.2 >>= fun a => .ok (a, p.2)) >>= after := by
    rw [readNext]
    cases nextElement first k <;> rfl
  rw [hstep, closes_elements (fun _ _ => gives_placed)]
  · intro k' tail hk'
    cases horElse' : orElse k' with
    | error trouble =>
      have hnone : ∀ a, d ≠ some a := by
        intro a ha
        rw [← horElse k', horElse'] at ha
        contradiction
      simp [Bind.bind, Except.bind, hnone]
    | ok a =>
      have hsome := (horElse k' a).mp horElse'
      refine Iff.trans (?_ : _ ↔ Closes ']' (after (a, k')) b rest) ?_
      · simp [Bind.bind, Except.bind]
      · simp [hafter, hk', elements_end_iff, hsome]
  · intro k' hk'
    refine Iff.trans (closes_bind (fun a mid => gives_placed.trans (hread k' a mid))
      (S := fun a mid => ∃ vs, Elements false mid vs rest ∧ S a vs) fun a k'' _ => hafter a k'') ?_
    constructor
    · rintro ⟨a, mid, ⟨v, hv, ha⟩, vs, hvs, hS⟩
      use v, mid, hv, vs, hvs, a, ha, hS
    · rintro ⟨v, mid, hv, vs, hvs, a, ha, hS⟩
      use a, mid, ⟨v, hv, ha⟩, vs, hvs, hS

end Compendium.Config
