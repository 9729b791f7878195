import Compendium.Proofs.Config.Lists

/-!
# Reading objects

An object is read member by member into what has been read so far.  The readers of rules and of
configurations are the same but for what they do with one member and with the end; what they
have read when the object ends is what a run over its members leaves.  Such a run fills a place
from the one member that has a key of the place.
-/

namespace Compendium.Config

open Json

variable {ε α β σ : Type}

/-! ### Keys -/

/-- Another key of an object follows. -/
theorem gives_nextKey_true {first : Bool} {k : Cursor} {mid : List Char} :
  Gives (nextKey first k) true mid ↔ ∃ item, Comma first k.rest item ∧ Mark '"' item mid
  := by
  cases first with
  | true =>
    simp only [comma_first_iff, exists_eq_left]
    rw [mark_skip (by decide), nextKey]
    dsimp only
    split
    · next hk => simp [hk]
    · next tail hk => simp [hk, gives_ok]
    · next tail hk => simp [hk]
    · next hnil hend hcomma =>
      rw [if_pos rfl]
      split
      · next hk => simp [hk]
      · next tail hk => simp [hk, gives_ok, eq_comm]
      · next tail hk => simp [hk]
      · next _ hquote _ =>
        simp only [not_gives_error, false_iff]
        apply hquote mid
  | false =>
    simp only [comma_next_iff]
    rw [nextKey]
    dsimp only
    split
    · next hk => simp [hk]
    · next tail hk => simp [hk, gives_ok]
    · next item hk =>
      have hbehind : k.skip.next.skip.rest = item.dropWhile Cursor.isSpace := by
        rw [Cursor.skip_rest, Cursor.next_rest, hk, List.tail_cons]
      simp only [hk, List.cons.injEq, true_and, exists_eq_left', Bool.false_eq_true, if_false]
      rw [mark_iff (by decide), ← hbehind]
      split
      · next hnil => simp [hnil]
      · next tail hquote => simp [hquote, gives_ok, eq_comm]
      · next tail hend => simp [hend]
      · next _ hquote _ =>
        simp only [not_gives_error, false_iff]
        apply hquote mid
    · next hnil hend hcomma =>
      simp only [Bool.false_eq_true, if_false, not_gives_error, false_iff]
      rintro ⟨item, hk, -⟩
      apply hcomma item hk

/-- The end of an object follows, behind blanks. -/
theorem gives_nextKey_false {first : Bool} {k : Cursor} {mid : List Char} :
  Gives (nextKey first k) false mid ↔ ∃ tail, Mark '}' k.rest tail ∧ mid = '}' :: tail
  := by
  simp only [mark_skip (c := '}') (by decide)]
  rw [nextKey]
  dsimp only
  split
  · next hk => simp [hk]
  · next tail hk => simp [gives_ok, hk]
  · next tail hk =>
    split <;> split <;> simp [gives_ok, hk]
  · next hnil hend hcomma =>
    have hno : ¬ ∃ tail, k.skip.rest = '}' :: tail ∧ mid = '}' :: tail := by
      rintro ⟨tail, hk, -⟩
      apply hend tail hk
    split
    · split <;> simp [gives_ok, hno]
    · simp [hno]

/-- A key that follows is there behind its quote. -/
theorem key_iff {first : Bool} {k : Cursor} {key : String} {colon : List Char} :
  (∃ mid, Gives (nextKey first k) true mid ∧ Contents mid key.toList colon)
    ↔ ∃ item, Comma first k.rest item ∧ Literal item key colon
  := by
  simp only [gives_nextKey_true, Literal]
  constructor
  · rintro ⟨mid, ⟨item, hcomma, hquote⟩, hkey⟩
    use item, hcomma, mid, hquote, hkey
  · rintro ⟨item, hcomma, mid, hquote, hkey⟩
    use mid, ⟨item, hcomma, hquote⟩, hkey

/-- The end of an object that follows closes it. -/
theorem no_key_iff {first : Bool} {k : Cursor} {rest : List Char} :
  (∃ mid, Gives (nextKey first k) false mid ∧ Mark '}' mid rest) ↔ Mark '}' k.rest rest
  := by
  simp only [gives_nextKey_false, mark_end_iff (c := '}') (by decide)]

/-- The end of an object, behind blanks. -/
theorem endObject_iff (k : Cursor) (rest : List Char) :
  (∃ k', endObject k = (k', .ok ()) ∧ k'.rest = rest) ↔ Mark '}' k.rest rest
  := by
  rw [mark_skip (by decide), endObject]
  split
  · next hk => simp [hk]
  · next tail hk => simp [hk]
  · next tail hk => simp [hk]
  · next hnil hend hcomma =>
    have hno : ¬ k.skip.rest = '}' :: rest := hend rest
    simp [hno]

/-- The colon between a key and its value. -/
theorem readColon_iff {k : Cursor} {rest : List Char} :
  (∃ k', readColon k = .ok k' ∧ k'.rest = rest) ↔ Mark ':' k.rest rest
  := by
  rw [mark_skip (by decide), readColon]
  split
  · next hk => simp [hk]
  · next tail hk => simp [hk]
  · next hnil hcolon =>
    have hno : ¬ k.skip.rest = ':' :: rest := hcolon rest
    simp [hno]

/-- A place that is empty is filled with what the value behind the colon stands for. -/
theorem gives_fill {name : String} {place : Option α} {read : Cursor → Except Fault (α × Cursor)}
    {R : Value → α → Prop} (hread : ReadsValue read R) {k : Cursor} {a : α} {rest : List Char} :
  Gives (fill name place read k) a rest
    ↔ place = none ∧ ∃ value v, Mark ':' k.rest value ∧ Denotes value v rest ∧ R v a
  := by
  cases place with
  | some b => simp [fill]
  | none =>
    rw [fill]
    constructor
    · rintro ⟨k', hk', rfl⟩
      obtain ⟨colon, hcolon, hvalue⟩ := bind_eq_ok_iff.mp hk'
      cases hcolon' : readColon k with
      | error f =>
        rw [hcolon'] at hcolon
        contradiction
      | ok behind =>
        rw [hcolon'] at hcolon
        obtain rfl := Except.ok.inj hcolon
        obtain ⟨v, hv, ha⟩ := (hread behind a k'.rest).mp (gives_placed.mp ⟨k', hvalue, rfl⟩)
        use rfl, behind.rest, v, readColon_iff.mp ⟨behind, hcolon', rfl⟩, hv, ha
    · rintro ⟨-, value, v, hcolon, hv, ha⟩
      obtain ⟨behind, hbehind, rfl⟩ := readColon_iff.mpr hcolon
      obtain ⟨k', hk', hrest⟩ := gives_placed.mpr ((hread behind a rest).mpr ⟨v, hv, ha⟩)
      use k', by rw [hbehind]; exact hk', hrest

/-- A member whose key belongs to a place is read into what has been read so far, if `T` says
that it fills the place. -/
theorem gives_fill_map {name : String} {place : Option α}
    {read : Cursor → Except Fault (α × Cursor)} {R : Value → α → Prop} (hread : ReadsValue read R)
    {after : α × Cursor → Except Trouble (σ × Cursor)} {set : α → σ}
    (hafter : ∀ a k, after (a, k) = .ok (set a, k)) {k : Cursor} {s : σ} {rest : List Char}
    {T : Value → Prop} (hT : ∀ v, T v ↔ place = none ∧ ∃ a, R v a ∧ s = set a) :
  Gives (fill name place read k >>= after) s rest
    ↔ ∃ value v, Mark ':' k.rest value ∧ Denotes value v rest ∧ T v
  := by
  obtain rfl : after = fun p => .ok (set p.1, p.2) := funext fun p => hafter p.1 p.2
  simp only [gives_map, gives_fill hread, hT]
  constructor
  · rintro ⟨a, ⟨hplace, value, v, hcolon, hv, ha⟩, hs⟩
    use value, v, hcolon, hv, hplace, a, ha, hs
  · rintro ⟨value, v, hcolon, hv, hplace, a, ha, hs⟩
    exact ⟨a, ⟨hplace, value, v, hcolon, hv, ha⟩, hs⟩

/-! ### Members -/

/-- Read the members of an object, `fuel` of them at most, into what has been read so far. -/
def readKeys (read : σ → String → Cursor → Except Trouble (σ × Cursor))
    (finish : σ → Cursor → Except Trouble (α × Cursor)) (fuel : Nat) (first : Bool) (s : σ)
    (k : Cursor) : Except Trouble (α × Cursor) :=
  match fuel with
  | 0 => .error (.unplaced .unfinishedObject k)
  | fuel + 1 => do
    let (more, k) ← placed (nextKey first k)
    if !more then finish s k
    else
      let (key, k) ← placed (Json.readString k)
      let (s, k) ← read s key k
      readKeys read finish fuel false s k

theorem readRuleKeys_eq (fuel : Nat) (first : Bool) (r : PartialRule) (k : Cursor) :
  readRuleKeys fuel first r k
    = readKeys PartialRule.read PartialRule.finish fuel first r k
  := by
  induction fuel generalizing first r k with
  | zero => rfl
  | succ fuel ih => simp only [readRuleKeys, readKeys, ih]

theorem readConfigKeys_eq (fuel : Nat) (first : Bool) (c : PartialConfig) (k : Cursor) :
  readConfigKeys fuel first c k
    = readKeys PartialConfig.read (fun c k => .ok (⟨c.patterns.getD [], c.rules.getD []⟩, k)) fuel
        first c k
  := by
  induction fuel generalizing first c k with
  | zero => rfl
  | succ fuel ih =>
    simp only [readConfigKeys, readKeys, ih]
    rfl

/-- The states before and after a run over a list, when `T` relates those before and after each
of its elements. -/
def Run {μ : Type} (T : σ → μ → σ → Prop) : σ → List μ → σ → Prop
  | s, [], s' => s' = s
  | s, m :: ms, s' => ∃ t, T s m t ∧ Run T t ms s'

/-- The text behind the quote of a key: the rest of that member, which `T` relates to what has been
read before and after, and the members behind it up to the end. -/
def FromKey (T : σ → String × Value → σ → Prop) (F : σ → α → Prop) (s : σ) (cs : List Char) (a : α)
    (rest : List Char) : Prop :=
  ∃ key colon, Contents cs key.toList colon ∧ ∃ t next,
    (∃ value v, Mark ':' colon value ∧ Denotes value v next ∧ T s (key, v) t)
    ∧ ∃ ms, Members false next ms rest ∧ ∃ s', Run T t ms s' ∧ F s' a

/-- Members are either none, or there is a key first. -/
theorem members_iff {T : σ → String × Value → σ → Prop} {F : σ → α → Prop} {first : Bool} {s : σ}
    {k : Cursor} {a : α} {rest : List Char} :
  (∃ ms, Members first k.rest ms rest ∧ ∃ s', Run T s ms s' ∧ F s' a)
    ↔ ∃ more mid, Gives (nextKey first k) more mid
      ∧ if more then FromKey T F s mid a rest else F s a ∧ Mark '}' mid rest
  := by
  constructor
  · rintro ⟨ms, hms, s', hrun, hF⟩
    cases hms with
    | done hmark =>
      have hend : ∃ mid, Gives (nextKey first k) false mid ∧ Mark '}' mid rest :=
        no_key_iff.mpr hmark
      obtain ⟨mid, hmid, hmark⟩ := hend
      obtain rfl : s' = s := hrun
      exact ⟨false, mid, hmid, hF, hmark⟩
    | more hcomma hkey hcolon hv hms =>
      obtain ⟨mid, hmid, hkey⟩ := key_iff.mpr ⟨_, hcomma, hkey⟩
      obtain ⟨t, hT, hrun⟩ := hrun
      exact ⟨true, mid, hmid, _, _, hkey, t, _, ⟨_, _, hcolon, hv, hT⟩, _, hms, s', hrun, hF⟩
  · rintro ⟨more, mid, hmid, hS⟩
    cases more with
    | false =>
      obtain ⟨hF, hmark⟩ := hS
      use [], .done (no_key_iff.mp ⟨mid, hmid, hmark⟩), s, rfl, hF
    | true =>
      obtain ⟨key, colon, hkey, t, next, ⟨value, v, hcolon, hv, hT⟩, ms, hms, s', hrun, hF⟩ := hS
      obtain ⟨item, hcomma, hkey⟩ := key_iff.mp ⟨mid, hmid, hkey⟩
      use (key, v) :: ms, .more hcomma hkey hcolon hv hms, s', ⟨t, hT, hrun⟩, hF

/-- The members of an object are read one by one up to its end. -/
theorem closes_readKeys {read : σ → String → Cursor → Except Trouble (σ × Cursor)}
    {finish : σ → Cursor → Except Trouble (α × Cursor)} {T : σ → String × Value → σ → Prop}
    {F : σ → α → Prop}
    (hread : ∀ s key k s' rest, Gives (read s key k) s' rest
      ↔ ∃ value v, Mark ':' k.rest value ∧ Denotes value v rest ∧ T s (key, v) s')
    (hfinish : ∀ s k a rest, Gives (finish s k) a rest ↔ F s a ∧ rest = k.rest)
    {fuel : Nat} {first : Bool} {s : σ} {k : Cursor} (hfuel : k.rest.length < fuel) {a : α}
    {rest : List Char} :
  Closes '}' (readKeys read finish fuel first s k) a rest
    ↔ ∃ ms, Members first k.rest ms rest ∧ ∃ s', Run T s ms s' ∧ F s' a
  := by
  induction fuel generalizing first s k with
  | zero => contradiction
  | succ fuel ih =>
    have hstep : readKeys read finish (fuel + 1) first s k = placed (nextKey first k) >>= fun p =>
        if !p.1 then finish s p.2 else placed (Json.readString p.2) >>= fun q =>
          read s q.1 q.2 >>= fun r => readKeys read finish fuel false r.1 r.2 := rfl
    rw [hstep, members_iff, closes_bind (fun _ _ => gives_placed)
      (S := fun more mid => if more then FromKey T F s mid a rest else F s a ∧ Mark '}' mid rest)]
    intro more k' hmore
    cases more with
    | false => simp [Closes, hfinish, and_assoc]
    | true =>
      have hlength : k'.rest.length < k.rest.length := by
        obtain ⟨item, hcomma, hquote⟩ := gives_nextKey_true.mp hmore
        apply Nat.lt_of_lt_of_le hquote.length_lt hcomma.length_le
      -- The key, its member, and the members behind it, for which there is fuel left.
      refine closes_bind (fun key colon => gives_placed.trans (reads_readString k' key colon)) ?_
      intro key k'' hkey
      refine closes_bind (fun t next => hread s key k'' t next) ?_
      rintro t next ⟨value, v, hcolon, hv, -⟩
      have hfirst := hkey.length_lt
      have hsecond := hcolon.length_lt
      have hthird := hv.length_lt
      have hnext : next.rest.length < fuel := by omega
      apply ih hnext

/-! ### Places -/

/-- The values of the members with one of the keys, in order. -/
def valuesOf (keys : List String) (ms : List (String × Value)) : List Value :=
  (ms.filter fun m => m.1 ∈ keys).map Prod.snd

/-- What a member does to a place: one with a key of the place fills it, if it is empty, and any
other leaves it as it is. -/
inductive Fill (keys : List String) (R : Value → α → Prop) :
    Option α → String × Value → Option α → Prop where
  | here {m : String × Value} {a : α} (hkey : m.1 ∈ keys) (ha : R m.2 a) :
      Fill keys R none m (some a)
  | other {m : String × Value} {place : Option α} (hkey : m.1 ∉ keys) : Fill keys R place m place

variable {keys : List String} {R : Value → α → Prop}

theorem fill_iff_of_mem {m : String × Value} (hkey : m.1 ∈ keys) {place place' : Option α} :
  Fill keys R place m place' ↔ place = none ∧ ∃ a, R m.2 a ∧ place' = some a
  := by
  constructor
  · intro h
    cases h with
    | here _ ha => exact ⟨rfl, _, ha, rfl⟩
    | other hother => contradiction
  · rintro ⟨rfl, a, ha, rfl⟩
    exact .here hkey ha

theorem fill_iff_of_notMem {m : String × Value} (hkey : m.1 ∉ keys) {place place' : Option α} :
  Fill keys R place m place' ↔ place' = place
  := by
  constructor
  · intro h
    cases h with
    | here hhere => contradiction
    | other => rfl
  · rintro rfl
    exact .other hkey

/-- A place that is full stays as it is, and no member has a key of it. -/
theorem run_fill_some {a : α} {ms : List (String × Value)} {place : Option α} :
  Run (Fill keys R) (some a) ms place ↔ valuesOf keys ms = [] ∧ place = some a
  := by
  induction ms with
  | nil => simp [Run, valuesOf]
  | cons m ms ih =>
    rw [Run]
    by_cases hkey : m.1 ∈ keys
    · simp [fill_iff_of_mem hkey, valuesOf, hkey]
    · simp only [fill_iff_of_notMem hkey, exists_eq_left, ih]
      simp [valuesOf, hkey]

/-- A place that is empty at first is filled from the one member that has a key of it, and stays
empty if there is none. -/
theorem run_fill_none {ms : List (String × Value)} {place : Option α} :
  Run (Fill keys R) none ms place
    ↔ valuesOf keys ms = [] ∧ place = none
      ∨ ∃ v a, valuesOf keys ms = [v] ∧ R v a ∧ place = some a
  := by
  induction ms with
  | nil => simp [Run, valuesOf]
  | cons m ms ih =>
    rw [Run]
    by_cases hkey : m.1 ∈ keys
    · have hvalues : valuesOf keys (m :: ms) = m.2 :: valuesOf keys ms := by
        simp [valuesOf, hkey]
      simp only [fill_iff_of_mem hkey, true_and, hvalues, List.cons.injEq, reduceCtorEq, false_and,
        false_or]
      constructor
      · rintro ⟨t, ⟨a, ha, rfl⟩, hrun⟩
        obtain ⟨hrest, rfl⟩ := run_fill_some.mp hrun
        exact ⟨m.2, a, ⟨rfl, hrest⟩, ha, rfl⟩
      · rintro ⟨v, a, ⟨rfl, hrest⟩, ha, rfl⟩
        use some a, ⟨a, ha, rfl⟩
        apply run_fill_some.mpr ⟨hrest, rfl⟩
    · have hvalues : valuesOf keys (m :: ms) = valuesOf keys ms := by
        simp [valuesOf, hkey]
      simp only [fill_iff_of_notMem hkey, exists_eq_left, ih, hvalues]

/-- A place that must be full in the end is filled from one member. -/
theorem required_iff {ms : List (String × Value)} {a : α} :
  Run (Fill keys R) none ms (some a) ↔ ∃ v, valuesOf keys ms = [v] ∧ R v a
  := by
  simp [run_fill_none]

/-- A place that has a default is filled from one member, or the default is taken. -/
theorem optional_iff {ms : List (String × Value)} {a default : α} :
  (∃ place, Run (Fill keys R) none ms place ∧ place.getD default = a)
    ↔ valuesOf keys ms = [] ∧ a = default ∨ ∃ v, valuesOf keys ms = [v] ∧ R v a
  := by
  simp only [run_fill_none]
  constructor
  · rintro ⟨place, ⟨hnone, rfl⟩ | ⟨v, b, hv, hb, rfl⟩, rfl⟩
    · left
      constructor
      · apply hnone
      · rfl
    · right
      use v, hv, hb
  · rintro (⟨hnone, rfl⟩ | ⟨v, hv, ha⟩)
    · exact ⟨none, .inl ⟨hnone, rfl⟩, rfl⟩
    · exact ⟨some a, .inr ⟨v, a, hv, ha, rfl⟩, rfl⟩

end Compendium.Config
