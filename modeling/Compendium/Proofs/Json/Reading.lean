import Compendium.Proofs.Except
import Compendium.Proofs.Json.Grammar

/-!
# Reading strings and words

What a reader reads is a matter of the text that follows its place alone: it succeeds exactly
when the text starts with what the grammar allows there, and stops right behind that.  Lines and
columns matter to faults only.
-/

namespace Compendium.Json

/-! ### Places -/

@[simp]
theorem Cursor.past_rest (k : Cursor) (c : Char) (rest : List Char) :
  (k.past c rest).rest = rest
  := by
  rw [Cursor.past]
  split <;> rfl

@[simp]
theorem Cursor.next_rest (k : Cursor) :
  k.next.rest = k.rest.tail
  := by
  rw [Cursor.next]
  split <;> simp [*]

theorem Cursor.skipFrom_rest (k : Cursor) {cs : List Char} (h : k.rest = cs) :
  (k.skipFrom cs).rest = cs.dropWhile Cursor.isSpace
  := by
  induction cs generalizing k with
  | nil => simpa [Cursor.skipFrom] using h
  | cons c cs ih =>
    rw [Cursor.skipFrom]
    split
    · next hc => rw [ih (k.past c cs) (k.past_rest c cs), List.dropWhile_cons_of_pos hc]
    · next hc => rw [h, List.dropWhile_cons_of_neg hc]

theorem Cursor.skip_rest (k : Cursor) :
  k.skip.rest = k.rest.dropWhile Cursor.isSpace
  := k.skipFrom_rest rfl

/-! ### Readers -/

variable {ε ε' α β : Type}

/-- What is read is `a`, and `rest` follows it. -/
def Gives (outcome : Except ε (α × Cursor)) (a : α) (rest : List Char) : Prop :=
  ∃ k, outcome = .ok (a, k) ∧ k.rest = rest

/-- The reader reads just what `R` says the text at a place starts with, and stops behind it. -/
def Reads (read : Cursor → Except ε (α × Cursor)) (R : List Char → α → List Char → Prop) : Prop :=
  ∀ k a rest, Gives (read k) a rest ↔ R k.rest a rest

theorem gives_ok {a b : α} {k : Cursor} {rest : List Char} :
  Gives (.ok (a, k) : Except ε (α × Cursor)) b rest ↔ b = a ∧ rest = k.rest
  := by
  constructor
  · rintro ⟨k', h, rfl⟩
    obtain ⟨rfl, rfl⟩ := Prod.mk.inj (Except.ok.inj h)
    constructor
    · rfl
    · rfl
  · rintro ⟨rfl, rfl⟩
    exact ⟨k, rfl, rfl⟩

@[simp]
theorem not_gives_error {e : ε} {a : α} {rest : List Char} :
  ¬ Gives (.error e) a rest
  := by
  rintro ⟨k, h, -⟩
  contradiction

/-- A reader goes on where the one before it has stopped. -/
theorem gives_bind {outcome : Except ε (α × Cursor)} {R : α → List Char → Prop}
    {after : α × Cursor → Except ε (β × Cursor)} {S : α → List Char → Prop} {b : β}
    {rest : List Char} (h : ∀ a mid, Gives outcome a mid ↔ R a mid)
    (h' : ∀ a k, R a k.rest → (Gives (after (a, k)) b rest ↔ S a k.rest)) :
  Gives (outcome >>= after) b rest ↔ ∃ a mid, R a mid ∧ S a mid
  := by
  constructor
  · rintro ⟨k', hk', rfl⟩
    obtain ⟨⟨a, k⟩, houtcome, hafter⟩ := bind_eq_ok_iff.mp hk'
    have hR := (h a k.rest).mp ⟨k, houtcome, rfl⟩
    use a, k.rest, hR
    apply (h' a k hR).mp ⟨k', hafter, rfl⟩
  · rintro ⟨a, mid, hR, hS⟩
    obtain ⟨k, houtcome, rfl⟩ := (h a mid).mpr hR
    obtain ⟨k', hafter, hk'⟩ := (h' a k hR).mpr hS
    use k', bind_eq_ok_iff.mpr ⟨(a, k), houtcome, hafter⟩, hk'

/-- A reader and a function of what it reads. -/
theorem gives_map {outcome : Except ε (α × Cursor)} {f : α → β} {b : β} {rest : List Char} :
  Gives (outcome >>= fun p => .ok (f p.1, p.2)) b rest
    ↔ ∃ a, Gives outcome a rest ∧ b = f a
  := by
  rw [gives_bind (fun a mid => Iff.rfl) (S := fun a mid => b = f a ∧ rest = mid)
    fun a k _ => gives_ok]
  constructor
  · rintro ⟨a, mid, ha, rfl, rfl⟩
    exact ⟨a, ha, rfl⟩
  · rintro ⟨a, ha, rfl⟩
    exact ⟨a, rest, ha, rfl, rfl⟩

/-! ### Escapes -/

theorem hexDigit_iff {c : Char} {n : Nat} :
  CodeRange.hexDigit? c = some n ↔ HexDigit c n
  := by
  constructor
  · intro h
    rw [CodeRange.hexDigit?] at h
    split at h
    · next hc =>
      obtain rfl := Option.some.inj h
      exact .decimal hc
    · split at h
      · next hc =>
        obtain rfl := Option.some.inj h
        exact .lower hc
      · split at h
        · next hc =>
          obtain rfl := Option.some.inj h
          exact .upper hc
        · contradiction
  · rintro (h | h | h)
    · simp [CodeRange.hexDigit?, h]
    · have hdecimal : ¬ c ≤ '9' := fun hc => absurd (Char.le_trans h.1 hc) (by decide)
      simp [CodeRange.hexDigit?, h, hdecimal]
    · have hdecimal : ¬ c ≤ '9' := fun hc => absurd (Char.le_trans h.1 hc) (by decide)
      have hlower : ¬ 'a' ≤ c := fun hc => absurd (Char.le_trans hc h.2) (by decide)
      simp [CodeRange.hexDigit?, h, hdecimal, hlower]

theorem HexDigit.lt {c : Char} {n : Nat} (h : HexDigit c n) :
  n < 16
  := by
  cases h with
  | decimal h =>
    have hc : c.toNat ≤ 57 := h.2
    have hfirst : '0'.toNat = 48 := rfl
    omega
  | lower h =>
    have hc : c.toNat ≤ 102 := h.2
    have hfirst : 'a'.toNat = 97 := rfl
    omega
  | upper h =>
    have hc : c.toNat ≤ 70 := h.2
    have hfirst : 'A'.toNat = 65 := rfl
    omega

theorem Hex.lt {cs rest : List Char} {n : Nat} (h : Hex cs n rest) :
  n < 0x10000
  := by
  obtain ⟨ha, hb, hc, hd⟩ := h
  have := ha.lt
  have := hb.lt
  have := hc.lt
  have := hd.lt
  omega

theorem hexValue?_iff {a b c d : Char} {n : Nat} {rest : List Char} :
  hexValue? [a, b, c, d] = some n ↔ Hex (a :: b :: c :: d :: rest) n rest
  := by
  constructor
  · intro h
    rw [hexValue?] at h
    split at h
    · next hall =>
      simp only [List.all_cons, List.all_nil, Bool.and_true, Bool.and_eq_true,
        Option.isSome_iff_exists] at hall
      obtain ⟨⟨i, ha⟩, ⟨j, hb⟩, ⟨k, hc⟩, ⟨l, hd⟩⟩ := hall
      have hn : 16 * (16 * (16 * i + j) + k) + l = n := by
        simpa [CodeRange.readHex, ha, hb, hc, hd] using h
      subst hn
      exact .digits (hexDigit_iff.mp ha) (hexDigit_iff.mp hb) (hexDigit_iff.mp hc)
        (hexDigit_iff.mp hd)
    · contradiction
  · rintro ⟨ha, hb, hc, hd⟩
    rw [← hexDigit_iff] at ha hb hc hd
    simp [hexValue?, CodeRange.readHex, ha, hb, hc, hd]

/-- Four hexadecimal digits are read for the number they write. -/
theorem reads_readHex :
  Reads readHex Hex
  := by
  intro k n rest
  constructor
  · rintro ⟨k', h, rfl⟩
    rw [readHex] at h
    split at h
    · next a b c d rest hk =>
      split at h
      · next m hm =>
        obtain ⟨rfl, rfl⟩ := Prod.mk.inj (Except.ok.inj h)
        rw [hk]
        apply hexValue?_iff.mp hm
      · contradiction
    · split at h <;> contradiction
  · intro h
    generalize hk : k.rest = cs at h
    obtain ⟨ha, hb, hc, hd⟩ := h
    have hvalue := hexValue?_iff.mpr (.digits ha hb hc hd : Hex _ _ rest)
    exact ⟨⟨rest, k.line, k.column + 4⟩, by simp [readHex, hk, hvalue], rfl⟩

/-- No character has a number that is half of a pair. -/
theorem not_surrogate (c : Char) :
  isLowSurrogate c.toNat = false ∧ isHighSurrogate c.toNat = false
  := by
  have hc : c.toNat.isValidChar := c.valid
  rw [Nat.isValidChar] at hc
  constructor
  · simp only [isLowSurrogate, Bool.and_eq_false_iff, decide_eq_false_iff_not]
    omega
  · simp only [isHighSurrogate, Bool.and_eq_false_iff, decide_eq_false_iff_not]
    omega

theorem toNat_ofNat {n : Nat} (h : n.isValidChar) :
  (Char.ofNat n).toNat = n
  := by
  rw [Char.ofNat, dif_pos h]
  rfl

/-- A number that is no half of a pair names a character. -/
theorem spelled_code {digits rest : List Char} {n : Nat} (h : Hex digits n rest)
    (hlow : isLowSurrogate n = false) (hhigh : isHighSurrogate n = false) :
  Spelled ('\\' :: 'u' :: digits) (Char.ofNat n) rest
  := by
  have hn := h.lt
  have hvalid : n.isValidChar := by
    simp only [isLowSurrogate, isHighSurrogate, Bool.and_eq_false_iff,
      decide_eq_false_iff_not] at hlow hhigh
    rw [Nat.isValidChar]
    omega
  apply Spelled.code
  rwa [toNat_ofNat hvalid]

/-- The two halves of a pair name a character. -/
theorem spelled_pair {first second rest : List Char} {n m : Nat}
    (h : Hex first n ('\\' :: 'u' :: second)) (hhigh : isHighSurrogate n = true)
    (h' : Hex second m rest) (hlow : isLowSurrogate m = true) :
  Spelled ('\\' :: 'u' :: first)
    (Char.ofNat (0x10000 + (n - 0xd800) * 0x400 + (m - 0xdc00))) rest
  := by
  simp only [isLowSurrogate, isHighSurrogate, Bool.and_eq_true, decide_eq_true_eq] at hhigh hlow
  have hn : 0xd800 + (n - 0xd800) = n := by omega
  have hm : 0xdc00 + (m - 0xdc00) = m := by omega
  have hvalid : (0x10000 + (n - 0xd800) * 0x400 + (m - 0xdc00)).isValidChar := by
    rw [Nat.isValidChar]
    omega
  exact .pair (by rwa [hn]) (by omega) (by rwa [hm]) (by omega) (toNat_ofNat hvalid)

/-- What may stand behind the first number of a code escape that names a character: nothing more
of it, or the second half of a pair. -/
inductive Completed (high : Nat) : List Char → Char → List Char → Prop where
  | alone {rest : List Char} (hlow : isLowSurrogate high = false)
      (hhigh : isHighSurrogate high = false) : Completed high rest (Char.ofNat high) rest
  | pair {second rest : List Char} {low : Nat} (hhigh : isHighSurrogate high = true)
      (h : Hex second low rest) (hlow : isLowSurrogate low = true) :
      Completed high ('\\' :: 'u' :: second)
        (Char.ofNat (0x10000 + (high - 0xd800) * 0x400 + (low - 0xdc00))) rest

/-- A code escape has a first number, and is completed behind it. -/
theorem spelled_iff_completed {digits rest : List Char} {c : Char} :
  Spelled ('\\' :: 'u' :: digits) c rest
    ↔ ∃ high behind, Hex digits high behind ∧ Completed high behind c rest
  := by
  constructor
  · intro h
    cases h with
    | plain hc hquote hslash => contradiction
    | short h => simp [shortEscapes] at h
    | code h =>
      obtain ⟨hlow, hhigh⟩ := not_surrogate c
      have halone : Completed c.toNat rest (Char.ofNat c.toNat) rest := .alone hlow hhigh
      rw [Char.ofNat_toNat] at halone
      exact ⟨_, _, h, halone⟩
    | @pair _ _ _ high low _ hhigh hh hlow hl hc =>
      have hfirst : isHighSurrogate (0xd800 + high) = true := by
        simp only [isHighSurrogate, Bool.and_eq_true, decide_eq_true_eq]
        omega
      have hsecond : isLowSurrogate (0xdc00 + low) = true := by
        simp only [isLowSurrogate, Bool.and_eq_true, decide_eq_true_eq]
        omega
      have hpair := Completed.pair hfirst hlow hsecond
      rw [Nat.add_sub_cancel_left, Nat.add_sub_cancel_left, ← hc, Char.ofNat_toNat] at hpair
      exact ⟨_, _, hhigh, hpair⟩
  · rintro ⟨high, behind, hfirst, hbehind⟩
    cases hbehind with
    | alone hlow hhigh => apply spelled_code hfirst hlow hhigh
    | pair hhigh hsecond hlow => apply spelled_pair hfirst hhigh hsecond hlow

/-- Behind the first half of a pair there must be the second one. -/
theorem completed_high_iff {high : Nat} (hhigh : isHighSurrogate high = true) {cs rest : List Char}
    {c : Char} :
  Completed high cs c rest
    ↔ ∃ second low, cs = '\\' :: 'u' :: second ∧ Hex second low rest
      ∧ isLowSurrogate low = true
      ∧ c = Char.ofNat (0x10000 + (high - 0xd800) * 0x400 + (low - 0xdc00))
  := by
  constructor
  · intro h
    cases h with
    | alone hlow hhigh' => simp [hhigh] at hhigh'
    | pair _ h hlow => exact ⟨_, _, rfl, h, hlow, rfl⟩
  · rintro ⟨second, low, hcs, h, hlow, hc⟩
    rw [hcs, hc]
    exact .pair hhigh h hlow

/-- A number that is no first half of a pair names a character alone, or none at all. -/
theorem completed_other_iff {high : Nat} (hhigh : isHighSurrogate high = false)
    {cs rest : List Char} {c : Char} :
  Completed high cs c rest ↔ isLowSurrogate high = false ∧ c = Char.ofNat high ∧ rest = cs
  := by
  constructor
  · intro h
    cases h with
    | alone hlow => exact ⟨hlow, rfl, rfl⟩
    | pair hhigh' => simp [hhigh] at hhigh'
  · rintro ⟨hlow, rfl, rfl⟩
    exact .alone hlow hhigh

/-- Read the second half of a pair from behind its `u` on. -/
def readSecond (high : Nat) (k : Cursor) : Except Fault (Char × Cursor) :=
  readHex k >>= fun p =>
    if !isLowSurrogate p.1 then .error (p.2.fault .loneSurrogate)
    else .ok (Char.ofNat (0x10000 + (high - 0xd800) * 0x400 + (p.1 - 0xdc00)), p.2)

/-- Read what is left of a code escape behind its first number. -/
def readCompletion (high : Nat) (k : Cursor) : Except Fault (Char × Cursor) :=
  if isLowSurrogate high then .error (k.fault .loneSurrogate)
  else if !isHighSurrogate high then .ok (Char.ofNat high, k)
  else match k.rest with
    | [] => .error (k.fault .unfinishedString)
    | '\\' :: _ => match k.next.rest with
      | [] => .error (k.next.fault .unfinishedString)
      | 'u' :: _ => readSecond high k.next.next
      | _ => .error (k.next.faultNext .unfinishedSurrogate)
    | _ => .error (k.faultNext .unfinishedSurrogate)

theorem readCodeEscape_eq (k : Cursor) :
  readCodeEscape k = readHex k >>= fun p => readCompletion p.1 p.2
  := rfl

theorem gives_readSecond {high : Nat} {k : Cursor} {c : Char} {rest : List Char} :
  Gives (readSecond high k) c rest
    ↔ ∃ low, Hex k.rest low rest ∧ isLowSurrogate low = true
      ∧ c = Char.ofNat (0x10000 + (high - 0xd800) * 0x400 + (low - 0xdc00))
  := by
  rw [readSecond, gives_bind (reads_readHex k) (S := fun low mid => isLowSurrogate low = true
    ∧ c = Char.ofNat (0x10000 + (high - 0xd800) * 0x400 + (low - 0xdc00)) ∧ rest = mid)]
  · constructor
    · rintro ⟨low, mid, h, hlow, hc, rfl⟩
      exact ⟨low, h, hlow, hc⟩
    · rintro ⟨low, h, hlow, hc⟩
      exact ⟨low, rest, h, hlow, hc, rfl⟩
  · intro low k' _
    cases hlow : isLowSurrogate low <;> simp [gives_ok]

theorem not_low_of_high {n : Nat} (h : isHighSurrogate n = true) :
  isLowSurrogate n = false
  := by
  simp only [isHighSurrogate, Bool.and_eq_true, decide_eq_true_eq] at h
  simp only [isLowSurrogate, Bool.and_eq_false_iff, decide_eq_false_iff_not]
  omega

theorem gives_readCompletion {high : Nat} {k : Cursor} {c : Char} {rest : List Char} :
  Gives (readCompletion high k) c rest ↔ Completed high k.rest c rest
  := by
  rw [readCompletion]
  cases hhigh : isHighSurrogate high with
  | false =>
    rw [completed_other_iff hhigh]
    cases isLowSurrogate high <;> simp [gives_ok]
  | true =>
    rw [completed_high_iff hhigh, not_low_of_high hhigh, if_neg (by decide), if_neg (by decide)]
    split
    · next hk => simp [hk]
    · next tail hk =>
      rw [Cursor.next_rest, hk, List.tail_cons]
      split
      · simp
      · next second =>
        rw [gives_readSecond, Cursor.next_rest, Cursor.next_rest, hk]
        simp
      · next hu =>
        have hno : ∀ second, tail ≠ 'u' :: second := hu
        simp [hno]
    · next hslash =>
      have hno : ∀ second, k.rest ≠ '\\' :: second := hslash
      simp [hno]

/-- A code escape is read from behind its `u` on. -/
theorem reads_readCodeEscape :
  Reads readCodeEscape fun cs c rest => Spelled ('\\' :: 'u' :: cs) c rest
  := by
  intro k c rest
  dsimp only
  rw [readCodeEscape_eq, spelled_iff_completed, gives_bind (reads_readHex k)
    (S := fun high behind => Completed high behind c rest)]
  intro high k' _
  apply gives_readCompletion

/-- An escape is read from behind its backslash on. -/
theorem reads_readEscape :
  Reads readEscape fun cs c rest => Spelled ('\\' :: cs) c rest
  := by
  intro k c rest
  constructor
  · rintro ⟨k', h, rfl⟩
    rw [readEscape] at h
    split at h
    case h_1 => contradiction
    case h_10 cs hk =>
      have hcode := (reads_readCodeEscape k.next c k'.rest).mp ⟨k', h, rfl⟩
      rw [hk]
      simpa [hk] using hcode
    case h_11 => contradiction
    all_goals
      next hk =>
      obtain ⟨rfl, rfl⟩ := Prod.mk.inj (Except.ok.inj h)
      rw [Cursor.next_rest, hk]
      apply Spelled.short
      simp [shortEscapes]
  · intro h
    generalize hk : k.rest = cs at h
    cases h with
    | plain hc hquote hslash => contradiction
    | @short mark _ _ h =>
      have hread : readEscape k = .ok (c, k.next) := by
        simp only [shortEscapes, List.mem_cons, Prod.mk.injEq, List.not_mem_nil, or_false] at h
        rcases h with ⟨rfl, rfl⟩ | ⟨rfl, rfl⟩ | ⟨rfl, rfl⟩ | ⟨rfl, rfl⟩ | ⟨rfl, rfl⟩ | ⟨rfl, rfl⟩ |
          ⟨rfl, rfl⟩ | ⟨rfl, rfl⟩ <;> simp [readEscape, hk]
      use k.next, hread
      rw [Cursor.next_rest, hk, List.tail_cons]
    | code h =>
      have hcode := (reads_readCodeEscape k.next c rest).mpr (by simpa [hk] using Spelled.code h)
      simpa [readEscape, hk] using hcode
    | pair hhigh hh hlow hl hc =>
      have hcode := (reads_readCodeEscape k.next c rest).mpr
        (by simpa [hk] using Spelled.pair hhigh hh hlow hl hc)
      simpa [readEscape, hk] using hcode

/-! ### Strings -/

/-- The next character of a string is not the quote that ends it. -/
theorem gives_character {d : Char} {ds : List Char} (hquote : d ≠ '"') {k : Cursor}
    (hk : k.rest = d :: ds) (c : Char) (rest : List Char) :
  Gives (if d = '\\' then readEscape k.next
      else if d.toNat < 0x20 then .error (k.faultNext .controlCharacter)
      else .ok (d, k.next)) c rest
    ↔ Spelled k.rest c rest
  := by
  split
  · next hslash =>
    subst hslash
    rw [reads_readEscape k.next c rest, Cursor.next_rest, hk, List.tail_cons]
  next hslash =>
  split
  · next hc =>
    simp only [not_gives_error, false_iff, hk]
    intro h
    cases h with
    | plain hc' => omega
    | _ => contradiction
  · next hc =>
    rw [gives_ok, Cursor.next_rest, hk, List.tail_cons]
    constructor
    · rintro ⟨rfl, rfl⟩
      exact .plain (by omega) hquote hslash
    · intro h
      cases h with
      | plain =>
        constructor
        · rfl
        · rfl
      | _ => contradiction

theorem not_contents_nil {cs rest : List Char} :
  ¬ Contents [] cs rest
  := by
  intro h
  cases h with
  | more hc => cases hc

/-- A quote ends a string. -/
theorem contents_quote_iff {ds cs rest : List Char} :
  Contents ('"' :: ds) cs rest ↔ cs = [] ∧ rest = ds
  := by
  constructor
  · intro h
    cases h with
    | done =>
      constructor
      · rfl
      · rfl
    | more hc => cases hc; contradiction
  · rintro ⟨rfl, rfl⟩
    exact .done

/-- A string goes on with a character if there is no quote. -/
theorem contents_other_iff {d : Char} {ds cs rest : List Char} (hquote : d ≠ '"') :
  Contents (d :: ds) cs rest
    ↔ ∃ c mid, Spelled (d :: ds) c mid ∧ ∃ s, Contents mid s rest ∧ cs = c :: s
  := by
  constructor
  · intro h
    cases h with
    | done => contradiction
    | more hc hs => exact ⟨_, _, hc, _, hs, rfl⟩
  · rintro ⟨c, mid, hc, s, hs, rfl⟩
    exact .more hc hs

/-- The characters of a string are read up to the quote that ends it. -/
theorem gives_readChars {fuel : Nat} {k : Cursor} (hfuel : k.rest.length < fuel)
    (cs rest : List Char) :
  Gives (readChars fuel k) cs rest ↔ Contents k.rest cs rest
  := by
  induction fuel generalizing k cs with
  | zero => contradiction
  | succ fuel ih =>
    cases hk : k.rest with
    | nil =>
      have hend : readChars (fuel + 1) k = .error (k.fault .unfinishedString) := by
        rw [readChars.eq_def, hk]
      simp [hend, not_contents_nil]
    | cons d ds =>
      by_cases hquote : d = '"'
      · subst hquote
        have hend : readChars (fuel + 1) k = .ok ([], k.next) := by
          rw [readChars.eq_def, hk]
          rfl
        rw [hend, gives_ok, Cursor.next_rest, hk, List.tail_cons, contents_quote_iff]
      · have hstep : readChars (fuel + 1) k =
            (if d = '\\' then readEscape k.next
              else if d.toNat < 0x20 then .error (k.faultNext .controlCharacter)
              else .ok (d, k.next)) >>=
              fun p => readChars fuel p.2 >>= fun q => .ok (p.1 :: q.1, q.2) := by
          rw [readChars.eq_def, hk]
          simp only [if_neg hquote]
          split
          · rfl
          · split <;> rfl
        rw [hstep, contents_other_iff hquote, ← hk, gives_bind (gives_character hquote hk)
          (S := fun c mid => ∃ s, Contents mid s rest ∧ cs = c :: s)]
        intro c k' hc
        have hlength : k'.rest.length < fuel := by
          have hlt := hc.length_lt
          omega
        rw [gives_map]
        apply exists_congr
        intro s
        rw [ih hlength]

/-- A string is read from behind its quote on. -/
theorem reads_readString :
  Reads readString fun cs s rest => Contents cs s.toList rest
  := by
  intro k s rest
  have hstep : readString k =
      readChars (k.rest.length + 1) k >>= fun p => .ok (String.ofList p.1, p.2) := rfl
  rw [hstep, gives_map]
  constructor
  · rintro ⟨cs, hcs, rfl⟩
    rw [gives_readChars (Nat.lt_succ_self _)] at hcs
    rwa [String.toList_ofList]
  · intro h
    have hread := (gives_readChars (Nat.lt_succ_self k.rest.length) s.toList rest).mpr h
    use s.toList, hread, String.ofList_toList.symm

/-! ### Words -/

/-- The rest of a word is read if it is there. -/
theorem readWord_iff {k : Cursor} {word rest : List Char} :
  (∃ k', readWord k word = .ok k' ∧ k'.rest = rest) ↔ k.rest = word ++ rest
  := by
  induction word generalizing k with
  | nil =>
    constructor
    · rintro ⟨k', h, rfl⟩
      obtain rfl := Except.ok.inj h
      rfl
    · intro h
      use k, rfl, h
  | cons c word ih =>
    rw [readWord]
    split
    · next hk => simp [hk]
    · next d ds hk =>
      split
      · next hc =>
        rw [ih, Cursor.next_rest, hk, hc]
        simp
      · next hc => simp [hk, Ne.symm hc]

end Compendium.Json
