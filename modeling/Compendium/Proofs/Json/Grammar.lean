import Mathlib.Data.List.DropRight
import Mathlib.Data.List.TakeWhile
import Compendium.Json.Scalar

/-!
# The grammar of JSON

`Denotes cs v rest` says that the text `cs` starts with a JSON value that stands for `v`, and
that `rest` is what follows the value.  Blanks may stand before every part of a value.  An object
denotes the list of its members in the order in which they are written, so that a key that comes
twice is there twice.  A number denotes the numeral that writes it.
-/

namespace Compendium.Json

/-- A JSON value. -/
inductive Value where
  | null
  | bool (b : Bool)
  | number (numeral : List Char)
  | string (s : String)
  | list (vs : List Value)
  | object (ms : List (String × Value))

/-! ### Blanks -/

/-- The text `rest` is `cs` without some of the blanks at its start. -/
def Blanks (cs rest : List Char) : Prop :=
  ∃ blanks, (∀ c ∈ blanks, Cursor.isSpace c = true) ∧ cs = blanks ++ rest

/-- The mark `c` comes next, after blanks, and `rest` follows it. -/
def Mark (c : Char) (cs rest : List Char) : Prop := Blanks cs (c :: rest)

/-! ### Strings -/

/-- The escapes of one character, with what each stands for. -/
def shortEscapes : List (Char × Char) :=
  [('"', '"'), ('\\', '\\'), ('/', '/'), ('b', '\x08'), ('f', '\x0c'), ('n', '\n'), ('r', '\r'),
    ('t', '\t')]

/-- The hexadecimal digit `c` stands for `n`. -/
inductive HexDigit : Char → Nat → Prop where
  | decimal {c : Char} (h : '0' ≤ c ∧ c ≤ '9') : HexDigit c (c.toNat - '0'.toNat)
  | lower {c : Char} (h : 'a' ≤ c ∧ c ≤ 'f') : HexDigit c (c.toNat - 'a'.toNat + 10)
  | upper {c : Char} (h : 'A' ≤ c ∧ c ≤ 'F') : HexDigit c (c.toNat - 'A'.toNat + 10)

/-- The text starts with four hexadecimal digits that write `n`. -/
inductive Hex : List Char → Nat → List Char → Prop where
  | digits {a b c d : Char} {i j k l : Nat} {rest : List Char} (ha : HexDigit a i)
      (hb : HexDigit b j) (hc : HexDigit c k) (hd : HexDigit d l) :
      Hex (a :: b :: c :: d :: rest) (16 * (16 * (16 * i + j) + k) + l) rest

/-- The text starts with the character `c` as it may be spelled in a string.  A character beyond
the first `0x10000` is escaped as a pair. -/
inductive Spelled : List Char → Char → List Char → Prop where
  | plain {c : Char} {rest : List Char} (hc : 0x20 ≤ c.toNat) (hquote : c ≠ '"')
      (hslash : c ≠ '\\') : Spelled (c :: rest) c rest
  | short {mark c : Char} {rest : List Char} (h : (mark, c) ∈ shortEscapes) :
      Spelled ('\\' :: mark :: rest) c rest
  | code {digits : List Char} {c : Char} {rest : List Char} (h : Hex digits c.toNat rest) :
      Spelled ('\\' :: 'u' :: digits) c rest
  | pair {first second : List Char} {c : Char} {high low : Nat} {rest : List Char}
      (hhigh : Hex first (0xd800 + high) ('\\' :: 'u' :: second)) (hh : high < 0x400)
      (hlow : Hex second (0xdc00 + low) rest) (hl : low < 0x400)
      (hc : c.toNat = 0x10000 + high * 0x400 + low) :
      Spelled ('\\' :: 'u' :: first) c rest

/-- The text behind the quote that starts a string: its characters, and the quote that ends
it. -/
inductive Contents : List Char → List Char → List Char → Prop where
  | done {rest : List Char} : Contents ('"' :: rest) [] rest
  | more {cs next s rest : List Char} {c : Char} (hc : Spelled cs c next)
      (hs : Contents next s rest) : Contents cs (c :: s) rest

/-- A string comes next. -/
def Literal (cs : List Char) (s : String) (rest : List Char) : Prop :=
  ∃ inside, Mark '"' cs inside ∧ Contents inside s.toList rest

/-! ### Numbers -/

/-- One decimal digit or more. -/
def IsDigits (ds : List Char) : Prop := ds ≠ [] ∧ ∀ d ∈ ds, d.isDigit = true

/-- A numeral: a sign may come first, the whole part has no zero before other digits, and a
fraction and an exponent may follow. -/
inductive Numeral : List Char → Prop where
  | parts {sign whole fraction exponent : List Char}
      (hsign : sign = [] ∨ sign = ['-'])
      (hwhole : whole = ['0'] ∨ IsDigits whole ∧ whole.head? ≠ some '0')
      (hfraction : fraction = [] ∨ ∃ ds, fraction = '.' :: ds ∧ IsDigits ds)
      (hexponent : exponent = [] ∨ ∃ e s ds, exponent = e :: s ++ ds ∧ (e = 'e' ∨ e = 'E')
        ∧ (s = [] ∨ s = ['+'] ∨ s = ['-']) ∧ IsDigits ds) :
      Numeral (sign ++ whole ++ fraction ++ exponent)

/-! ### Values -/

/-- What stands before an element of a list or a member of an object: a comma, unless it is the
first. -/
inductive Comma : Bool → List Char → List Char → Prop where
  | first {cs : List Char} : Comma true cs cs
  | next {cs rest : List Char} (h : Mark ',' cs rest) : Comma false cs rest

mutual

/-- The text starts with a value. -/
inductive Denotes : List Char → Value → List Char → Prop where
  | null {cs rest : List Char} (h : Blanks cs ("null".toList ++ rest)) : Denotes cs .null rest
  | isTrue {cs rest : List Char} (h : Blanks cs ("true".toList ++ rest)) :
      Denotes cs (.bool true) rest
  | isFalse {cs rest : List Char} (h : Blanks cs ("false".toList ++ rest)) :
      Denotes cs (.bool false) rest
  | number {cs numeral rest : List Char} (h : Blanks cs (numeral ++ rest))
      (hn : Numeral numeral) : Denotes cs (.number numeral) rest
  | string {cs rest : List Char} {s : String} (h : Literal cs s rest) :
      Denotes cs (.string s) rest
  | list {cs inside rest : List Char} {vs : List Value} (hopen : Mark '[' cs inside)
      (hvs : Elements true inside vs rest) : Denotes cs (.list vs) rest
  | object {cs inside rest : List Char} {ms : List (String × Value)} (hopen : Mark '{' cs inside)
      (hms : Members true inside ms rest) : Denotes cs (.object ms) rest

/-- The text starts with elements of a list and its end; the flag says that they are all. -/
inductive Elements : Bool → List Char → List Value → List Char → Prop where
  | done {first : Bool} {cs rest : List Char} (h : Mark ']' cs rest) : Elements first cs [] rest
  | more {first : Bool} {cs item next rest : List Char} {v : Value} {vs : List Value}
      (hcomma : Comma first cs item) (hv : Denotes item v next)
      (hvs : Elements false next vs rest) : Elements first cs (v :: vs) rest

/-- The text starts with members of an object and its end; the flag says that they are all. -/
inductive Members : Bool → List Char → List (String × Value) → List Char → Prop where
  | done {first : Bool} {cs rest : List Char} (h : Mark '}' cs rest) : Members first cs [] rest
  | more {first : Bool} {cs item colon value next rest : List Char} {key : String} {v : Value}
      {ms : List (String × Value)} (hcomma : Comma first cs item) (hkey : Literal item key colon)
      (hcolon : Mark ':' colon value) (hv : Denotes value v next)
      (hms : Members false next ms rest) : Members first cs ((key, v) :: ms) rest

end

/-- The text is a JSON text for `v`: it holds the value and blanks, and nothing else. -/
def Text (cs : List Char) (v : Value) : Prop :=
  ∃ rest, Denotes cs v rest ∧ Blanks rest []

/-! ### What comes next -/

theorem blanks_dropWhile (cs : List Char) :
  Blanks cs (cs.dropWhile Cursor.isSpace)
  := ⟨cs.takeWhile Cursor.isSpace, fun _ => List.mem_takeWhile_imp,
    List.takeWhile_append_dropWhile.symm⟩

/-- Whether a character may stand between the parts of a text decides which mark comes next. -/
theorem mark_iff {c : Char} (hc : Cursor.isSpace c = false) {cs rest : List Char} :
  Mark c cs rest ↔ cs.dropWhile Cursor.isSpace = c :: rest
  := by
  constructor
  · rintro ⟨blanks, hblanks, rfl⟩
    rw [List.dropWhile_append_of_pos hblanks, List.dropWhile_cons_of_neg (by simp [hc])]
  · intro h
    rw [Mark, ← h]
    apply blanks_dropWhile

theorem Blanks.refl (cs : List Char) :
  Blanks cs cs
  := ⟨[], by simp, rfl⟩

theorem Blanks.trans {cs mid rest : List Char} (h : Blanks cs mid) (h' : Blanks mid rest) :
  Blanks cs rest
  := by
  obtain ⟨before, hbefore, rfl⟩ := h
  obtain ⟨behind, hbehind, rfl⟩ := h'
  refine ⟨before ++ behind, ?_, by rw [List.append_assoc]⟩
  intro c hc
  apply (List.mem_append.mp hc).elim (hbefore c) (hbehind c)

theorem mark_dropWhile {c : Char} (hc : Cursor.isSpace c = false) {cs rest : List Char} :
  Mark c (cs.dropWhile Cursor.isSpace) rest ↔ Mark c cs rest
  := by
  rw [mark_iff hc, mark_iff hc, List.dropWhile_idempotent]

/-- A numeral starts with a sign or a digit. -/
theorem Numeral.start {numeral : List Char} (h : Numeral numeral) :
  ∃ c tail, numeral = c :: tail ∧ (c = '-' ∨ c.isDigit = true)
  := by
  obtain ⟨hsign, hwhole, -, -⟩ := h
  rcases hsign with rfl | rfl
  · rcases hwhole with rfl | ⟨⟨hne, hdigits⟩, -⟩
    · exact ⟨'0', _, rfl, .inr (by decide)⟩
    · obtain ⟨c, tail, rfl⟩ := List.exists_cons_of_ne_nil hne
      exact ⟨c, _, rfl, .inr (hdigits c List.mem_cons_self)⟩
  · exact ⟨'-', _, rfl, .inl rfl⟩

/-- Such a character is no blank. -/
theorem isSpace_of_numeral {c : Char} (hc : c = '-' ∨ c.isDigit = true) :
  Cursor.isSpace c = false
  := by
  rcases hc with rfl | hc
  · decide
  · apply Bool.eq_false_iff.mpr
    intro hspace
    simp only [Cursor.isSpace, Bool.or_eq_true, decide_eq_true_eq] at hspace
    rcases hspace with ((rfl | rfl) | rfl) | rfl <;> contradiction

/-- A value starts with a character that is no blank and does not end a list. -/
theorem Denotes.start {cs rest : List Char} {v : Value} (h : Denotes cs v rest) :
  ∃ c tail, Mark c cs tail ∧ Cursor.isSpace c = false ∧ c ≠ ']'
  := by
  cases h with
  | null h => exact ⟨'n', _, h, by decide⟩
  | isTrue h => exact ⟨'t', _, h, by decide⟩
  | isFalse h => exact ⟨'f', _, h, by decide⟩
  | string h =>
    obtain ⟨inside, hquote, -⟩ := h
    use '"', inside, hquote
    decide
  | list hopen => exact ⟨'[', _, hopen, by decide⟩
  | object hopen => exact ⟨'{', _, hopen, by decide⟩
  | number h hn =>
    obtain ⟨c, tail, rfl, hc⟩ := hn.start
    refine ⟨c, _, h, isSpace_of_numeral hc, ?_⟩
    rintro rfl
    simp at hc

/-- Blanks before a part of a text do not change what it starts with. -/
theorem Denotes.of_blanks {cs start rest : List Char} {v : Value} (hcs : Blanks cs start)
    (h : Denotes start v rest) :
  Denotes cs v rest
  := by
  cases h with
  | null h => exact .null (hcs.trans h)
  | isTrue h => exact .isTrue (hcs.trans h)
  | isFalse h => exact .isFalse (hcs.trans h)
  | number h hn => exact .number (hcs.trans h) hn
  | string h =>
    obtain ⟨inside, hquote, hs⟩ := h
    exact .string ⟨inside, hcs.trans hquote, hs⟩
  | list hopen hvs => exact .list (hcs.trans hopen) hvs
  | object hopen hms => exact .object (hcs.trans hopen) hms

/-- Blanks before a value do not matter. -/
theorem denotes_dropWhile {cs rest : List Char} {v : Value} :
  Denotes (cs.dropWhile Cursor.isSpace) v rest ↔ Denotes cs v rest
  := by
  constructor
  · apply Denotes.of_blanks (blanks_dropWhile cs)
  · intro h
    cases h with
    | null h => exact .null ((mark_dropWhile (by decide)).mpr h)
    | isTrue h => exact .isTrue ((mark_dropWhile (by decide)).mpr h)
    | isFalse h => exact .isFalse ((mark_dropWhile (by decide)).mpr h)
    | number h hn =>
      obtain ⟨c, tail, rfl, hc⟩ := hn.start
      exact .number ((mark_dropWhile (isSpace_of_numeral hc)).mpr h) hn
    | string h =>
      obtain ⟨inside, hquote, hs⟩ := h
      exact .string ⟨inside, (mark_dropWhile (by decide)).mpr hquote, hs⟩
    | list hopen hvs => exact .list ((mark_dropWhile (by decide)).mpr hopen) hvs
    | object hopen hms => exact .object ((mark_dropWhile (by decide)).mpr hopen) hms

/-- A string without escapes comes next. -/
theorem literal_of_plain {cs rest : List Char} {s : String}
    (h : Mark '"' cs (s.toList ++ '"' :: rest))
    (hs : ∀ c ∈ s.toList, 0x20 ≤ c.toNat ∧ c ≠ '"' ∧ c ≠ '\\') :
  Literal cs s rest
  := by
  refine ⟨_, h, ?_⟩
  generalize s.toList = characters at hs
  induction characters with
  | nil => exact .done
  | cons c characters ih =>
    obtain ⟨⟨hc, hquote, hslash⟩, hrest⟩ := List.forall_mem_cons.mp hs
    exact .more (.plain hc hquote hslash) (ih hrest)

/-! ### Lengths -/

theorem Blanks.length_le {cs rest : List Char} (h : Blanks cs rest) :
  rest.length ≤ cs.length
  := by
  obtain ⟨blanks, -, rfl⟩ := h
  simp

theorem Mark.length_lt {c : Char} {cs rest : List Char} (h : Mark c cs rest) :
  rest.length < cs.length
  := Blanks.length_le h

theorem Hex.length_lt {cs rest : List Char} {n : Nat} (h : Hex cs n rest) :
  rest.length < cs.length
  := by
  cases h
  simp only [List.length_cons]
  omega

/-- A character takes at least one place. -/
theorem Spelled.length_lt {cs rest : List Char} {c : Char} (h : Spelled cs c rest) :
  rest.length < cs.length
  := by
  cases h with
  | plain => simp
  | short =>
    simp only [List.length_cons]
    omega
  | code h =>
    have hdigits := h.length_lt
    simp only [List.length_cons]
    omega
  | pair hhigh hh hlow hl hc =>
    have hfirst := hhigh.length_lt
    have hsecond := hlow.length_lt
    simp only [List.length_cons] at *
    omega

theorem Contents.length_lt {cs s rest : List Char} (h : Contents cs s rest) :
  rest.length < cs.length
  := by
  induction h with
  | done => simp
  | more hc hs ih => apply Nat.lt_trans ih hc.length_lt

theorem Literal.length_lt {cs rest : List Char} {s : String} (h : Literal cs s rest) :
  rest.length < cs.length
  := by
  obtain ⟨inside, hquote, hs⟩ := h
  apply Nat.lt_trans hs.length_lt hquote.length_lt

theorem Comma.length_le {first : Bool} {cs rest : List Char} (h : Comma first cs rest) :
  rest.length ≤ cs.length
  := by
  cases h with
  | first => apply Nat.le_refl _
  | next h => apply Nat.le_of_lt (Mark.length_lt h)

mutual

/-- A value takes at least one place. -/
theorem Denotes.length_lt {cs rest : List Char} {v : Value} :
    Denotes cs v rest → rest.length < cs.length
  | .null h => Nat.lt_of_lt_of_le (by simp; omega) h.length_le
  | .isTrue h => Nat.lt_of_lt_of_le (by simp; omega) h.length_le
  | .isFalse h => Nat.lt_of_lt_of_le (by simp; omega) h.length_le
  | .number h hn => by
    have hlength := h.length_le
    obtain ⟨c, tail, rfl, -⟩ := hn.start
    rw [List.cons_append, List.length_cons, List.length_append] at hlength
    omega
  | .string h => h.length_lt
  | .list hopen hvs => Nat.lt_trans (Elements.length_lt hvs) (Mark.length_lt hopen)
  | .object hopen hms => Nat.lt_trans (Members.length_lt hms) (Mark.length_lt hopen)

theorem Elements.length_lt {first : Bool} {cs rest : List Char} {vs : List Value} :
    Elements first cs vs rest → rest.length < cs.length
  | .done h => Mark.length_lt h
  | .more hcomma hv hvs =>
    calc rest.length
        < _ := Elements.length_lt hvs
      _ < _ := Denotes.length_lt hv
      _ ≤ cs.length := hcomma.length_le

theorem Members.length_lt {first : Bool} {cs rest : List Char} {ms : List (String × Value)} :
    Members first cs ms rest → rest.length < cs.length
  | .done h => Mark.length_lt h
  | .more hcomma hkey hcolon hv hms =>
    calc rest.length
        < _ := Members.length_lt hms
      _ < _ := Denotes.length_lt hv
      _ < _ := Mark.length_lt hcolon
      _ < _ := hkey.length_lt
      _ ≤ cs.length := hcomma.length_le

end

end Compendium.Json
