import Compendium.Proofs.Pattern.Letters

/-!
# The glob of a segment

The glob that is built for a segment takes the pieces of the segment as they are written, except
that braces and runs of stars are rewritten inside classes too, where a backslash is a member.
-/

namespace Compendium.Segment

/-- The piece as the glob spells it. -/
def Piece.respelled : Piece → Piece
  | .oneOf negated members => .oneOf negated (globText false members)
  | piece => piece

/-- The tokens of pieces as the glob spells them; `afterRun` says whether a run is before them. -/
def tokens? (afterRun : Bool) (pieces : Option (List Piece)) : Option (List Glob.Token) :=
  pieces.bind fun pieces => (merged afterRun (pieces.map Piece.respelled)).mapM Piece.token?

/-! ### The text of a glob -/

section

variable {afterStar : Bool} {c : Char} {rest : List Char}

theorem globText_star :
  globText afterStar ('*' :: rest)
    = if afterStar then globText true rest else '*' :: globText true rest
  := by
  rw [globText] <;> simp

theorem globText_brace (h : c = '{' ∨ c = '}') :
  globText afterStar (c :: rest) = '\\' :: c :: globText false rest
  := by
  rcases h with rfl | rfl <;> rw [globText] <;> simp

theorem globText_plain (h : c ∉ ['\\', '*', '{', '}']) :
  globText afterStar (c :: rest) = c :: globText false rest
  := by
  simp only [List.mem_cons, not_or, List.not_mem_nil] at h
  rw [globText] <;> simp_all

/-- What is written before a closing bracket has no part in what is written behind it. -/
theorem globText_closed (members : List Char) :
  globText afterStar (members ++ ']' :: rest)
    = globText afterStar members ++ ']' :: globText false rest
  := by
  fun_induction globText afterStar members with
  | case1 => apply globText_plain (by decide)
  | case2 => rfl
  | case3 _ d members ih =>
    apply congrArg ('\\' :: d :: ·) ih
  | case4 members _ _ ih =>
    rw [List.cons_append, globText_star, if_pos rfl, ih]
  | case5 _ members hstar _ _ ih =>
    rw [List.cons_append, globText_star, if_neg hstar, ih]
    rfl
  | case6 _ c members _ _ _ hbrace ih =>
    rw [List.cons_append, globText_brace hbrace, ih]
    rfl
  | case7 _ c members hnil hcons hstar hbrace ih =>
    have hplain : c ∉ ['\\', '*', '{', '}'] := by
      cases members <;> simp_all
    rw [List.cons_append, globText_plain hplain, ih]
    rfl

theorem not_mem_globText {raw : List Char} (h : ']' ∉ raw) :
  ']' ∉ globText afterStar raw
  := by
  fun_induction globText afterStar raw <;> simp_all

/-- No star is written behind a star. -/
theorem head?_globText_ne_star (raw : List Char) :
  (globText true raw).head? ≠ some '*'
  := by
  induction raw with
  | nil => simp [globText]
  | cons c rest ih =>
    by_cases hstar : c = '*'
    · rwa [hstar, globText_star, if_pos rfl]
    · unfold globText
      split <;> simp_all
      split <;> simp_all

/-- The text of a glob begins with the first character of the segment, or with a backslash. -/
theorem globText_cons (c : Char) (rest : List Char) :
  ∃ c' rest', globText false (c :: rest) = c' :: rest' ∧ (c' = c ∨ c' = '\\')
    ∧ (']' ∉ rest → ']' ∉ rest')
  := by
  by_cases hescape : c = '\\'
  · subst hescape
    cases rest with
    | nil => use '\\', [], rfl, .inl rfl, id
    | cons d rest =>
      use '\\', d :: globText false rest, rfl, .inl rfl
      simp only [List.mem_cons, not_or]
      rintro ⟨hd, hrest⟩
      use hd
      apply not_mem_globText hrest
  by_cases hstar : c = '*'
  · subst hstar
    use '*', globText true rest, globText_star, .inl rfl, not_mem_globText
  by_cases hbrace : c = '{' ∨ c = '}'
  · use '\\', c :: globText false rest, globText_brace hbrace, .inr rfl
    intro hrest
    rcases hbrace with rfl | rfl <;> simpa using not_mem_globText hrest
  · refine ⟨c, globText false rest, globText_plain ?_, .inl rfl, not_mem_globText⟩
    simp_all

/-- A class has a sign of negation in the glob only if it has one. -/
theorem head?_globText_sign
    (h : (globText false rest).head? = some '!' ∨ (globText false rest).head? = some '^') :
  rest.head? = some '!' ∨ rest.head? = some '^'
  := by
  cases rest with
  | nil => simp [globText] at h
  | cons c rest =>
    obtain ⟨_, rest', heq, rfl | rfl, -⟩ := globText_cons c rest
    · simpa [heq] using h
    · simp [heq] at h

end

/-! ### The tokens of a glob -/

section

variable {afterRun : Bool} {rest : Option (List Piece)}

theorem tokens?_cons {piece : Piece} (h : piece ≠ .run) :
  tokens? afterRun (rest.map (piece :: ·))
    = piece.respelled.token?.bind fun token => (tokens? false rest).map (token :: ·)
  := by
  cases rest with
  | none => cases piece.respelled.token? <;> rfl
  | some rest =>
    have hmerged : merged afterRun (piece.respelled :: rest.map Piece.respelled)
        = piece.respelled :: merged false (rest.map Piece.respelled) := by
      cases piece <;> first | contradiction | rfl
    simp only [tokens?, Option.map_some, Option.bind_some, List.map_cons, hmerged,
      mapM_token?_cons]

theorem tokens?_run :
  tokens? afterRun (rest.map (.run :: ·))
    = if afterRun then tokens? true rest else (tokens? true rest).map (.star :: ·)
  := by
  cases rest with
  | none => cases afterRun <;> rfl
  | some rest =>
    cases afterRun with
    | false => apply mapM_token?_cons
    | true => rfl

/-- A piece of which the token is known is read before the others. -/
theorem tokens?_token {piece : Piece} (h : piece ≠ .run) {token : Glob.Token}
    (htoken : piece.respelled.token? = some token) (tokens : List Glob.Token) :
  (tokens? afterRun (rest.map (piece :: ·))).map (tokens.reverse ++ ·)
    = (tokens? false rest).map ((token :: tokens).reverse ++ ·)
  := by
  simp [tokens?_cons h, htoken, Function.comp_def]

end

/-- Whether the text that is written for a segment is read as the tokens of its pieces, whatever has
been read before it. -/
def ReadsBack (afterStar : Bool) (raw : List Char) : Prop :=
  ∀ tokens before, (Glob.readFrom ⟨tokens, []⟩ before (globText afterStar raw)).toOption
    = (tokens? afterStar (pieces? none raw)).map (tokens.reverse ++ ·)

/-- What a class is read as, when that is settled for the texts behind it. -/
theorem readClass_globText (afterStar negated : Bool) (tokens : List Glob.Token) {text : List Char}
    (hrest : ∀ rest : List Char, rest.length < text.length → ReadsBack false rest) :
  ((Glob.readClass ⟨[], true, false⟩ (globText false text)).toOption.bind fun (ranges, behind) =>
      (Glob.readFrom ⟨.charClass negated ranges :: tokens, []⟩ (some ']') behind).toOption)
    = (tokens? afterStar (pieces? (some (negated, [])) text)).map (tokens.reverse ++ ·)
  := by
  cases text with
  | nil => rfl
  | cons c text =>
    by_cases hclosed : ']' ∈ text
    · obtain ⟨members, rest, rfl, hmembers⟩ := List.eq_append_cons_of_mem hclosed
      obtain ⟨c', members', heq, -, hmembers'⟩ := globText_cons c members
      have hlength : rest.length < (c :: (members ++ ']' :: rest)).length := by
        simp
        omega
      rw [← List.cons_append, globText_closed, heq,
        Glob.readClass_closed c' (hmembers' hmembers), ← heq, List.cons_append, pieces?_first,
        pieces?_closed negated (List.cons_ne_nil c []) hmembers, tokens?_cons (by simp)]
      simp only [List.reverse_singleton, List.singleton_append, Piece.respelled, Piece.token?]
      cases Glob.ranges? (globText false (c :: members)) with
      | none => rfl
      | some ranges =>
        simp [hrest rest hlength _ _, Option.map_map, Function.comp_def]
    · obtain ⟨c', text', heq, -, htext'⟩ := globText_cons c text
      rw [heq, Glob.readClass_first, Glob.readClass_unclosed (htext' hclosed), pieces?_first,
        pieces?_unclosed negated hclosed]
      rfl

/-- A class, which the glob negates if the segment does. -/
theorem readsBack_class {afterStar : Bool} {rest : List Char}
    (hrest : ∀ rest' : List Char, rest'.length ≤ rest.length → ReadsBack false rest') :
  ReadsBack afterStar ('[' :: rest)
  := by
  intro tokens before
  rw [globText_plain (by decide)]
  by_cases hsign : rest.head? = some '!' ∨ rest.head? = some '^'
  · cases rest with
    | nil => simp at hsign
    | cons sign rest =>
      have hsign' : sign = '!' ∨ sign = '^' := by simpa using hsign
      have hplain : sign ∉ ['\\', '*', '{', '}'] := by
        rcases hsign' with rfl | rfl <;> decide
      rw [globText_plain hplain, Glob.readFrom_negated hsign', pieces?_negated hsign']
      apply readClass_globText
      intro rest' hlt
      apply hrest rest' (Nat.le_succ_of_le hlt.le)
  · rw [Glob.readFrom_listed (hsign ∘ head?_globText_sign), pieces?_listed hsign]
    apply readClass_globText
    intro rest' hlt
    apply hrest rest' hlt.le

/-- The text that is written for a segment is read as the tokens of its pieces. -/
theorem readsBack (afterStar : Bool) (raw : List Char) :
  ReadsBack afterStar raw
  := by
  induction hlength : raw.length using Nat.strong_induction_on generalizing afterStar raw with
  | _ n ih =>
  cases raw with
  | nil =>
    intro tokens before
    simp [globText, Glob.readFrom_nil, pieces?, tokens?, merged, Except.toOption]
  | cons c rest =>
    have hrest : ∀ afterStar, ∀ rest' : List Char, rest'.length ≤ rest.length →
        ReadsBack afterStar rest' := by
      intro afterStar rest' hle
      apply ih rest'.length (by simp at hlength; omega) afterStar rest' rfl
    by_cases hbracket : c = '['
    · subst hbracket
      apply readsBack_class (hrest false)
    intro tokens before
    by_cases hescape : c = '\\'
    · subst hescape
      cases rest with
      | nil => simp [globText, Glob.readFrom_escape_nil, pieces?, tokens?, Except.toOption]
      | cons d rest =>
        rw [globText, Glob.readFrom_escape, pieces?, tokens?_token (by simp) rfl]
        apply hrest false rest (by simp) _ _
    by_cases hstar : c = '*'
    · subst hstar
      have hpieces : pieces? none ('*' :: rest) = (pieces? none rest).map (.run :: ·) := rfl
      rw [globText_star, hpieces, tokens?_run]
      cases afterStar with
      | true => apply hrest true rest le_rfl tokens before
      | false =>
        rw [if_neg Bool.false_ne_true, Glob.readFrom_star (head?_globText_ne_star rest),
          hrest true rest le_rfl]
        simp [Function.comp_def]
    by_cases hquestion : c = '?'
    · subst hquestion
      have hpieces : pieces? none ('?' :: rest) = (pieces? none rest).map (.one :: ·) := rfl
      rw [globText_plain (by decide), Glob.readFrom_question, hpieces,
        tokens?_token (by simp) rfl]
      apply hrest false rest le_rfl _ _
    -- A brace stands for itself behind a backslash, any other character by itself.
    have hself : Glob.readFrom ⟨tokens, []⟩ before (globText afterStar (c :: rest))
        = Glob.readFrom ⟨.literal c :: tokens, []⟩ (some c) (globText false rest) := by
      by_cases hbrace : c = '{' ∨ c = '}'
      · rw [globText_brace hbrace, Glob.readFrom_escape]
      · rw [globText_plain (by simp_all), Glob.readFrom_plain (by simp_all)]
    rw [hself, pieces?_plain (by simp_all), tokens?_token (by simp) rfl]
    apply hrest false rest le_rfl _ _

/-! ### What a glob means -/

theorem isProper_merged_iff (afterRun : Bool) (pieces : List Piece) :
  (∀ piece ∈ merged afterRun pieces, piece.isProper = true)
    ↔ ∀ piece ∈ pieces, piece.isProper = true
  := by
  fun_induction merged afterRun pieces <;> simp_all [Piece.isProper]

theorem isSome_mapM_token?_iff (pieces : List Piece) :
  (pieces.mapM Piece.token?).isSome = true ↔ ∀ piece ∈ pieces, piece.isProper = true
  := by
  induction pieces with
  | nil => simp
  | cons piece rest ih =>
    rw [List.forall_mem_cons, ← ih, ← isSome_token?, mapM_token?_cons]
    cases piece.token? <;> simp

/-- The tokens of the glob that is built for a segment. -/
theorem ofGlobText_iff {raw : List Char} {segment : Segment} :
  ofGlobText (globText false raw) = .ok segment
    ↔ ∃ pieces tokens, pieces? none raw = some pieces
      ∧ (merged false (pieces.map Piece.respelled)).mapM Piece.token? = some tokens
      ∧ .glob tokens = segment
  := by
  have hread : (Glob.read (globText false raw)).toOption = tokens? false (pieces? none raw) := by
    rw [Glob.read, readsBack false raw [] none]
    simp
  have htokens : ∀ tokens, Glob.read (globText false raw) = .ok tokens
      ↔ tokens? false (pieces? none raw) = some tokens := by
    intro tokens
    rw [← hread]
    cases Glob.read (globText false raw) <;> simp [Except.toOption]
  have hglob : ofGlobText (globText false raw) = .ok segment
      ↔ ∃ tokens, Glob.read (globText false raw) = .ok tokens ∧ .glob tokens = segment := by
    rw [ofGlobText]
    cases Glob.read (globText false raw) <;> simp
  simp only [hglob, htokens, tokens?, Option.bind_eq_some_iff]
  constructor
  · rintro ⟨tokens, ⟨pieces, hpieces, hmap⟩, rfl⟩
    exact ⟨pieces, tokens, hpieces, hmap, rfl⟩
  · rintro ⟨pieces, tokens, hpieces, hmap, rfl⟩
    exact ⟨tokens, ⟨pieces, hpieces, hmap⟩, rfl⟩

/-- Whether the glob that is built for a segment compiles. -/
def Compiles (raw : List Char) : Prop :=
  ∃ segment, ofGlobText (globText false raw) = .ok segment

/-- Whether the glob that is built for a segment compiles and accepts a name. -/
def Admits (raw name : List Char) : Prop :=
  ∃ segment, ofGlobText (globText false raw) = .ok segment ∧ segment.accepts name = true

theorem isSome_tokens_iff (pieces : List Piece) :
  ((merged false (pieces.map Piece.respelled)).mapM Piece.token?).isSome = true
    ↔ ∀ piece ∈ pieces, piece.respelled.isProper = true
  := by
  rw [isSome_mapM_token?_iff, isProper_merged_iff, List.forall_mem_map]

theorem compiles_iff {raw : List Char} :
  Compiles raw
    ↔ ∃ pieces, pieces? none raw = some pieces
      ∧ ∀ piece ∈ pieces, piece.respelled.isProper = true
  := by
  constructor
  · rintro ⟨segment, hsegment⟩
    obtain ⟨pieces, tokens, hpieces, htokens, -⟩ := ofGlobText_iff.mp hsegment
    refine ⟨pieces, hpieces, (isSome_tokens_iff pieces).mp ?_⟩
    rw [htokens]
    rfl
  · rintro ⟨pieces, hpieces, hproper⟩
    obtain ⟨tokens, htokens⟩ := Option.isSome_iff_exists.mp ((isSome_tokens_iff pieces).mpr hproper)
    use .glob tokens
    apply ofGlobText_iff.mpr ⟨pieces, tokens, hpieces, htokens, rfl⟩

theorem accepts_glob_iff {pieces : List Piece} {tokens : List Glob.Token} {name : List Char}
    (h : (merged false (pieces.map Piece.respelled)).mapM Piece.token? = some tokens) :
  (Segment.glob tokens).accepts name = true
    ↔ Fits .bytes (pieces.map Piece.respelled) (Text.bytes name)
  := (accepts_tokens_iff h _).trans (fits_merged _ _).1

theorem admits_iff {raw name : List Char} :
  Admits raw name
    ↔ ∃ pieces, pieces? none raw = some pieces
      ∧ Fits .bytes (pieces.map Piece.respelled) (Text.bytes name)
  := by
  constructor
  · rintro ⟨segment, hsegment, hname⟩
    obtain ⟨pieces, tokens, hpieces, htokens, rfl⟩ := ofGlobText_iff.mp hsegment
    use pieces, hpieces
    apply (accepts_glob_iff htokens).mp hname
  · rintro ⟨pieces, hpieces, hfits⟩
    have hproper := List.forall_mem_map.mp (isProper_of_fits hfits)
    obtain ⟨tokens, htokens⟩ := Option.isSome_iff_exists.mp ((isSome_tokens_iff pieces).mpr hproper)
    use .glob tokens, ofGlobText_iff.mpr ⟨pieces, tokens, hpieces, htokens, rfl⟩
    apply (accepts_glob_iff htokens).mpr hfits

/-- Whether the glob spells the classes of a segment as they are written. -/
def KeepsClasses (raw : List Char) : Prop :=
  ∀ pieces, pieces? none raw = some pieces → ∀ piece ∈ pieces, piece.respelled = piece

/-- Whether the pieces of a segment may be laid over bytes of a name instead of its characters. -/
def LaidAlike (raw name : List Char) : Prop :=
  (∀ c ∈ name, c.toNat < 128)
    ∨ ∀ pieces, pieces? none raw = some pieces → ∀ piece ∈ pieces, piece.isSingle = false

/-- The glob that is built for a segment compiles if the pieces of the segment are proper as the
glob spells them, and accepts the names that they fit over bytes.  If it spells the classes as they
are written, it compiles if the segment is well formed, and accepts what the segment means. -/
theorem globText_means (raw : List Char) :
  (Compiles raw
      ↔ ∃ pieces, pieces? none raw = some pieces
        ∧ ∀ piece ∈ pieces, piece.respelled.isProper = true)
    ∧ (∀ name, Admits raw name
        ↔ ∃ pieces, pieces? none raw = some pieces
          ∧ Fits .bytes (pieces.map Piece.respelled) (Text.bytes name))
    ∧ (KeepsClasses raw →
        (Compiles raw ↔ WellFormed raw)
        ∧ ∀ name, LaidAlike raw name → (Admits raw name ↔ Means raw name))
  := by
  use compiles_iff, fun name => admits_iff
  intro hkeeps
  constructor
  · rw [compiles_iff, WellFormed]
    apply exists_congr
    intro pieces
    apply and_congr_right
    intro hpieces
    apply forall₂_congr
    intro piece hpiece
    rw [hkeeps pieces hpieces piece hpiece]
  · intro name hname
    rw [admits_iff, Means]
    apply exists_congr
    intro pieces
    apply and_congr_right
    intro hpieces
    rw [List.map_congr_left (hkeeps pieces hpieces), List.map_id']
    rcases hname with hascii | hsingle
    · apply fits_bytes_iff hascii
    · apply fits_bytes_iff_of_not_single (hsingle pieces hpieces) name

/-- The class `[!a]` means to the glob what it means.  The class `[{]` does not, which lists a
backslash in the glob. -/
theorem globText_means_class :
  (KeepsClasses ['[', '!', 'a', ']'] ∧ LaidAlike ['[', '!', 'a', ']'] ['b']
      ∧ Compiles ['[', '!', 'a', ']'] ∧ Admits ['[', '!', 'a', ']'] ['b'])
    ∧ Admits ['[', '{', ']'] ['\\'] ∧ ¬Means ['[', '{', ']'] ['\\']
  := by
  have hkeeps : KeepsClasses ['[', '!', 'a', ']'] := by
    rintro _ ⟨⟩
    decide
  have hascii : LaidAlike ['[', '!', 'a', ']'] ['b'] := .inl (by simp)
  obtain ⟨hcompiles, hadmits⟩ := (globText_means ['[', '!', 'a', ']']).2.2 hkeeps
  refine ⟨⟨hkeeps, hascii, ?_, ?_⟩, ?_, ?_⟩
  · apply hcompiles.mpr ⟨_, rfl, by decide⟩
  · apply (hadmits _ hascii).mpr
    exact ⟨_, rfl, ['b'], [], rfl, ⟨'b', _, rfl, rfl, by decide⟩, rfl⟩
  · apply ((globText_means _).2.1 _).mpr
    exact ⟨_, rfl, [0x5c], [], by decide, ⟨0x5c, _, rfl, rfl, by decide⟩, rfl⟩
  · rintro ⟨_, ⟨⟩, _, _, heq, ⟨c, _, rfl, ⟨⟩, hlisted⟩, rfl⟩
    obtain rfl : c = '\\' := by simpa using heq.symm
    revert hlisted
    decide

end Compendium.Segment
