import IsisTestbed.Json.Document
import IsisTestbed.Json.Printer
import IsisTestbed.Proofs.Data.Spelling
import IsisTestbed.Proofs.Text.Digits
import Mathlib.Data.List.TakeWhile

/-!
JSON text, read back. Plain values that are not nested too deeply are written as text from which
exactly the document that spells them is read. The text is first split into the tokens of the value;
these are then put together again.
-/

namespace IsisTestbed.Json

/-- The spelling of JSON text fixes the type of every scalar. -/
def spelling : DirectSpelling where
  scalar := .typed
  sequence := .array
  text _ := rfl
  nat _ := rfl
  bool _ := rfl
  present read v h := by
    cases v
    case null => exact absurd rfl h
    all_goals rfl
  hold v h := by
    cases v
    case unusable => exact absurd rfl h
    all_goals rfl
  items := Spelling.aside.items
  presentItems := Spelling.aside.presentItems
  holdItems := Spelling.aside.holdItems
  constant _ := rfl

/-! ### The inside of strings -/

/-- Four digits that are written for a number of at most 16 bits denote it. -/
theorem fourDigits?_padLeft {n : Nat} (h : n < 16 ^ 4) :
    ∃ a b c d, Text.padLeft 4 '0' (Text.hex n) = [a, b, c, d] ∧ fourDigits? a b c d = some n := by
  have length : (Text.padLeft 4 '0' (Text.hex n)).length = 4 := by
    simpa [Text.hexPadded] using Text.length_hexPadded (by decide) h
  obtain ⟨a, b, c, d, hcs⟩ : ∃ a b c d, Text.padLeft 4 '0' (Text.hex n) = [a, b, c, d] := by
    generalize Text.padLeft 4 '0' (Text.hex n) = cs at length
    rcases cs with _ | ⟨a, _ | ⟨b, _ | ⟨c, _ | ⟨d, _ | ⟨e, rest⟩⟩⟩⟩⟩
    case cons.cons.cons.cons.nil => exact ⟨a, b, c, d, rfl⟩
    all_goals simp at length
  refine ⟨a, b, c, d, hcs, ?_⟩
  have read := Text.ofDigits?_hexPadded 4 n
  rw [Text.hexPadded, String.toList_ofList, hcs] at read
  exact read

/-- A code unit below the halves of pairs is a character of its own. -/
theorem joinPieces?_unit {n : Nat} (h : n < 0xD800) (rest : List Piece) :
    joinPieces? (.unit n :: rest) = (joinPieces? rest).map (Char.ofNat n :: ·) := by
  have high : isHigh n = false := by simp [isHigh]; omega
  have low : isLow n = false := by simp [isLow]; omega
  cases rest with
  | nil => simp [joinPieces?, high, low]
  | cons p more =>
    cases p with
    | char c => simp [joinPieces?, high, low]
    | unit m => simp [joinPieces?, high, low]

/-- Each character is written as one piece, which stands for the character. -/
theorem exists_piece (c : Char) :
    ∃ p : Piece, (∀ rest, pieces? (escape c ++ rest) = (pieces? rest).map (p :: ·)) ∧
      ∀ more, joinPieces? (p :: more) = (joinPieces? more).map (c :: ·) := by
  unfold escape
  split
  case h_8 =>
    split
    · next h =>
      obtain ⟨a, b, c', d, text, value⟩ := @fourDigits?_padLeft c.toNat (by omega)
      refine ⟨.unit c.toNat, fun rest => ?_, fun more => ?_⟩
      · cases hrest : pieces? rest <;> simp [text, pieces?, value, hrest]
      · simpa using @joinPieces?_unit c.toNat (by omega) more
    · next h =>
      refine ⟨.char c, fun rest => ?_, fun _ => rfl⟩
      rw [List.singleton_append, pieces?]
      · simp
        intro h'; omega
      all_goals simp_all
  all_goals
    refine ⟨.char _, fun rest => ?_, fun _ => rfl⟩
    cases hrest : pieces? rest <;> simp [pieces?, simpleEscape?, hrest]

/-- The escaped inside of a string has the string as its value. -/
theorem stringValue?_flatMap_escape (s : String) :
    stringValue? (s.toList.flatMap escape) = some (.typed (.text s)) := by
  have whole (cs : List Char) :
      ∃ ps, pieces? (cs.flatMap escape) = some ps ∧ joinPieces? ps = some cs := by
    induction cs with
    | nil => exact ⟨[], rfl, rfl⟩
    | cons c rest ih =>
      obtain ⟨p, front, join⟩ := exists_piece c
      obtain ⟨ps, read, joined⟩ := ih
      refine ⟨p :: ps, ?_, ?_⟩
      · rw [List.flatMap_cons, front, read, Option.map_some]
      · rw [join, joined, Option.map_some]
  obtain ⟨ps, read, joined⟩ := whole s.toList
  simp [stringValue?, read, joined]

/-! ### Words -/

/-- The decimal text of a number is a whole number without sign. -/
theorem numberText?_decimal (n : Nat) :
    numberText? (Text.decimal n) = some ⟨false, Text.decimal n, none, none⟩ := by
  have digits : ∀ c ∈ Text.decimal n, c.isDigit = true := fun _ => Text.isDigit_of_mem_decimal
  have whole : Decimal.takeDigits (Text.decimal n) = (Text.decimal n, []) := by
    rw [Decimal.takeDigits, Prod.mk.injEq]
    exact ⟨List.takeWhile_eq_self_iff.mpr digits, List.dropWhile_eq_nil_iff.mpr digits⟩
  have plain : (Text.decimal n).head? = some '0' → (Text.decimal n).length ≤ 1 := by
    intro zero
    rw [Text.eq_zero_of_head?_decimal zero]
    decide
  obtain ⟨c, rest, hcons⟩ := List.exists_cons_of_ne_nil (Text.decimal_ne_nil n)
  have noSign : c ≠ '-' := by
    rintro rfl
    exact absurd (digits '-' (by simp [hcons])) (by decide)
  rw [hcons] at whole plain ⊢
  unfold numberText?
  split
  next negative tail h =>
    have unsigned : (false, c :: rest) = (negative, tail) := by
      rw [← h]
      split
      · next heq => exact absurd (List.cons.inj heq).1 noSign
      · rfl
    obtain ⟨rfl, rfl⟩ := Prod.mk.inj unsigned
    simp only [whole]
    rw [if_neg (by simpa using plain)]
    rfl

/-- The word that is written for a number has the number as its value. -/
theorem wordValue?_decimal {n : Nat} (h : n < UInt64.size) :
    wordValue? (Text.decimal n) = some (.typed (.nat n)) := by
  obtain ⟨c, rest, hcons⟩ := List.exists_cons_of_ne_nil (Text.decimal_ne_nil n)
  have digit : c.isDigit = true := Text.isDigit_of_mem_decimal (by rw [hcons]; simp)
  have notName (name : List Char) (hname : name.head?.any Char.isDigit = false) :
      Text.decimal n ≠ name := by
    rintro rfl
    simp [hcons, digit] at hname
  unfold wordValue?
  rw [if_neg (notName _ (by decide)), if_neg (notName _ (by decide)),
    if_neg (notName _ (by decide)), numberText?_decimal]
  simp [NumberText.value, h]

/-! ### Text to tokens -/

mutual

/-- The tokens of a value. -/
def valueTokens : Value → List Token
  | .list [] => [.openBracket, .closeBracket]
  | .list (v :: rest) => .openBracket :: (valueTokens v ++ itemTokens rest)
  | .record [] => [.openBrace, .closeBrace]
  | .record ((name, v) :: rest) =>
      .openBrace :: .string (.typed (.text name)) :: .colon :: (valueTokens v ++ fieldTokens rest)
  | .text s => [.string (.typed (.text s))]
  | v => [.word (v.tree spelling)]

/-- The tokens behind the first item of a list. -/
def itemTokens : List Value → List Token
  | [] => [.closeBracket]
  | v :: rest => .comma :: (valueTokens v ++ itemTokens rest)

/-- The tokens behind the first field of a record. -/
def fieldTokens : List (String × Value) → List Token
  | [] => [.closeBrace]
  | (name, v) :: rest =>
      .comma :: .string (.typed (.text name)) :: .colon :: (valueTokens v ++ fieldTokens rest)

end

/-- Whether a character ends the word before it. -/
def endsWord (c : Char) : Bool :=
  isBlank c || (mark? c).isSome || c == '\x22'

/-- Whether a word ends where a text starts. -/
def WordEnds (text : List Char) : Prop :=
  ∀ c ∈ text.head?, endsWord c = true

theorem wordEnds_cons {c : Char} (h : endsWord c = true) (rest : List Char) :
    WordEnds (c :: rest) := by
  intro d hd
  rw [List.head?_cons, Option.mem_some_iff] at hd
  rw [← hd]
  exact h

-- The steps that `tokensFrom?` takes in each mode. The lemmas on texts below are put together from
-- them and do not unfold it.

/-- Between tokens, the next character starts something new. -/
theorem tokensFrom?_between (tokens : List Token) (c : Char) (rest : List Char) :
    tokensFrom? tokens .between (c :: rest) =
      tokensFrom? (start tokens c).1 (start tokens c).2 rest :=
  rfl

/-- Inside a word, a character that does not end it is part of it. -/
theorem tokensFrom?_inWord {c : Char} (h : endsWord c = false) (tokens : List Token)
    (read rest : List Char) :
    tokensFrom? tokens (.word read) (c :: rest) = tokensFrom? tokens (.word (c :: read)) rest :=
  if_neg (Bool.eq_false_iff.mp h)

/-- Where a word ends, it is a token, and what comes next starts something new. -/
theorem tokensFrom?_wordEnd {tokens more : List Token} {read rest : List Char}
    (ended : endWord? tokens read = some more) (hend : WordEnds rest) :
    tokensFrom? tokens (.word read) rest = tokensFrom? more .between rest := by
  cases rest with
  | nil => exact congrArg (Option.map List.reverse) ended
  | cons c rest =>
    refine (if_pos (hend c (by simp))).trans ?_
    rw [ended]
    rfl

/-- Inside a string, a character that is no quote and no backslash is part of it. -/
theorem tokensFrom?_inString {c : Char} (noQuote : c ≠ '\x22') (noEscape : c ≠ '\\')
    (tokens : List Token) (read rest : List Char) :
    tokensFrom? tokens (.string read) (c :: rest) =
      tokensFrom? tokens (.string (c :: read)) rest :=
  (if_neg (by simpa using noQuote)).trans (if_neg (by simpa using noEscape))

/-- Inside a string, a character behind a backslash is part of it. -/
theorem tokensFrom?_backslash (c : Char) (tokens : List Token) (read rest : List Char) :
    tokensFrom? tokens (.string read) ('\\' :: c :: rest) =
      tokensFrom? tokens (.string (c :: '\\' :: read)) rest :=
  rfl

/-- A quote ends the string before it. -/
theorem tokensFrom?_quote {read : List Char} {v : Tree} (value : stringValue? read.reverse = some v)
    (tokens : List Token) (rest : List Char) :
    tokensFrom? tokens (.string read) ('\x22' :: rest) =
      tokensFrom? (.string v :: tokens) .between rest := by
  refine (if_pos rfl).trans ?_
  rw [value]

/-- A word is read up to the place where it ends. -/
theorem tokensFrom?_word {word rest : List Char} {v : Tree} (tokens : List Token)
    (hword : wordValue? word = some v) (hstart : word ≠ [])
    (hinside : word.any endsWord = false) (hend : WordEnds rest) :
    tokensFrom? tokens .between (word ++ rest) = tokensFrom? (.word v :: tokens) .between rest := by
  have hinside : ∀ c ∈ word, endsWord c = false := by simpa using hinside
  have inside (more read : List Char) (h : ∀ c ∈ more, endsWord c = false) :
      tokensFrom? tokens (.word read) (more ++ rest) =
        tokensFrom? tokens (.word (more.reverse ++ read)) rest := by
    induction more generalizing read with
    | nil => rfl
    | cons c more ih =>
      rw [List.cons_append, tokensFrom?_inWord (h c (by simp)),
        ih _ fun d hd => h d (List.mem_cons_of_mem _ hd)]
      simp
  obtain ⟨c, more, rfl⟩ := List.exists_cons_of_ne_nil hstart
  have first : start tokens c = (tokens, .word [c]) := by
    have other := hinside c (by simp)
    simp only [endsWord, Bool.or_eq_false_iff, Option.isSome_eq_false_iff,
      Option.isNone_iff_eq_none] at other
    simp [start, other]
  have ended : endWord? tokens (more.reverse ++ [c]) = some (.word v :: tokens) := by
    simp [endWord?, hword]
  rw [List.cons_append, tokensFrom?_between, first]
  dsimp only
  rw [inside more [c] fun d hd => hinside d (List.mem_cons_of_mem _ hd),
    tokensFrom?_wordEnd ended hend]

/-- Inside a string, characters that are no quotes and no backslashes are taken as they are. -/
theorem tokensFrom?_inside {cs : List Char} (h : ∀ c ∈ cs, c ≠ '\x22' ∧ c ≠ '\\')
    (tokens : List Token) (read rest : List Char) :
    tokensFrom? tokens (.string read) (cs ++ rest) =
      tokensFrom? tokens (.string (cs.reverse ++ read)) rest := by
  induction cs generalizing read with
  | nil => rfl
  | cons c more ih =>
    obtain ⟨noQuote, noEscape⟩ := h c (by simp)
    rw [List.cons_append, tokensFrom?_inString noQuote noEscape,
      ih fun d hd => h d (List.mem_cons_of_mem _ hd)]
    simp

/-- Inside a string, each escaped character is taken as a whole. -/
theorem tokensFrom?_escape (c : Char) (tokens : List Token) (read rest : List Char) :
    tokensFrom? tokens (.string read) (escape c ++ rest) =
      tokensFrom? tokens (.string ((escape c).reverse ++ read)) rest := by
  unfold escape
  split
  case h_8 =>
    split
    · have digits : ∀ d ∈ Text.padLeft 4 '0' (Text.hex c.toNat), d ≠ '\x22' ∧ d ≠ '\\' := by
        intro d hd
        have digit : Text.isHexDigit d = true := by
          apply @Text.isHexDigit_of_mem_hexPadded 4 c.toNat
          simpa [Text.hexPadded] using hd
        constructor
        · rintro rfl
          exact absurd digit (by decide)
        · rintro rfl
          exact absurd digit (by decide)
      rw [List.cons_append, List.cons_append, tokensFrom?_backslash, tokensFrom?_inside digits]
      simp
    · next noQuote noEscape _ _ _ _ _ _ =>
      exact tokensFrom?_inside (by simpa using ⟨noQuote, noEscape⟩) tokens read rest
  all_goals exact tokensFrom?_backslash _ tokens read rest

/-- A string is read up to its closing quote. -/
theorem tokensFrom?_quoted (tokens : List Token) (s : String) (rest : List Char) :
    tokensFrom? tokens .between (quoted s ++ rest) =
      tokensFrom? (.string (.typed (.text s)) :: tokens) .between rest := by
  have inside (cs read : List Char) :
      tokensFrom? tokens (.string read) (cs.flatMap escape ++ '\x22' :: rest) =
        tokensFrom? tokens (.string ((cs.flatMap escape).reverse ++ read)) ('\x22' :: rest) := by
    induction cs generalizing read with
    | nil => rfl
    | cons c more ih =>
      rw [List.flatMap_cons, List.append_assoc, tokensFrom?_escape, ih]
      simp
  have opened : start tokens '\x22' = (tokens, .string []) := rfl
  rw [quoted, List.cons_append, List.cons_append, List.append_assoc, List.singleton_append,
    tokensFrom?_between, opened]
  dsimp only
  rw [inside s.toList []]
  exact tokensFrom?_quote (by simpa using stringValue?_flatMap_escape s) tokens rest

/-- Blanks between tokens are skipped. -/
theorem tokensFrom?_blanks {blanks : List Char} (h : ∀ c ∈ blanks, isBlank c = true)
    (tokens : List Token) (rest : List Char) :
    tokensFrom? tokens .between (blanks ++ rest) = tokensFrom? tokens .between rest := by
  induction blanks with
  | nil => rfl
  | cons c more ih =>
    have skipped : start tokens c = (tokens, .between) := by
      have blank := h c (by simp)
      have noMark : mark? c = none := by
        simp only [isBlank, Bool.or_eq_true, beq_iff_eq] at blank
        rcases blank with ((rfl | rfl) | rfl) | rfl <;> rfl
      simp [start, noMark, blank]
    rw [List.cons_append, tokensFrom?_between, skipped]
    exact ih fun d hd => h d (List.mem_cons_of_mem _ hd)

theorem tokensFrom?_mark {c : Char} {token : Token} (h : mark? c = some token)
    (tokens : List Token) (rest : List Char) :
    tokensFrom? tokens .between (c :: rest) = tokensFrom? (token :: tokens) .between rest := by
  have marked : start tokens c = (token :: tokens, .between) := by simp [start, h]
  rw [tokensFrom?_between, marked]

theorem isBlank_of_mem_lineStart {pretty : Bool} {level : Nat} {c : Char}
    (h : c ∈ lineStart pretty level) : isBlank c = true := by
  unfold lineStart at h
  split at h
  · rcases List.mem_cons.mp h with rfl | space
    · decide
    · rw [List.eq_of_mem_replicate space]
      decide
  · exact absurd h List.not_mem_nil

theorem tokensFrom?_lineStart (pretty : Bool) (level : Nat) (tokens : List Token)
    (rest : List Char) :
    tokensFrom? tokens .between (lineStart pretty level ++ rest) =
      tokensFrom? tokens .between rest :=
  tokensFrom?_blanks (fun _ => isBlank_of_mem_lineStart) tokens rest

/-- A name, the colon behind it and the blank behind that. -/
theorem tokensFrom?_key (pretty : Bool) (tokens : List Token) (name : String)
    (rest : List Char) :
    tokensFrom? tokens .between (quoted name ++ (colon pretty ++ rest)) =
      tokensFrom? (.colon :: .string (.typed (.text name)) :: tokens) .between rest := by
  have mark : mark? ':' = some .colon := rfl
  have blank : ∀ c ∈ [' '], isBlank c = true := List.all_eq_true.mp (by decide)
  rw [tokensFrom?_quoted]
  cases pretty with
  | false => exact tokensFrom?_mark mark _ rest
  | true => exact (tokensFrom?_mark mark _ _).trans (tokensFrom?_blanks blank _ rest)

/-- Behind a value comes a comma, a bracket, a brace, a line break or nothing. -/
theorem wordEnds_lineStart {c : Char} (h : endsWord c = true) (pretty : Bool) (level : Nat)
    (rest : List Char) : WordEnds (lineStart pretty level ++ c :: rest) := by
  cases pretty with
  | false => exact wordEnds_cons h rest
  | true => exact wordEnds_cons (by decide) _

theorem wordEnds_renderItems (pretty : Bool) (level : Nat) (items : List Value)
    (rest : List Char) : WordEnds (renderItems pretty level items ++ rest) := by
  cases items with
  | nil =>
    rw [renderItems, List.append_assoc]
    exact wordEnds_lineStart (by decide) pretty level rest
  | cons v more => exact wordEnds_cons (by decide) _

theorem wordEnds_renderFields (pretty : Bool) (level : Nat) (fields : List (String × Value))
    (rest : List Char) : WordEnds (renderFields pretty level fields ++ rest) := by
  cases fields with
  | nil =>
    rw [renderFields, List.append_assoc]
    exact wordEnds_lineStart (by decide) pretty level rest
  | cons f more => exact wordEnds_cons (by decide) _

/-- Whether the text of a value at any level is read as the tokens of the value. -/
def ReadsAsTokens (pretty : Bool) (v : Value) : Prop :=
  ∀ (level : Nat) (tokens : List Token) (rest : List Char), WordEnds rest →
    tokensFrom? tokens .between (render pretty level v ++ rest) =
      tokensFrom? ((valueTokens v).reverse ++ tokens) .between rest

theorem tokensFrom?_renderItems {pretty : Bool} {items : List Value}
    (h : ∀ v ∈ items, ReadsAsTokens pretty v) (level : Nat) (tokens : List Token)
    (rest : List Char) :
    tokensFrom? tokens .between (renderItems pretty level items ++ rest) =
      tokensFrom? ((itemTokens items).reverse ++ tokens) .between rest := by
  induction items generalizing tokens with
  | nil =>
    rw [renderItems, List.append_assoc, tokensFrom?_lineStart]
    exact tokensFrom?_mark rfl tokens rest
  | cons v more ih =>
    have mark : mark? ',' = some .comma := rfl
    simp only [renderItems, List.cons_append, List.append_assoc]
    rw [tokensFrom?_mark mark, tokensFrom?_lineStart,
      h v (by simp) _ _ _ (wordEnds_renderItems pretty level more rest),
      ih (fun w hw => h w (List.mem_cons_of_mem _ hw))]
    simp [itemTokens]

theorem tokensFrom?_renderFields {pretty : Bool} {fields : List (String × Value)}
    (h : ∀ f ∈ fields, ReadsAsTokens pretty f.2) (level : Nat) (tokens : List Token)
    (rest : List Char) :
    tokensFrom? tokens .between (renderFields pretty level fields ++ rest) =
      tokensFrom? ((fieldTokens fields).reverse ++ tokens) .between rest := by
  induction fields generalizing tokens with
  | nil =>
    rw [renderFields, List.append_assoc, tokensFrom?_lineStart]
    exact tokensFrom?_mark rfl tokens rest
  | cons f more ih =>
    obtain ⟨name, v⟩ := f
    have mark : mark? ',' = some .comma := rfl
    simp only [renderFields, List.cons_append, List.append_assoc]
    rw [tokensFrom?_mark mark, tokensFrom?_lineStart, tokensFrom?_key,
      h (name, v) (by simp) _ _ _ (wordEnds_renderFields pretty level more rest),
      ih (fun w hw => h w (List.mem_cons_of_mem _ hw))]
    simp [fieldTokens]

theorem endsWord_eq_false_of_isDigit {c : Char} (h : c.isDigit = true) : endsWord c = false := by
  by_contra other
  have ends : endsWord c = true := by simpa using other
  have marks : c = ' ' ∨ c = '\t' ∨ c = '\n' ∨ c = '\r' ∨ c = '\x7b' ∨ c = '\x7d' ∨ c = '[' ∨
      c = ']' ∨ c = ':' ∨ c = ',' ∨ c = '\x22' := by
    simp only [endsWord, isBlank, Bool.or_eq_true, beq_iff_eq] at ends
    unfold mark? at ends
    split at ends <;> simp_all [or_assoc]
  rcases marks with rfl | rfl | rfl | rfl | rfl | rfl | rfl | rfl | rfl | rfl | rfl <;>
    exact absurd h (by decide)

/-- The text of a list is read as its tokens if those of its items are. -/
theorem readsAsTokens_list {pretty : Bool} {items : List Value}
    (h : ∀ v ∈ items, ReadsAsTokens pretty v) : ReadsAsTokens pretty (.list items) := by
  intro level tokens rest hend
  have mark : mark? '[' = some .openBracket := rfl
  cases items with
  | nil => exact (tokensFrom?_mark mark tokens _).trans (tokensFrom?_mark rfl _ rest)
  | cons v more =>
    simp only [render, List.cons_append, List.append_assoc]
    rw [tokensFrom?_mark mark, tokensFrom?_lineStart,
      h v (by simp) _ _ _ (wordEnds_renderItems pretty level more rest),
      tokensFrom?_renderItems fun w hw => h w (List.mem_cons_of_mem _ hw)]
    simp [valueTokens]

/-- The text of a record is read as its tokens if those of its fields are. -/
theorem readsAsTokens_record {pretty : Bool} {fields : List (String × Value)}
    (h : ∀ f ∈ fields, ReadsAsTokens pretty f.2) : ReadsAsTokens pretty (.record fields) := by
  intro level tokens rest hend
  have mark : mark? '\x7b' = some .openBrace := rfl
  cases fields with
  | nil => exact (tokensFrom?_mark mark tokens _).trans (tokensFrom?_mark rfl _ rest)
  | cons f more =>
    obtain ⟨name, v⟩ := f
    simp only [render, List.cons_append, List.append_assoc]
    rw [tokensFrom?_mark mark, tokensFrom?_lineStart, tokensFrom?_key,
      h (name, v) (by simp) _ _ _ (wordEnds_renderFields pretty level more rest),
      tokensFrom?_renderFields fun w hw => h w (List.mem_cons_of_mem _ hw)]
    simp [valueTokens]

/-- The text of a plain value is read as its tokens. -/
theorem readsAsTokens {n : Nat} {v : Value} (h : v.Plain n) (pretty : Bool) :
    ReadsAsTokens pretty v := by
  induction h with
  | null =>
    intro level tokens rest hend
    exact @tokensFrom?_word "null".toList rest _ tokens rfl (by decide) (by decide) hend
  | bool b =>
    intro level tokens rest hend
    cases b with
    | false =>
      exact @tokensFrom?_word "false".toList rest _ tokens rfl (by decide) (by decide) hend
    | true =>
      exact @tokensFrom?_word "true".toList rest _ tokens rfl (by decide) (by decide) hend
  | @nat _ k h =>
    intro level tokens rest hend
    have inside : ∀ c ∈ Text.decimal k, ¬ endsWord c = true := fun c hc =>
      Bool.eq_false_iff.mp (endsWord_eq_false_of_isDigit (Text.isDigit_of_mem_decimal hc))
    exact tokensFrom?_word tokens (wordValue?_decimal h) (Text.decimal_ne_nil _)
      (List.any_eq_false.mpr inside) hend
  | text s =>
    intro level tokens rest hend
    exact tokensFrom?_quoted tokens s rest
  | list h ih => exact readsAsTokens_list ih
  | record names h ih => exact readsAsTokens_record ih

/-- Blanks hold no tokens. -/
theorem tokensFrom?_blank {rest : List Char} (blank : ∀ c ∈ rest, isBlank c = true)
    (tokens : List Token) : tokensFrom? tokens .between rest = some tokens.reverse := by
  induction rest with
  | nil => rfl
  | cons c rest ih =>
    have first : start tokens c = (tokens, .between) := by
      have isOne := blank c List.mem_cons_self
      simp only [isBlank, Bool.or_eq_true, beq_iff_eq] at isOne
      rcases isOne with ((rfl | rfl) | rfl) | rfl <;> rfl
    rw [tokensFrom?_between, first]
    exact ih fun c' member => blank c' (List.mem_cons_of_mem c member)

/-- The tokens of the whole text of a plain value, with blanks behind it or not. -/
theorem tokens?_render {n : Nat} {v : Value} (h : v.Plain n) (pretty : Bool) (level : Nat)
    {rest : List Char} (blank : ∀ c ∈ rest, isBlank c = true) :
    tokens? (render pretty level v ++ rest) = some (valueTokens v) := by
  have ends : WordEnds rest := by
    intro c first
    have isOne := blank c (List.mem_of_mem_head? first)
    simp [endsWord, isOne]
  rw [tokens?, readsAsTokens h pretty level [] rest ends, tokensFrom?_blank blank,
    List.append_nil, List.reverse_reverse]

/-! ### Tokens to documents -/

theorem takeAll_append (p : Progress) (front back : List Token) :
    p.takeAll (front ++ back) = (p.takeAll front).bind fun q => q.takeAll back := by
  induction front generalizing p with
  | nil => rfl
  | cons token rest ih =>
    rw [List.cons_append, Progress.takeAll, Progress.takeAll]
    cases p.take token with
    | none => rfl
    | some q => exact ih q

theorem takeAll_singleton (p : Progress) (token : Token) : p.takeAll [token] = p.take token := by
  rw [Progress.takeAll]
  cases p.take token <;> rfl

/-- What is due does not matter for a complete value. -/
theorem complete_due (p : Progress) (due : Due) (v : Tree) :
    ({ p with due := due } : Progress).complete v = p.complete v := by
  unfold Progress.complete
  cases p.stack with
  | nil => rfl
  | cons frame rest => cases frame <;> rfl

/-- Whether the tokens of a value, where a value may stand and there is room for its depth, make it
complete. -/
def Completes (n : Nat) (v : Value) : Prop :=
  ∀ p : Progress, p.due = .value ∨ p.due = .itemOrEnd → p.depth + n < depthLimit →
    p.takeAll (valueTokens v) = p.complete (v.tree spelling)

/-- The rest of a list, behind some items that are read already. -/
theorem takeAll_itemTokens {n depth : Nat} {items : List Value}
    (h : ∀ v ∈ items, Completes n v) (hdepth : depth + 1 + n < depthLimit) (stack : List Frame)
    (read : List Tree) (document : Option Tree) :
    (Progress.mk (.array read :: stack) (depth + 1) .separator document).takeAll
        (itemTokens items) =
      (Progress.mk stack depth .separator document).complete
        (.array (read.reverse ++ Value.treeItems spelling items)) := by
  induction items generalizing read with
  | nil =>
    have shallow : depth + 1 < depthLimit := by omega
    rw [itemTokens, takeAll_singleton]
    simp [Progress.take, Progress.takeSeparator, Progress.close, shallow, Value.treeItems]
  | cons v more ih =>
    have comma : (Progress.mk (.array read :: stack) (depth + 1) .separator document).take .comma =
        some ⟨.array read :: stack, depth + 1, .value, document⟩ := rfl
    rw [itemTokens, Progress.takeAll, comma]
    dsimp only
    rw [takeAll_append, h v (by simp) _ (.inl rfl) hdepth]
    have later := ih (fun w hw => h w (List.mem_cons_of_mem _ hw)) (v.tree spelling :: read)
    simpa [Progress.complete, Value.treeItems] using later

/-- The rest of a record, behind some members that are read already. -/
theorem takeAll_fieldTokens {n depth : Nat} {fields : List (String × Value)}
    (h : ∀ f ∈ fields, Completes n f.2) (hdepth : depth + 1 + n < depthLimit)
    (stack : List Frame) (read : List (Tree × Tree)) (document : Option Tree) :
    (Progress.mk (.object read :: stack) (depth + 1) .separator document).takeAll
        (fieldTokens fields) =
      (Progress.mk stack depth .separator document).complete
        (.record (read.reverse ++ Value.treeFields spelling fields)) := by
  induction fields generalizing read with
  | nil =>
    have shallow : depth + 1 < depthLimit := by omega
    rw [fieldTokens, takeAll_singleton]
    simp [Progress.take, Progress.takeSeparator, Progress.close, shallow, Value.treeFields]
  | cons f more ih =>
    obtain ⟨name, v⟩ := f
    have comma : (Progress.mk (.object read :: stack) (depth + 1) .separator document).take .comma =
        some ⟨.object read :: stack, depth + 1, .key, document⟩ := rfl
    have key : (Progress.mk (.object read :: stack) (depth + 1) .key document).take
        (.string (.typed (.text name))) =
          some ⟨.member read (.typed (.text name)) :: stack, depth + 1, .colon, document⟩ := rfl
    have colon : (Progress.mk (.member read (.typed (.text name)) :: stack) (depth + 1) .colon
        document).take .colon =
          some ⟨.member read (.typed (.text name)) :: stack, depth + 1, .value, document⟩ := rfl
    simp only [fieldTokens, Progress.takeAll, comma, key, colon]
    rw [takeAll_append, h (name, v) (by simp) _ (.inl rfl) hdepth]
    have later := ih (fun w hw => h w (List.mem_cons_of_mem _ hw))
      ((.typed (.text name), v.tree spelling) :: read)
    simpa [Progress.complete, Value.treeFields, spelling] using later

/-- A word or string is a complete value where a value may stand. -/
theorem take_word {p : Progress} (h : p.due = .value ∨ p.due = .itemOrEnd) (v : Tree) :
    p.take (.word v) = p.complete v ∧ p.take (.string v) = p.complete v := by
  unfold Progress.take
  rcases h with h | h <;> rw [h] <;> exact ⟨rfl, rfl⟩

/-- A list is complete if its items are. -/
theorem completes_list {n : Nat} {items : List Value} (h : ∀ v ∈ items, Completes n v) :
    Completes (n + 1) (.list items) := by
  intro p hdue hdepth
  have opened : p.take .openBracket = some (p.push (.array []) .itemOrEnd) := by
    unfold Progress.take
    rcases hdue with h | h <;> rw [h] <;> rfl
  cases items with
  | nil =>
    have shallow : p.depth + 1 < depthLimit := by omega
    rw [valueTokens, Progress.takeAll, opened]
    dsimp only
    rw [takeAll_singleton, ← complete_due p .itemOrEnd]
    simp [Progress.push, Progress.take, Progress.takeSeparator, Progress.close, shallow,
      Value.tree, Value.treeItems, spelling]
  | cons v more =>
    have first : (p.push (.array []) .itemOrEnd).complete (v.tree spelling) =
        some ⟨.array [v.tree spelling] :: p.stack, p.depth + 1, .separator, p.document⟩ := rfl
    rw [valueTokens, Progress.takeAll, opened]
    dsimp only
    rw [takeAll_append, h v (by simp) _ (.inr rfl) (by simp [Progress.push]; omega), first,
      Option.bind_some, takeAll_itemTokens (fun w hw => h w (List.mem_cons_of_mem _ hw))
        (by omega), ← complete_due p .separator]
    rfl

/-- A record is complete if its fields are. -/
theorem completes_record {n : Nat} {fields : List (String × Value)}
    (h : ∀ f ∈ fields, Completes n f.2) : Completes (n + 1) (.record fields) := by
  intro p hdue hdepth
  have opened : p.take .openBrace = some (p.push (.object []) .keyOrEnd) := by
    unfold Progress.take
    rcases hdue with h | h <;> rw [h] <;> rfl
  cases fields with
  | nil =>
    have shallow : p.depth + 1 < depthLimit := by omega
    rw [valueTokens, Progress.takeAll, opened]
    dsimp only
    rw [takeAll_singleton, ← complete_due p .keyOrEnd]
    simp [Progress.push, Progress.take, Progress.takeSeparator, Progress.close, shallow,
      Value.tree, Value.treeFields]
  | cons f more =>
    obtain ⟨name, v⟩ := f
    have named : (p.push (.object []) .keyOrEnd).takeAll
        (.string (.typed (.text name)) :: .colon :: (valueTokens v ++ fieldTokens more)) =
          (Progress.mk (.member [] (.typed (.text name)) :: p.stack) (p.depth + 1) .value
            p.document).takeAll (valueTokens v ++ fieldTokens more) := rfl
    have first : (Progress.mk (.member [] (.typed (.text name)) :: p.stack) (p.depth + 1) .value
        p.document).complete (v.tree spelling) =
          some ⟨.object [(.typed (.text name), v.tree spelling)] :: p.stack, p.depth + 1,
            .separator, p.document⟩ := rfl
    rw [valueTokens, Progress.takeAll, opened]
    dsimp only
    rw [named, takeAll_append, h (name, v) (by simp) _ (.inl rfl) (by dsimp only; omega), first,
      Option.bind_some, takeAll_fieldTokens (fun w hw => h w (List.mem_cons_of_mem _ hw))
        (by omega), ← complete_due p .separator]
    rfl

/-- The tokens of a plain value make it complete. -/
theorem completes {n : Nat} {v : Value} (h : v.Plain n) : Completes n v := by
  induction h with
  | null =>
    intro p hdue _
    rw [valueTokens, takeAll_singleton]
    · exact (take_word hdue _).1
    all_goals simp
  | bool b =>
    intro p hdue _
    rw [valueTokens, takeAll_singleton]
    · exact (take_word hdue _).1
    all_goals simp
  | nat h =>
    intro p hdue _
    rw [valueTokens, takeAll_singleton]
    · exact (take_word hdue _).1
    all_goals simp
  | text s =>
    intro p hdue _
    rw [valueTokens, takeAll_singleton]
    exact (take_word hdue _).2
  | list h ih => exact completes_list ih
  | record names h ih => exact completes_record ih

/-! ### Whole texts -/

/-- The text of a plain value, with blanks behind it or not, is read as the document that spells it.
-/
theorem parse?_render_append {n : Nat} {v : Value} (h : v.Plain n) (shallow : n < depthLimit)
    (pretty : Bool) {rest : List Char} (blank : ∀ c ∈ rest, isBlank c = true) :
    parse? (String.ofList (render pretty 0 v ++ rest)) = some (v.tree spelling) := by
  have tokens := tokens?_render h pretty 0 blank
  have document : Progress.initial.takeAll (valueTokens v) =
      some ⟨[], 0, .separator, some (v.tree spelling)⟩ :=
    completes h .initial (.inl rfl) (by simpa [Progress.initial] using shallow)
  simp [parse?, tokens, document]

theorem parse?_render {n : Nat} {v : Value} (h : v.Plain n) (shallow : n < depthLimit)
    (pretty : Bool) : parse? (String.ofList (render pretty 0 v)) = some (v.tree spelling) := by
  have whole := parse?_render_append h shallow pretty (List.forall_mem_nil fun c => isBlank c = true)
  rwa [List.append_nil] at whole

end IsisTestbed.Json
