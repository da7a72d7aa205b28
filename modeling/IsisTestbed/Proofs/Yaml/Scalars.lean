import IsisTestbed.Proofs.Data.Spelling
import IsisTestbed.Proofs.Text.Digits
import IsisTestbed.Yaml.Document
import IsisTestbed.Yaml.Printer

/-!
What bare YAML text reads as. Numbers of at most 64 bits, truth values and null read as themselves,
and a text is only written bare if it reads as that text. So values are spelled in YAML by bare and
quoted scalars, and every reader gets from them what was written.
-/

namespace IsisTestbed.Yaml

/-! ### Texts -/

theorem integer?_ne_text {cs : List Char} {s : String} : integer? cs ≠ some (.text s) := by
  intro h
  unfold integer? at h
  split at h
  · obtain ⟨n, _, h⟩ := Option.bind_eq_some_iff.mp h
    split at h
    · cases h
    · split at h <;> cases h
  · obtain ⟨n, _, h⟩ := Option.bind_eq_some_iff.mp h
    split at h
    · cases h
    · split at h <;> cases h

/-- Bare text that reads as text reads as itself. -/
theorem eq_of_resolve_eq_text {s t : String} (h : resolve s = .text t) : t = s := by
  simp only [resolve] at h
  split at h
  · cases h
  · split at h
    · cases h
    · split at h
      · next v integer =>
        subst h
        exact absurd integer integer?_ne_text
      · split at h
        · cases h
          rfl
        · split at h
          · cases h
          · cases h
            rfl

theorem readsAsText_and_allowsPlain {s : String} (h : formOf s = .plain) :
    readsAsText s = true ∧ allowsPlain s.toList = true := by
  unfold formOf at h
  simp only at h
  split at h
  · split at h <;> cases h
  · split at h
    · next bare => exact Bool.and_eq_true_iff.mp bare
    · split at h <;> cases h

theorem allowsSingle_of_formOf {s : String} (h : formOf s = .single) :
    allowsSingle s.toList = true ∧ '\n' ∉ s.toList := by
  unfold formOf at h
  simp only at h
  split at h
  · split at h <;> cases h
  · next line =>
    split at h
    · cases h
    · split at h
      · next allowed => exact ⟨allowed, by simpa using line⟩
      · cases h

theorem allowsLiteral_of_formOf {s : String} (h : formOf s = .literal) :
    allowsLiteral s.toList = true ∧ s.toList ≠ [] := by
  unfold formOf at h
  simp only at h
  split at h
  · next line =>
    have nonempty : s.toList ≠ [] := by
      intro empty
      simp [empty] at line
    split at h
    · next allowed => exact ⟨allowed, nonempty⟩
    · cases h
  · split at h
    · cases h
    · split at h <;> cases h

/-- A text that is written bare reads as that text. -/
theorem resolve_of_formOf {s : String} (h : formOf s = .plain) : resolve s = .text s := by
  have text := (readsAsText_and_allowsPlain h).1
  unfold readsAsText at text
  split at text
  · next t read => rw [read, eq_of_resolve_eq_text read]
  · cases text

/-! ### Words -/

/-- The words that name null and the truth values. -/
def reserved : List String :=
  ["null", "Null", "NULL", "~", "true", "True", "TRUE", "false", "False", "FALSE"]

/-- A text that is not reserved is an integer, a float or text. -/
theorem resolve_of_not_mem {s : String} (start : s.toList ≠ []) (free : s ∉ reserved) :
    resolve s = (integer? s.toList).getD (if isZeroPadded s.toList then .text s
      else ((float? s).map .float).getD (.text s)) := by
  have empty : s.toList.isEmpty = false := by simpa using start
  have noWord {words : List String} (h : words ⊆ reserved) : words.contains s = false := by
    rw [← Bool.not_eq_true, List.contains_iff_mem]
    exact fun member => free (h member)
  have null : isNull s = false := noWord (by simp [reserved])
  have bool : bool? s = none := by
    simp only [bool?, noWord (show ["true", "True", "TRUE"] ⊆ reserved by simp [reserved]),
      noWord (show ["false", "False", "FALSE"] ⊆ reserved by simp [reserved]),
      Bool.false_eq_true, if_false]
  simp only [resolve, empty, null, bool, Bool.or_self, Bool.false_eq_true, if_false]
  cases integer? s.toList with
  | some v => rfl
  | none =>
    simp only [Option.getD_none]
    split
    · rfl
    · cases float? s <;> rfl

theorem resolve_null : resolve "null" = .null := by
  simp [resolve, isNull]

theorem resolve_bool (b : Bool) : resolve (if b then "true" else "false") = .bool b := by
  cases b <;> simp [resolve, isNull, bool?]

/-! ### Numbers -/

section Number

variable {n : Nat}

theorem exists_decimal (n : Nat) : ∃ c rest, Text.decimal n = c :: rest ∧ c.isDigit = true ∧
    ∀ d ∈ rest, d.isDigit = true := by
  obtain ⟨c, rest, text⟩ := List.exists_cons_of_ne_nil (Text.decimal_ne_nil n)
  have digits {d : Char} (hd : d ∈ c :: rest) : d.isDigit = true :=
    Text.isDigit_of_mem_decimal (text ▸ hd)
  exact ⟨c, rest, text, digits List.mem_cons_self, fun d hd => digits (List.mem_cons_of_mem c hd)⟩

theorem ne_of_isDigit {c d : Char} (hc : c.isDigit = true) (hd : d.isDigit = false) : c ≠ d := by
  rintro rfl
  rw [hc] at hd
  cases hd

theorem isZeroPadded_decimal (n : Nat) : isZeroPadded (Text.decimal n) = false := by
  obtain ⟨c, rest, text, digit, _⟩ := exists_decimal n
  have minus : c ≠ '-' := ne_of_isDigit digit rfl
  have plus : c ≠ '+' := ne_of_isDigit digit rfl
  by_cases zero : c = '0'
  · subst zero
    have none : n = 0 := Text.eq_zero_of_head?_decimal (by rw [text]; rfl)
    subst none
    rfl
  · rw [text]
    simp [isZeroPadded, dropSign, zero, minus, plus]

theorem magnitude?_decimal (n : Nat) : magnitude? (Text.decimal n) = some n := by
  have value := Text.ofDigits?_decimal n
  have unpadded := isZeroPadded_decimal n
  obtain ⟨c, rest, text, _, digits⟩ := exists_decimal n
  rw [text] at value unpadded ⊢
  -- A digit behind a leading zero is not the mark of another base.
  unfold magnitude?
  split
  · next same =>
    cases same
    exact absurd (digits 'x' List.mem_cons_self) (by decide)
  · next same =>
    cases same
    exact absurd (digits 'o' List.mem_cons_self) (by decide)
  · next same =>
    cases same
    exact absurd (digits 'b' List.mem_cons_self) (by decide)
  · rw [unpadded, value]
    rfl

theorem integer?_decimal (h : n < UInt64.size) : integer? (Text.decimal n) = some (.nat n) := by
  have magnitude := magnitude?_decimal n
  obtain ⟨c, rest, text, digit, _⟩ := exists_decimal n
  have minus : c ≠ '-' := ne_of_isDigit digit rfl
  have plus : c ≠ '+' := ne_of_isDigit digit rfl
  have bound : n < Nat.pow 2 64 := h
  rw [text] at magnitude ⊢
  simp [integer?, minus, plus, magnitude, bound]

theorem resolve_number (h : n < UInt64.size) : resolve (Text.number n) = .nat n := by
  have characters := Text.toList_number n
  obtain ⟨c, rest, text, digit, _⟩ := exists_decimal n
  have free : Text.number n ∉ reserved := by
    have letters : ∀ w ∈ reserved, w.toList.head?.all Char.isDigit = false := by decide
    intro member
    have letter := letters _ member
    rw [characters, text, List.head?_cons, Option.all_some, digit] at letter
    cases letter
  have start : (Text.number n).toList ≠ [] := by
    rw [characters]
    exact Text.decimal_ne_nil n
  rw [resolve_of_not_mem start free, characters, integer?_decimal h, Option.getD_some]

end Number

/-! ### Names of fields -/

theorem range_of_isLower {c : Char} (h : c.isLower = true) : 97 ≤ c.toNat ∧ c.toNat ≤ 122 := by
  obtain ⟨low, high⟩ := Bool.and_eq_true_iff.mp h
  exact ⟨of_decide_eq_true low, of_decide_eq_true high⟩

theorem isDigit_of_isLower {c : Char} (h : c.isLower = true) : c.isDigit = false := by
  have range := range_of_isLower h
  rw [← Bool.not_eq_true]
  intro digit
  have : c.toNat ≤ 57 := of_decide_eq_true (Bool.and_eq_true_iff.mp digit).2
  omega

theorem digit?_of_isLower {c : Char} (h : c.isLower = true) : Text.digit? 10 c = none := by
  have range := range_of_isLower h
  have digit : ¬ ('0' ≤ c ∧ c ≤ '9') := by
    intro between
    have : c.toNat ≤ 57 := between.2
    omega
  have upper : ¬ ('A' ≤ c ∧ c ≤ 'F') := by
    intro between
    have : c.toNat ≤ 70 := between.2
    omega
  simp only [Text.digit?, digit, upper, if_false]
  split
  · simp [Option.filter]
  · rfl

theorem isZeroPadded_of_isLower {c : Char} (h : c.isLower = true) (rest : List Char) :
    isZeroPadded (c :: rest) = false := by
  have apart {d : Char} (hd : d.isLower = false) : c ≠ d := by
    rintro rfl
    rw [h] at hd
    cases hd
  simp [isZeroPadded, dropSign, apart (d := '-') rfl, apart (d := '+') rfl, apart (d := '0') rfl]

section Name

variable {name : String}

theorem exists_of_isFieldName (h : Value.isFieldName name = true) :
    ∃ c rest, name.toList = c :: rest ∧ c.isLower = true ∧
      (∀ d ∈ c :: rest, Value.isNameChar d = true) ∧ (c :: rest).length ≤ 256 ∧
      name ≠ "null" ∧ name ≠ "true" ∧ name ≠ "false" := by
  simp only [Value.isFieldName, Bool.and_eq_true, decide_eq_true_eq] at h
  obtain ⟨⟨⟨first, all⟩, short⟩, free⟩ := h
  cases text : name.toList with
  | nil => simp [text] at first
  | cons c rest =>
    rw [text] at first all
    have length : (c :: rest).length ≤ 256 := by
      rw [← text, String.length_toList]
      exact short
    refine ⟨c, rest, rfl, first, fun d hd => List.all_eq_true.mp all d hd, length, ?_⟩
    simpa using free

/-- A bare word that starts with a letter is no number. -/
theorem resolve_fieldName (h : Value.isFieldName name = true) : resolve name = .text name := by
  obtain ⟨c, rest, text, lower, _, _, notNull, notTrue, notFalse⟩ := exists_of_isFieldName h
  have apart {d : Char} (hd : d.isLower = false) : c ≠ d := by
    rintro rfl
    rw [lower] at hd
    cases hd
  have free : name ∉ reserved := by
    intro member
    have letter : ∀ w ∈ reserved, w = "null" ∨ w = "true" ∨ w = "false" ∨
        w.toList.head?.all Char.isLower = false := by decide
    rcases letter name member with same | same | same | upper
    · exact notNull same
    · exact notTrue same
    · exact notFalse same
    · rw [text, List.head?_cons, Option.all_some, lower] at upper
      cases upper
  have minus : c ≠ '-' := apart rfl
  have plus : c ≠ '+' := apart rfl
  have zero : c ≠ '0' := apart rfl
  have digits : Text.ofDigits? 10 (c :: rest) = none := by
    simp [Text.ofDigits?, Text.digitsFrom?, digit?_of_isLower lower]
  have padded := isZeroPadded_of_isLower lower rest
  have integer : integer? (c :: rest) = none := by
    simp [integer?, magnitude?, minus, plus, zero, padded, digits]
  have numeral : Decimal.Numeral.ofText? (c :: rest) = none := by
    have point : c ≠ '.' := apart rfl
    simp [Decimal.Numeral.ofText?, Decimal.splitSign, Decimal.unsigned?, Decimal.takeDigits, minus,
      plus, point, isDigit_of_isLower lower, Text.ofDigits?]
  have float : float? name = none := by
    have noWord {words : List String} (h : ∀ w ∈ words, w.toList.head?.all Char.isLower = false) :
        words.contains name = false := by
      rw [← Bool.not_eq_true, List.contains_iff_mem]
      intro member
      have letter := h name member
      rw [text, List.head?_cons, Option.all_some, lower] at letter
      cases letter
    have infinity : [".inf", ".Inf", ".INF", "+.inf", "+.Inf", "+.INF"].contains name = false :=
      noWord (by decide)
    have minusInfinity : ["-.inf", "-.Inf", "-.INF"].contains name = false := noWord (by decide)
    have notANumber : [".nan", ".NaN", ".NAN"].contains name = false := noWord (by decide)
    simp only [float?, infinity, minusInfinity, notANumber, Bool.false_eq_true, if_false, text,
      numeral]
    rfl
  rw [resolve_of_not_mem (by rw [text]; exact List.cons_ne_nil c rest) free, text, integer, float,
    padded]
  rfl

end Name

/-! ### Bare text -/

/-- Text on one line in which nothing is a mark, without blanks around it. -/
structure IsBare (cs : List Char) : Prop where
  start : cs ≠ []
  marks : hasMarks cs = false
  line : ∀ c ∈ cs, isBreak c = false ∧ isPrintable c = true
  first : cs.head? ≠ some ' '
  last : cs.getLast? ≠ some ' '

theorem ne_of_isPrintable {c d : Char} (hc : isPrintable c = true) (hd : isPrintable d = false) :
    c ≠ d := by
  rintro rfl
  rw [hc] at hd
  cases hd

/-- Of the printable characters, only the space is blank. -/
theorem isBlank_of_isPrintable {c : Char} (printable : isPrintable c = true) (space : c ≠ ' ') :
    isBlank c = false := by
  have tab := ne_of_isPrintable (d := '\t') printable rfl
  simp [isBlank, space, tab]

theorem IsBare.isBlank {c : Char} {cs : List Char} (bare : IsBare (c :: cs)) :
    isBlank c = false := by
  apply isBlank_of_isPrintable (bare.line c List.mem_cons_self).2
  rintro rfl
  exact bare.first rfl

theorem isPrintable_of_needsEscapes {cs : List Char} (h : needsEscapes cs = false) {c : Char}
    (hc : c ∈ cs) : isPrintable c = true := by
  simp only [needsEscapes, Bool.or_eq_false_iff, Bool.not_eq_false'] at h
  exact List.all_eq_true.mp h.1 c hc

/-- A text is written bare only if it can be. -/
theorem isBare_of_formOf {s : String} (h : formOf s = .plain) : IsBare s.toList := by
  obtain ⟨reads, allowed⟩ := readsAsText_and_allowsPlain h
  simp only [allowsPlain, Bool.and_eq_true, Bool.not_eq_true'] at allowed
  obtain ⟨⟨⟨⟨escapes, marks⟩, line⟩, first⟩, last⟩ := allowed
  refine ⟨?_, marks, fun c hc => ⟨?_, isPrintable_of_needsEscapes escapes hc⟩, ?_, ?_⟩
  · intro empty
    simp [readsAsText, resolve, empty] at reads
  · exact eq_false_of_ne_true fun isBreak => Bool.false_ne_true
      (line.symm.trans (List.any_eq_true.mpr ⟨c, hc, isBreak⟩))
  · intro space
    simp [space, isSpaceChar] at first
  · intro space
    simp [space, isSpaceChar] at last

section Word

variable {cs : List Char}

theorem ne_of_isNameChar {c d : Char} (hc : Value.isNameChar c = true)
    (hd : Value.isNameChar d = false) : c ≠ d := by
  rintro rfl
  rw [hc] at hd
  cases hd

theorem not_mem_of_isNameChar {c : Char} (hc : Value.isNameChar c = true) {marks : List Char}
    (h : marks.any Value.isNameChar = false) : c ∉ marks :=
  fun member => List.any_eq_false.mp h c member hc

theorem isBreak_of_isNameChar {c : Char} (hc : Value.isNameChar c = true) : isBreak c = false := by
  have other : c ∉ ['\n', '\r', '\u0085', '\u2028', '\u2029'] :=
    not_mem_of_isNameChar hc (by decide)
  simpa [isBreak, and_assoc] using other

theorem isPrintable_of_isNameChar {c : Char} (hc : Value.isNameChar c = true) :
    isPrintable c = true := by
  have range : 0x20 ≤ c.toNat ∧ c.toNat ≤ 0x7E := by
    simp only [Value.isNameChar, Bool.or_eq_true, beq_iff_eq] at hc
    rcases hc with (lower | digit) | rfl
    · have := range_of_isLower lower
      omega
    · obtain ⟨low, high⟩ := Bool.and_eq_true_iff.mp digit
      have : 48 ≤ c.toNat := of_decide_eq_true low
      have : c.toNat ≤ 57 := of_decide_eq_true high
      omega
    · decide
  simp [isPrintable, range]

theorem marksInside_word {before : Char} (h : ∀ c ∈ cs, Value.isNameChar c = true) :
    marksInside before cs = false := by
  induction cs generalizing before with
  | nil => rfl
  | cons c rest ih =>
    have colon : c ≠ ':' := ne_of_isNameChar (h c List.mem_cons_self) rfl
    have number : c ≠ '#' := ne_of_isNameChar (h c List.mem_cons_self) rfl
    simp [marksInside, colon, number, ih fun d hd => h d (List.mem_cons_of_mem c hd)]

theorem hasMarks_word (h : ∀ c ∈ cs, Value.isNameChar c = true) : hasMarks cs = false := by
  cases cs with
  | nil => rfl
  | cons c rest =>
    have opening : isOpeningMark c = false := by
      rw [isOpeningMark, ← Bool.not_eq_true, List.contains_iff_mem]
      exact not_mem_of_isNameChar (h c List.mem_cons_self) (by decide)
    have noMark {d : Char} (hd : Value.isNameChar d = false) : c ≠ d :=
      ne_of_isNameChar (h c List.mem_cons_self) hd
    have inside : marksInside c rest = false :=
      marksInside_word fun d hd => h d (List.mem_cons_of_mem c hd)
    have start : marksAtStart c rest = false := by
      simp [marksAtStart, opening, noMark (d := '?') rfl, noMark (d := ':') rfl,
        noMark (d := '-') rfl]
    have documents : (["---".toList, "...".toList].any fun mark => mark == (c :: rest).take 3) =
        false := by
      simp [(noMark (d := '-') rfl).symm, (noMark (d := '.') rfl).symm]
    rw [hasMarks, documents, start, inside]
    rfl

/-- Words are bare. -/
theorem isBare_word (start : cs ≠ []) (h : ∀ c ∈ cs, Value.isNameChar c = true) : IsBare cs where
  start := start
  marks := hasMarks_word h
  line c hc := ⟨isBreak_of_isNameChar (h c hc), isPrintable_of_isNameChar (h c hc)⟩
  first space := Bool.false_ne_true (h ' ' (List.mem_of_head? space))
  last space := Bool.false_ne_true (h ' ' (List.mem_of_getLast? space))

theorem hasPair_word {second : Char → Bool} (h : ∀ c ∈ cs, Value.isNameChar c = true) :
    hasPair isSpaceChar second cs = false := by
  induction cs with
  | nil => rfl
  | cons c rest ih =>
    have space : isSpaceChar c = false :=
      beq_false_of_ne (ne_of_isNameChar (h c List.mem_cons_self) rfl)
    cases rest with
    | nil => rfl
    | cons d more => simp [hasPair, space, ih fun e he => h e (List.mem_cons_of_mem c he)]

theorem isNameChar_null : ∀ c ∈ "null".toList, Value.isNameChar c = true :=
  List.all_eq_true.mp (by decide)

theorem isNameChar_bool (b : Bool) :
    ∀ c ∈ (if b then "true" else "false").toList, Value.isNameChar c = true := by
  cases b with
  | true => exact List.all_eq_true.mp (show "true".toList.all Value.isNameChar = true by decide)
  | false => exact List.all_eq_true.mp (show "false".toList.all Value.isNameChar = true by decide)

theorem isNameChar_of_isDigit {c : Char} (h : c.isDigit = true) : Value.isNameChar c = true := by
  simp [Value.isNameChar, h]

/-- The name of a field is bare where a text is written, too. -/
theorem formOf_fieldName {name : String} (h : Value.isFieldName name = true) :
    formOf name = .plain := by
  have reads := resolve_fieldName h
  obtain ⟨c, rest, text, lower, word, _⟩ := exists_of_isFieldName h
  have bare := isBare_word (List.cons_ne_nil c rest) word
  have line : (c :: rest).contains '\n' = false := by
    rw [← Bool.not_eq_true, List.contains_iff_mem]
    exact fun member => Bool.false_ne_true (word '\n' member)
  have breaks : (c :: rest).any isBreak = false :=
    List.any_eq_false.mpr fun d hd => Bool.eq_false_iff.mp (bare.line d hd).1
  have printable : (c :: rest).all isPrintable = true :=
    List.all_eq_true.mpr fun d hd => isPrintable_of_isNameChar (word d hd)
  have space {d : Option Char} (h : d ≠ some ' ') : d.any isSpaceChar = false := by
    cases d with
    | none => rfl
    | some d => simpa [isSpaceChar] using h
  have text' : readsAsText name = true := by
    simp [readsAsText, reads, text, isZeroPadded_of_isLower lower]
  have allowed : allowsPlain (c :: rest) = true := by
    simp only [allowsPlain, needsEscapes, printable, hasPair_word word, bare.marks, breaks,
      space bare.first, space bare.last]
    rfl
  simp only [formOf, text, line, text', allowed]
  rfl

end Word

/-! ### The spelling of values -/

/-- How a scalar is spelled: bare where its text reads as it. -/
def scalarSpelling : Scalar → Tree
  | .null => .plain "null" .null
  | .bool b => .plain (if b then "true" else "false") (.bool b)
  | .nat n => .plain (Text.number n) (.nat n)
  | .text s => if formOf s = .plain then .plain s (.text s) else .typed (.text s)
  | v => .typed v

theorem scalarSpelling_text (s : String) :
    scalarSpelling (.text s) = .plain s (.text s) ∨ scalarSpelling (.text s) = .typed (.text s) := by
  simp only [scalarSpelling]
  split
  · exact .inl rfl
  · exact .inr rfl

/-- The spelling of YAML text. -/
def spelling : DirectSpelling where
  scalar := scalarSpelling
  sequence := .list
  text s := by rcases scalarSpelling_text s with h | h <;> rw [h] <;> rfl
  nat _ := rfl
  bool _ := rfl
  present read v h := by
    cases v with
    | null => exact absurd rfl h
    | text s => rcases scalarSpelling_text s with h | h <;> rw [h] <;> rfl
    | _ => rfl
  hold v h := by
    cases v with
    | unusable => exact absurd rfl h
    | text s => rcases scalarSpelling_text s with h | h <;> rw [h] <;> rfl
    | _ => rfl
  items _ := rfl
  presentItems _ _ := rfl
  holdItems _ := rfl
  constant s := by rcases scalarSpelling_text s with h | h <;> rw [h] <;> rfl

end IsisTestbed.Yaml
