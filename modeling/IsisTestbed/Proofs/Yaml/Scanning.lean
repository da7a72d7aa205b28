import IsisTestbed.Proofs.Yaml.Scalars

/-!
Scalars as they are scanned. Each form in which a text is written is read as that text, up to its
end, and no further than to the first token of the next line.
-/

namespace IsisTestbed.Yaml

/-! ### Places -/

/-- The number of octets of characters. -/
def octets : List Char → Nat
  | [] => 0
  | x :: rest => x.utf8Size + octets rest

/-- The place behind characters of the line, where `rest` follows. -/
def Cursor.past (c : Cursor) (cs rest : List Char) : Cursor :=
  ⟨rest, c.index + octets cs, c.line, c.column + cs.length⟩

/-- What follows on a new line that is indented up to a column: a dash, the name of a field, or the
end of the text. -/
structure Follows (column : Nat) (rest : List Char) : Prop where
  start : ∀ x ∈ rest.head?, x = '-' ∨ x.isLower = true
  ends : rest = [] → column = 0

namespace Cursor

variable {c : Cursor} {x : Char} {cs ds rest : List Char}

theorem past_cons : c.past (x :: cs) rest = (c.step x (cs ++ rest)).past cs rest := by
  simp only [past, step, octets, List.length_cons]
  congr 1 <;> omega

theorem past_space : c.past (' ' :: cs) rest = (c.advance 1 (cs ++ rest)).past cs rest :=
  past_cons

theorem past_nil (place : c.rest = rest) : c.past [] rest = c := by
  rw [past, ← place]
  rfl

end Cursor

namespace Follows

variable {column : Nat} {x : Char} {rest : List Char}

theorem isBreak (h : Follows column (x :: rest)) : isBreak x = false := by
  rcases h.start x rfl with rfl | lower
  · rfl
  · exact isBreak_of_isNameChar (by simp [Value.isNameChar, lower])

theorem ne (h : Follows column (x :: rest)) {d : Char} (dash : d ≠ '-') (other : d.isLower = false) :
    x ≠ d := by
  rintro rfl
  rcases h.start x rfl with same | lower
  · exact dash same
  · rw [lower] at other
    cases other

end Follows

/-! ### Plain scalars -/

section Plain

variable {indent : Nat} {text : List Char} {gap : Gap} {fresh : Bool} {c : Cursor} {x : Char}
  {cs rest : List Char}

theorem plainFrom_cons (hx : isBreak x = false) :
    plainFrom false indent text gap fresh c (x :: rest) =
      if isBlank x then
        if gap.lineEnded && c.column < indent && x == '\t' then none
        else plainFrom false indent text (gap.blank x) true (c.advance 1 rest) rest
      else if fresh && (c.column < indent || x == '#' ||
          (c.column == 0 && atDocumentMark (x :: rest))) then
        some (text, { c with rest := x :: rest }, gap.lineEnded)
      else if x == ':' && atSpace rest then
        some (text, { c with rest := x :: rest }, gap.lineEnded)
      else plainFrom false indent (x :: gap.close text) {} false (c.step x rest) rest := by
  rw [plainFrom]
  · simp [hx]
  · rintro _ rfl _
    cases hx

theorem plainFrom_lineFeed :
    plainFrom false indent text gap fresh c ('\n' :: rest) =
      plainFrom false indent text (gap.lineBreak '\n') true (c.newLine 1 rest) rest := by
  rw [plainFrom]
  · rfl
  · intro _ same _
    cases same

/-- A plain scalar ends at a line that starts left of its own lines. -/
theorem plainFrom_follows {m : Nat} (ended : gap.lineEnded = true) (left : c.column + m < indent)
    (follows : Follows (c.column + m) rest) :
    plainFrom false indent text gap true c (spaces m ++ rest) =
      some (text, c.past (spaces m) rest, true) := by
  induction m generalizing c gap with
  | zero =>
    cases rest with
    | nil =>
      rw [spaces, List.replicate_zero, List.nil_append, plainFrom, ended]
      rfl
    | cons x more =>
      have blank : isBlank x = false := by
        have space := follows.ne (d := ' ') (by decide) rfl
        have tab := follows.ne (d := '\t') (by decide) rfl
        simp [isBlank, space, tab]
      have column : c.column < indent := left
      rw [spaces, List.replicate_zero, List.nil_append, plainFrom_cons follows.isBreak, blank, ended]
      simp [column, Cursor.past, octets]
  | succ m ih =>
    have shape : spaces (m + 1) ++ rest = ' ' :: (spaces m ++ rest) := rfl
    rw [shape, plainFrom_cons rfl, show spaces (m + 1) = ' ' :: spaces m from rfl,
      Cursor.past_space]
    simp only [show isBlank ' ' = true from rfl, if_true, show (' ' == '\t') = false from rfl,
      Bool.and_false, Bool.false_eq_true, if_false]
    have column : (c.advance 1 (spaces m ++ rest)).column + m = c.column + (m + 1) := by
      simp only [Cursor.advance]
      omega
    apply ih
    · simp [Gap.blank, ended]
    · rwa [column]
    · rwa [column]

/-- The rest of a bare text is scanned as it is. The induction is on the characters; a gap holds the
blanks before them. -/
theorem plainFrom_append {before : Char} (line : ∀ d ∈ cs, isBreak d = false ∧ isPrintable d = true)
    (last : cs.getLast? ≠ some ' ') (marks : marksInside before cs = false)
    (within : gap.lineEnded = false) (blank' : fresh = true → before = ' ')
    (column : indent ≤ c.column ∧ 0 < c.column) (place : c.rest = cs ++ rest)
    (done : cs = [] → gap = {} ∧ fresh = false) :
    plainFrom false indent text gap fresh c (cs ++ rest) =
      plainFrom false indent (cs.reverse ++ (gap.blanks ++ text)) {} false (c.past cs rest) rest := by
  induction cs generalizing text gap fresh before c with
  | nil =>
    obtain ⟨rfl, rfl⟩ := done rfl
    have same : c.past [] rest = c := Cursor.past_nil place
    rw [same]
    rfl
  | cons x more ih =>
    have later : ∀ d ∈ more, isBreak d = false ∧ isPrintable d = true :=
      fun d hd => line d (List.mem_cons_of_mem x hd)
    have last' : more.getLast? ≠ some ' ' := by
      cases more with
      | nil => exact nofun
      | cons y ys => rwa [List.getLast?_cons_cons] at last
    simp only [marksInside, Bool.or_eq_false_iff] at marks
    obtain ⟨⟨colon, number⟩, marks⟩ := marks
    rw [List.cons_append, plainFrom_cons (line x List.mem_cons_self).1]
    by_cases space : x = ' '
    · subst space
      have further : more ≠ [] := by
        rintro rfl
        exact last rfl
      simp only [show isBlank ' ' = true from rfl, if_true, within, Bool.false_and,
        Bool.false_eq_true, if_false, Cursor.past_space]
      refine (ih later last' marks ?_ (fun _ => rfl) ?_ rfl fun none => absurd none further).trans ?_
      · simp [Gap.blank, within]
      · simp only [Cursor.advance]
        omega
      · simp [Gap.blank, within]
    · have blank := isBlank_of_isPrintable (line x List.mem_cons_self).2 space
      have noNumber : fresh = true → x ≠ '#' := by
        rintro isFresh rfl
        simp [blank' isFresh, isSpace, isBlank] at number
      have inside : (fresh && (decide (c.column < indent) || x == '#' ||
          (c.column == 0 && atDocumentMark (x :: (more ++ rest))))) = false := by
        have right : ¬ c.column < indent := Nat.not_lt.mpr column.1
        have further : c.column ≠ 0 := Nat.pos_iff_ne_zero.mp column.2
        cases fresh with
        | false => rfl
        | true => simp [right, further, noNumber rfl]
      have noColon : (x == ':' && atSpace (more ++ rest)) = false := by
        cases more with
        | nil =>
          have other : x ≠ ':' := by simpa [atSpace] using colon
          simp [other]
        | cons y ys => exact colon
      simp only [blank, inside, noColon, Bool.false_eq_true, if_false, Cursor.past_cons]
      refine (ih later last' marks rfl ?_ ?_ rfl ?_).trans ?_
      · exact fun isFresh => absurd isFresh Bool.false_ne_true
      · simp only [Cursor.step]
        omega
      · exact fun _ => ⟨rfl, rfl⟩
      · simp [Gap.close, within]

theorem IsBare.opening (bare : IsBare (x :: cs)) : isOpeningMark x = false := by
  have marks := bare.marks
  simp only [hasMarks, marksAtStart, Bool.or_eq_false_iff] at marks
  exact marks.1.2.1

/-- A mark that needs a separator behind it has none. -/
theorem IsBare.atSpace_eq_false (bare : IsBare (x :: cs)) (h : x = '?' ∨ x = ':' ∨ x = '-')
    (rest : List Char) : atSpace (cs ++ rest) = false := by
  have marks := bare.marks
  simp only [hasMarks, marksAtStart, Bool.or_eq_false_iff] at marks
  have separated : atSpace cs = false := by
    rcases h with rfl | rfl | rfl <;> simpa using marks.1.2.2
  cases cs with
  | nil => cases separated
  | cons y ys => exact separated

theorem IsBare.inside (bare : IsBare (x :: cs)) : marksInside x cs = false := by
  have marks := bare.marks
  simp only [hasMarks, Bool.or_eq_false_iff] at marks
  exact marks.2

/-- A bare text is scanned as it is. Its first character may stand left of further lines. -/
theorem plainFrom_bare (bare : IsBare cs) (column : indent ≤ c.column + 1)
    (place : c.rest = cs ++ rest) :
    plainFrom false indent [] {} false c (cs ++ rest) =
      plainFrom false indent cs.reverse {} false (c.past cs rest) rest := by
  obtain ⟨x, more, rfl⟩ := List.exists_cons_of_ne_nil bare.start
  have noBreak := (bare.line x List.mem_cons_self).1
  have colon : (x == ':' && atSpace (more ++ rest)) = false := by
    by_cases same : x = ':'
    · rw [bare.atSpace_eq_false (.inr (.inl same)), Bool.and_false]
    · simp [same]
  rw [List.cons_append, plainFrom_cons noBreak]
  simp only [bare.isBlank, colon, Bool.false_and, Bool.false_eq_true, if_false, Cursor.past_cons]
  refine (plainFrom_append (fun d hd => bare.line d (List.mem_cons_of_mem x hd)) ?_ bare.inside rfl
    ?_ ?_ rfl ?_).trans ?_
  · have last := bare.last
    cases more with
    | nil => exact nofun
    | cons y ys => rwa [List.getLast?_cons_cons] at last
  · exact fun isFresh => absurd isFresh Bool.false_ne_true
  · simp only [Cursor.step]
    omega
  · exact fun _ => ⟨rfl, rfl⟩
  · simp [Gap.close]

/-- A bare text ends at a colon before a separator. -/
theorem plainFrom_colon (bare : IsBare cs) (column : indent ≤ c.column + 1)
    (place : c.rest = cs ++ ':' :: rest) (separated : atSpace rest = true) :
    plainFrom false indent [] {} false c (cs ++ ':' :: rest) =
      some (cs.reverse, c.past cs (':' :: rest), false) := by
  rw [plainFrom_bare bare column place, plainFrom_cons rfl, separated]
  rfl

/-- A bare text ends with its line, if the next one starts further left. -/
theorem plainFrom_line {column : Nat} (bare : IsBare cs) (here : indent ≤ c.column + 1)
    (follows : Follows column rest) (left : column < indent)
    (place : c.rest = cs ++ '\n' :: (spaces column ++ rest)) :
    ∃ c', plainFrom false indent [] {} false c (cs ++ '\n' :: (spaces column ++ rest)) =
        some (cs.reverse, c', true) ∧ c'.rest = rest ∧ c'.column = column ∧ c.line < c'.line := by
  let next := (c.past cs ('\n' :: (spaces column ++ rest))).newLine 1 (spaces column ++ rest)
  have start : next.column + column = column := Nat.zero_add column
  refine ⟨next.past (spaces column) rest, ?_, rfl, ?_, Nat.lt_succ_self c.line⟩
  · rw [plainFrom_bare bare here place, plainFrom_lineFeed]
    apply plainFrom_follows rfl
    · rwa [start]
    · rwa [start]
  · simp [Cursor.past, spaces, start]

end Plain

/-! ### Single quotes -/

section Single

variable {indent : Nat} {text : List Char} {gap : Gap} {c : Cursor} {x : Char} {cs rest : List Char}

theorem singleFrom_cons (return_ : x ≠ '\r') (quote : x = '\x27' → rest.head? ≠ some '\x27') :
    singleFrom text gap c (x :: rest) =
      if isBreak x then singleFrom text (gap.lineBreak x) (c.newLine x.utf8Size rest) rest
      else if isBlank x then singleFrom text (gap.blank x) (c.advance 1 rest) rest
      else if c.column == 0 && atDocumentMark (x :: rest) then none
      else if x == '\x27' then some (gap.close text, c.advance 1 rest)
      else singleFrom (x :: gap.close text) {} (c.step x rest) rest := by
  rw [singleFrom]
  · intro _ same _
    exact return_ same
  · rintro _ same rfl
    exact quote same rfl

/-- The blanks that indent a line do not count. -/
theorem singleFrom_spaces (ended : gap.lineEnded = true) (n : Nat) (place : c.rest = spaces n ++ rest) :
    singleFrom text gap c (spaces n ++ rest) =
      singleFrom text gap (c.past (spaces n) rest) rest := by
  induction n generalizing c with
  | zero =>
    have same : c.past (spaces 0) rest = c := Cursor.past_nil place
    rw [same]
    rfl
  | succ n ih =>
    have blank : gap.blank ' ' = gap := by simp [Gap.blank, ended]
    have shape : spaces (n + 1) ++ rest = ' ' :: (spaces n ++ rest) := rfl
    rw [shape, singleFrom_cons (by decide) (fun same => absurd same (by decide)), blank,
      show spaces (n + 1) = ' ' :: spaces n from rfl, Cursor.past_space]
    exact ih rfl

theorem hasPair_cons {f g : Char → Bool} (h : hasPair f g (x :: cs) = false) :
    hasPair f g cs = false ∧ (f x = true → ∀ d ∈ cs.head?, g d = false) := by
  cases cs with
  | nil => exact ⟨rfl, fun _ => nofun⟩
  | cons y ys =>
    simp only [hasPair, Bool.or_eq_false_iff, Bool.and_eq_false_iff] at h
    refine ⟨h.2, ?_⟩
    rintro isFirst d ⟨⟩
    rcases h.1 with notFirst | notSecond
    · exact absurd (isFirst.symm.trans notFirst) (by decide)
    · exact notSecond

theorem normalBreak_of_isPrintable (printable : isPrintable x = true) (isBreak : isBreak x = true) :
    normalBreak x = x := by
  simp only [Yaml.isBreak, Bool.or_eq_true, beq_iff_eq] at isBreak
  rcases isBreak with (((rfl | rfl) | rfl) | rfl) | rfl
  · rfl
  · cases printable
  · cases printable
  · rfl
  · rfl

theorem lineEnded_lineBreak : (gap.lineBreak x).lineEnded = true := by
  cases ended : gap.lineEnded <;> simp [Gap.lineBreak, ended]

theorem close_of_lineEnd {d : Char} (ended : gap.lineEnded = true) (lineEnd : gap.lineEnd = some d)
    (other : d ≠ '\n') : gap.close text = gap.emptyLines ++ d :: text := by
  rw [Gap.close, ended, if_pos rfl, lineEnd]
  split
  · next same => exact absurd (Option.some.inj same) other
  · next same => rw [Option.some.inj same]
  · next same => cases same

/-- What a gap has as its line end, if it is not folded. -/
def KeepsLineEnd (gap : Gap) : Prop :=
  ∃ d, gap.lineEnd = some d ∧ d ≠ '\n'

/-- A printable line end is kept: it is not one that is folded. -/
theorem close_lineBreak (printable : isPrintable x = true) (isBreak : isBreak x = true)
    (other : x ≠ '\n') (behindBreak : gap.lineEnded = true → KeepsLineEnd gap)
    (bare : gap.lineEnded = false → gap.blanks = []) :
    KeepsLineEnd (gap.lineBreak x) ∧ (gap.lineBreak x).close text = x :: gap.close text := by
  have normal := normalBreak_of_isPrintable printable isBreak
  cases ended : gap.lineEnded with
  | true =>
    obtain ⟨d, lineEnd, different⟩ := behindBreak ended
    have next : gap.lineBreak x = { gap with emptyLines := x :: gap.emptyLines } := by
      simp [Gap.lineBreak, ended, normal]
    rw [next, close_of_lineEnd ended lineEnd different]
    exact ⟨⟨d, lineEnd, different⟩, close_of_lineEnd ended lineEnd different⟩
  | false =>
    have next : gap.lineBreak x =
        { blanks := [], lineEnded := true, lineEnd := some x, emptyLines := [] } := by
      simp [Gap.lineBreak, ended, normal]
    rw [next, Gap.close.eq_def gap text, ended, bare ended]
    exact ⟨⟨x, rfl, other⟩, close_of_lineEnd rfl rfl other⟩

/-- How the inside of single quotes is scanned up to a place: the text, the gap behind it and the
place. -/
structure Scanned (before after : List Char × Gap × Cursor) (x : Char) (rest : List Char) :
    Prop where
  text : after.2.1.close after.1 = x :: before.2.1.close before.1
  within : after.2.1.lineEnded = false
  blanks : after.2.1.blanks ≠ [] → x = ' '
  line : after.2.2.line = before.2.2.line
  column : 0 < after.2.2.column
  place : after.2.2.rest = rest

/-- A character of a line is scanned as itself. -/
theorem singleFrom_char (printable : isPrintable x = true) (inLine : isBreak x = false)
    (space : x = ' ' → gap.lineEnded = false) (column : 0 < c.column) :
    ∃ after, singleFrom text gap c ((if x == '\x27' then ['\x27', '\x27'] else [x]) ++ rest) =
        singleFrom after.1 after.2.1 after.2.2 rest ∧ Scanned (text, gap, c) after x rest := by
  by_cases quote : x = '\x27'
  · subst quote
    refine ⟨('\x27' :: gap.close text, {}, c.advance 2 rest), ?_, rfl, rfl, nofun, rfl, ?_, rfl⟩
    · show singleFrom text gap c ('\x27' :: '\x27' :: rest) = _
      rw [singleFrom]
    · exact Nat.succ_pos _
  · have return_ : x ≠ '\r' := by
      rintro rfl
      exact Bool.false_ne_true inLine.symm
    have alone : (if x == '\x27' then ['\x27', '\x27'] else [x]) ++ rest = x :: rest := by
      simp [quote]
    rw [alone, singleFrom_cons return_ (fun same => absurd same quote), inLine]
    by_cases isSpace : x = ' '
    · have within := space isSpace
      subst isSpace
      refine ⟨(text, gap.blank ' ', c.advance 1 rest), rfl, ?_, ?_, fun _ => rfl, rfl, ?_, rfl⟩
      · simp [Gap.blank, Gap.close, within]
      · simp [Gap.blank, within]
      · exact Nat.succ_pos _
    · have blank := isBlank_of_isPrintable printable isSpace
      have further : (c.column == 0) = false := beq_false_of_ne (Nat.pos_iff_ne_zero.mp column)
      refine ⟨(x :: gap.close text, {}, c.step x rest), ?_, rfl, rfl, nofun, rfl, ?_, rfl⟩
      · simp [blank, further, quote]
      · exact Nat.succ_pos _

/-- What is inside of single quotes is scanned as it is. The induction is on the characters that are
left; behind a line end the gap holds it, and otherwise it holds the blanks before them. -/
theorem singleFrom_inside {afterBreak : Bool} (printable : ∀ d ∈ cs, isPrintable d = true ∧ d ≠ '\n')
    (spaceBreak : hasPair isSpaceChar isBreak cs = false)
    (breakSpace : hasPair isBreak isSpaceChar cs = false)
    (ended : gap.lineEnded = afterBreak)
    (behindBreak : afterBreak = true → KeepsLineEnd gap ∧ cs.head? ≠ some ' ')
    (behindSpace : afterBreak = false → gap.blanks ≠ [] → ∀ d ∈ cs.head?, isBreak d = false)
    (indented : 0 < indent) (column : afterBreak = false → 0 < c.column)
    (place : c.rest = singleInside indent afterBreak cs ++ '\x27' :: rest)
    (quote : rest.head? ≠ some '\x27') :
    ∃ c', singleFrom text gap c (singleInside indent afterBreak cs ++ '\x27' :: rest) =
        some (cs.reverse ++ gap.close text, c') ∧ c'.rest = rest ∧ c.line ≤ c'.line := by
  induction cs generalizing text gap afterBreak c with
  | nil =>
    have close {c : Cursor} : singleFrom text gap c ('\x27' :: rest) =
        some (gap.close text, c.advance 1 rest) := by
      rw [singleFrom_cons (by decide) fun _ => quote]
      simp [show isBreak '\x27' = false from rfl, show isBlank '\x27' = false from rfl,
        atDocumentMark]
    cases afterBreak with
    | false => exact ⟨_, close, rfl, Nat.le_refl _⟩
    | true =>
      refine ⟨(c.past (spaces indent) ('\x27' :: rest)).advance 1 rest, ?_, rfl, Nat.le_refl _⟩
      rw [singleInside, if_pos rfl, singleFrom_spaces ended indent place, close]
      rfl
  | cons x more ih =>
    obtain ⟨printableX, notLineFeed⟩ := printable x List.mem_cons_self
    have later : ∀ d ∈ more, isPrintable d = true ∧ d ≠ '\n' :=
      fun d hd => printable d (List.mem_cons_of_mem x hd)
    obtain ⟨spaceBreak', noBreak⟩ := hasPair_cons spaceBreak
    obtain ⟨breakSpace', noSpace⟩ := hasPair_cons breakSpace
    -- Characters of a line leave a gap of blanks only.
    have inLine {text : List Char} {gap : Gap} {c : Cursor} (isBreak : isBreak x = false)
        (space : x = ' ' → gap.lineEnded = false) (column : 0 < c.column) :
        ∃ c', singleFrom text gap c ((if x == '\x27' then ['\x27', '\x27'] else [x]) ++
            (singleInside indent false more ++ '\x27' :: rest)) =
              some ((x :: more).reverse ++ gap.close text, c') ∧ c'.rest = rest ∧
            c.line ≤ c'.line := by
      obtain ⟨⟨text', gap', c₁⟩, scanned, after⟩ :=
        @singleFrom_char text gap c x (singleInside indent false more ++ '\x27' :: rest) printableX
          isBreak space column
      obtain ⟨c₂, scanned', place', line'⟩ := ih later spaceBreak' breakSpace' after.within
        (by intro h; cases h)
        (fun _ blanks => noBreak (by rw [after.blanks blanks]; rfl)) (fun _ => after.column)
        after.place
      refine ⟨c₂, ?_, place', after.line ▸ line'⟩
      rw [scanned, scanned', after.text]
      simp
    cases isBreakX : isBreak x with
    | true =>
      have shape : singleInside indent afterBreak (x :: more) ++ '\x27' :: rest =
          x :: (singleInside indent true more ++ '\x27' :: rest) := by
        simp [singleInside, isBreakX]
      have return_ := ne_of_isPrintable (d := '\r') printableX rfl
      have quoteX : x ≠ '\x27' := by
        rintro rfl
        cases isBreakX
      have bare (h : gap.lineEnded = false) : gap.blanks = [] := by
        apply Classical.byContradiction
        intro blanks
        have inside := behindSpace (ended ▸ h) blanks x rfl
        rw [isBreakX] at inside
        cases inside
      obtain ⟨keeps, kept⟩ := @close_lineBreak text gap x printableX isBreakX notLineFeed
        (fun h => (behindBreak (ended ▸ h)).1) bare
      have indentedNext : more.head? ≠ some ' ' :=
        fun space => Bool.false_ne_true (noSpace isBreakX ' ' space).symm
      obtain ⟨c', scanned, place', line'⟩ := @ih text (gap.lineBreak x)
        (c.newLine x.utf8Size (singleInside indent true more ++ '\x27' :: rest)) true later
        spaceBreak' breakSpace' lineEnded_lineBreak (fun _ => ⟨keeps, indentedNext⟩)
        (by intro h; cases h) (by intro h; cases h) rfl
      refine ⟨c', ?_, place', Nat.le_trans (Nat.le_succ _) line'⟩
      rw [shape, singleFrom_cons return_ (fun same => absurd same quoteX), isBreakX, if_pos rfl,
        scanned, kept]
      simp
    | false =>
      cases afterBreak with
      | false =>
        have shape : singleInside indent false (x :: more) ++ '\x27' :: rest =
            (if x == '\x27' then ['\x27', '\x27'] else [x]) ++
              (singleInside indent false more ++ '\x27' :: rest) := by
          simp [singleInside, isBreakX]
        rw [shape]
        exact inLine isBreakX (fun _ => ended) (column rfl)
      | true =>
        have notSpace : x ≠ ' ' := fun same => (behindBreak rfl).2 (congrArg some same)
        have shape : singleInside indent true (x :: more) ++ '\x27' :: rest = spaces indent ++
            ((if x == '\x27' then ['\x27', '\x27'] else [x]) ++
              (singleInside indent false more ++ '\x27' :: rest)) := by
          simp [singleInside, isBreakX, notSpace, beq_false_of_ne notSpace]
        rw [shape] at place ⊢
        rw [singleFrom_spaces ended indent place]
        apply inLine isBreakX (fun same => absurd same notSpace)
        simp only [Cursor.past, spaces, List.length_replicate]
        omega

end Single

/-! ### Double quotes -/

/-- Hexadecimal digits denote the same number in upper case. -/
theorem digitsFrom?_map_toUpper {cs : List Char} (h : ∀ d ∈ cs, ∃ n < 16, d = Nat.digitChar n)
    (value : Nat) : Text.digitsFrom? 16 value (cs.map Char.toUpper) = Text.digitsFrom? 16 value cs := by
  have upper : ∀ n < 16, Text.digit? 16 (Nat.digitChar n).toUpper =
      Text.digit? 16 (Nat.digitChar n) := by decide
  induction cs generalizing value with
  | nil => rfl
  | cons d rest ih =>
    obtain ⟨n, bound, rfl⟩ := h d List.mem_cons_self
    have later (v : Nat) := ih (fun e he => h e (List.mem_cons_of_mem _ he)) v
    simp only [List.map_cons, Text.digitsFrom?, upper n bound, later]

/-- The digits of an escape. -/
def escapeDigits (width : Nat) (x : Char) : List Char :=
  Text.padLeft width '0' ((Text.hex x.toNat).map Char.toUpper)

theorem length_escapeDigits {width : Nat} {x : Char} (hwidth : 0 < width)
    (h : x.toNat < 16 ^ width) : (escapeDigits width x).length = width := by
  have short := Text.length_hex_le hwidth h
  simp only [escapeDigits, Text.padLeft, List.length_append, List.length_replicate, List.length_map]
  omega

theorem numberedChar?_escapeDigits {width : Nat} {x : Char} (hwidth : 0 < width)
    (h : x.toNat < 16 ^ width) : numberedChar? (escapeDigits width x) = some x := by
  have nonempty : escapeDigits width x ≠ [] := by
    rw [← List.length_pos_iff, length_escapeDigits hwidth h]
    exact hwidth
  have value : Text.ofDigits? 16 (escapeDigits width x) = some x.toNat := by
    rw [Text.ofDigits?_eq_digitsFrom? nonempty, escapeDigits, Text.padLeft,
      Text.digitsFrom?_replicate_zero (by decide),
      digitsFrom?_map_toUpper fun d hd => Text.mem_hex hd]
    exact Text.digitsFrom?_toDigits (by decide) (by decide) x.toNat
  have valid : x.toNat < 0xD800 ∨ (0xDFFF < x.toNat ∧ x.toNat < 0x110000) := x.valid
  simp [numberedChar?, value, valid, Char.ofNat_toNat]

/-- The marks of escapes by number, with their numbers of digits. -/
def numberMarks : List (Char × Nat) :=
  [('x', 2), ('u', 4), ('U', 8)]

/-- A character is escaped by a letter, is written as it is, or is escaped by its number. -/
theorem escapeDouble_cases (x : Char) :
    (∃ d, simpleEscape? d = some x ∧ escapeDouble x = ['\\', d]) ∨
      (isPrintable x = true ∧ isBreak x = false ∧ x ≠ '\\' ∧ x ≠ '\x22' ∧ escapeDouble x = [x]) ∨
      ∃ mark width, (mark, width) ∈ numberMarks ∧ 0 < width ∧ x.toNat < 16 ^ width ∧
        escapeDouble x = '\\' :: mark :: escapeDigits width x := by
  unfold escapeDouble
  split
  case h_15 _ _ _ _ feed _ _ return_ _ quote backslash nextLine line paragraph =>
    right
    split
    · next printable =>
      have inLine : isBreak x = false := by
        simp [isBreak, show x ≠ '\n' from feed, show x ≠ '\r' from return_,
          show x ≠ '\u0085' from nextLine, show x ≠ '\u2028' from line,
          show x ≠ '\u2029' from paragraph]
      exact .inl ⟨printable, inLine, backslash, quote, rfl⟩
    · right
      split
      · next bound => exact ⟨'x', 2, by simp [numberMarks], by decide, bound, rfl⟩
      · split
        · next bound => exact ⟨'u', 4, by simp [numberMarks], by decide, bound, rfl⟩
        · have valid : x.toNat < 0xD800 ∨ (0xDFFF < x.toNat ∧ x.toNat < 0x110000) := x.valid
          have bound : x.toNat < 16 ^ 8 := by omega
          exact ⟨'U', 8, by simp [numberMarks], by decide, bound, rfl⟩
  all_goals exact .inl ⟨_, rfl, rfl⟩

section Double

variable {text : List Char} {gap : Gap} {c : Cursor} {x : Char} {cs rest : List Char}

theorem doubleFrom_cons (return_ : x ≠ '\r') (backslash : x ≠ '\\') :
    doubleFrom text gap c (x :: rest) =
      if isBreak x then doubleFrom text (gap.lineBreak x) (c.newLine x.utf8Size rest) rest
      else if isBlank x then doubleFrom text (gap.blank x) (c.advance 1 rest) rest
      else if c.column == 0 && atDocumentMark (x :: rest) then none
      else if x == '\x22' then some (gap.close text, c.advance 1 rest)
      else doubleFrom (x :: gap.close text) {} (c.step x rest) rest := by
  rw [doubleFrom]
  · intro _ same _
    exact return_ same
  all_goals
    intros
    exact absurd ‹x = '\\'› backslash

/-- An escape of two characters is scanned as what it stands for. -/
theorem doubleFrom_simple {y : Char} (value : simpleEscape? x = some y) :
    doubleFrom text gap c ('\\' :: x :: rest) =
      doubleFrom (y :: gap.close text) {} (c.advance 2 rest) rest := by
  have apart {d : Char} (h : simpleEscape? d = none) : x ≠ d := by
    rintro rfl
    rw [h] at value
    cases value
  have inLine : isBreak x = false := by
    simp [isBreak, apart (d := '\n') rfl, apart (d := '\r') rfl, apart (d := '\u0085') rfl,
      apart (d := '\u2028') rfl, apart (d := '\u2029') rfl]
  rw [doubleFrom]
  · simp [inLine, value]
  · exact fun _ same _ => apart (d := '\r') rfl same
  · exact fun _ _ _ same _ => apart (d := 'x') rfl same
  · exact fun _ _ _ _ _ same _ => apart (d := 'u') rfl same
  · exact fun _ _ _ _ _ _ _ _ _ same _ => apart (d := 'U') rfl same

/-- An escape of digits is scanned as the character of their number. -/
theorem doubleFrom_numbered {mark y : Char} {digits : List Char}
    (h : (mark, digits.length) ∈ numberMarks)
    (value : numberedChar? digits = some y) :
    doubleFrom text gap c ('\\' :: mark :: (digits ++ rest)) =
      doubleFrom (y :: gap.close text) {} (c.advance (digits.length + 2) rest) rest := by
  simp only [numberMarks, List.mem_cons, Prod.mk.injEq, List.not_mem_nil, or_false] at h
  rcases h with ⟨rfl, two⟩ | ⟨rfl, four⟩ | ⟨rfl, eight⟩
  · match digits, two with
    | [a, b], _ =>
      show doubleFrom text gap c ('\\' :: 'x' :: a :: b :: rest) = _
      rw [doubleFrom, value]
      rfl
  · match digits, four with
    | [a, b, d, e], _ =>
      show doubleFrom text gap c ('\\' :: 'u' :: a :: b :: d :: e :: rest) = _
      rw [doubleFrom, value]
      rfl
  · match digits, eight with
    | [a, b, d, e, f, g, h, i], _ =>
      show doubleFrom text gap c ('\\' :: 'U' :: a :: b :: d :: e :: f :: g :: h :: i :: rest) = _
      rw [doubleFrom, value]
      rfl

/-- A character that is not escaped is scanned as itself. -/
theorem doubleFrom_printable (printable : isPrintable x = true) (inLine : isBreak x = false)
    (marks : x ≠ '\\' ∧ x ≠ '\x22') (within : gap.lineEnded = false) (column : 0 < c.column) :
    ∃ after, doubleFrom text gap c (x :: rest) = doubleFrom after.1 after.2.1 after.2.2 rest ∧
      Scanned (text, gap, c) after x rest := by
  have return_ := ne_of_isPrintable (d := '\r') printable rfl
  rw [doubleFrom_cons return_ marks.1, inLine]
  by_cases space : x = ' '
  · subst space
    refine ⟨(text, gap.blank ' ', c.advance 1 rest), rfl, ?_, ?_, fun _ => rfl, rfl, ?_, rfl⟩
    · simp [Gap.blank, Gap.close, within]
    · simp [Gap.blank, within]
    · exact Nat.succ_pos _
  · have blank := isBlank_of_isPrintable printable space
    have further : (c.column == 0) = false := beq_false_of_ne (Nat.pos_iff_ne_zero.mp column)
    refine ⟨(x :: gap.close text, {}, c.step x rest), ?_, rfl, rfl, nofun, rfl, ?_, rfl⟩
    · simp [blank, further, marks.2]
    · exact Nat.succ_pos _

/-- Each character is scanned as what is escaped there. -/
theorem doubleFrom_char (within : gap.lineEnded = false) (column : 0 < c.column) :
    ∃ after, doubleFrom text gap c (escapeDouble x ++ rest) =
      doubleFrom after.1 after.2.1 after.2.2 rest ∧ Scanned (text, gap, c) after x rest := by
  rcases escapeDouble_cases x with ⟨d, value, shape⟩ | ⟨printable, inLine, backslash, quote, shape⟩ |
    ⟨mark, width, known, positive, bound, shape⟩
  · rw [shape]
    refine ⟨(x :: gap.close text, {}, c.advance 2 rest), doubleFrom_simple value, rfl, rfl, nofun,
      rfl, ?_, rfl⟩
    exact Nat.succ_pos _
  · rw [shape]
    exact doubleFrom_printable printable inLine ⟨backslash, quote⟩ within column
  · have length := length_escapeDigits positive bound
    rw [shape]
    refine ⟨(x :: gap.close text, {}, c.advance ((escapeDigits width x).length + 2) rest),
      doubleFrom_numbered (length.symm ▸ known) (numberedChar?_escapeDigits positive bound), rfl, rfl,
      nofun, rfl, ?_, rfl⟩
    exact Nat.succ_pos _

/-- What is inside of double quotes is scanned as what is escaped there. -/
theorem doubleFrom_inside (within : gap.lineEnded = false) (column : 0 < c.column) :
    ∃ c', doubleFrom text gap c (cs.flatMap escapeDouble ++ '\x22' :: rest) =
        some (cs.reverse ++ gap.close text, c') ∧ c'.rest = rest ∧ c'.line = c.line := by
  induction cs generalizing text gap c with
  | nil =>
    refine ⟨c.advance 1 rest, ?_, rfl, rfl⟩
    rw [List.flatMap_nil, List.nil_append, doubleFrom_cons (by decide) (by decide)]
    simp [show isBreak '\x22' = false from rfl, show isBlank '\x22' = false from rfl, atDocumentMark]
  | cons x more ih =>
    rw [List.flatMap_cons, List.append_assoc]
    obtain ⟨⟨text', gap', c₁⟩, scanned, after⟩ :=
      @doubleFrom_char text gap c x (more.flatMap escapeDouble ++ '\x22' :: rest) within column
    obtain ⟨c₂, scanned', place, line⟩ := ih after.within after.column
    refine ⟨c₂, ?_, place, line.trans after.line⟩
    rw [scanned, scanned', after.text]
    simp

end Double

end IsisTestbed.Yaml
