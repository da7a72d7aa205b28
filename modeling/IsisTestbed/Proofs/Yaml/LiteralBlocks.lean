import IsisTestbed.Proofs.Yaml.Scanning

/-!
Literal blocks as they are scanned. The hints behind the mark of a block tell its indentation and
what happens to its last line ends just so that the text inside is read as it was written.
-/

namespace IsisTestbed.Yaml

/-- What a block holds of a text that has been read, in reverse. Its empty lines are apart only
where more than one line has ended. -/
structure Block.Holds (b : Block) (done : List Char) : Prop where
  all : b.emptyLines ++ (b.lineEnd.toList ++ b.text) = done
  inLine : ∀ {x more}, done = x :: more → isBreak x = false → b.emptyLines = [] ∧ b.lineEnd = none
  lineEnded : ∀ {x d more}, done = x :: d :: more → isBreak d = false → b.emptyLines = []

/-- Where the reading of a literal block stands behind a line end or another character. -/
def literalMode (indent : Nat) (afterBreak : Bool) : BlockMode :=
  if afterBreak then .margin indent else .line indent

/-- What happens to the line ends at the end of a literal block. -/
def literalChomp (cs : List Char) : Chomp :=
  match cs.reverse with
  | [] => .strip
  | [x] => if isBreak x then .keep else .strip
  | x :: d :: _ => if isBreak x then (if isBreak d then .keep else .clip) else .strip

namespace Block.Holds

variable {b : Block} {x : Char} {cs done : List Char}

theorem exists_cons (h : b.Holds done) (mode : done.head?.all isBreak = false) :
    b.emptyLines = [] ∧ b.lineEnd = none ∧ b.text = done := by
  cases done with
  | nil => cases mode
  | cons y more =>
    have all := h.all
    obtain ⟨noEmptyLines, noLineEnd⟩ := h.inLine rfl mode
    rw [noEmptyLines, noLineEnd] at all
    exact ⟨noEmptyLines, noLineEnd, all⟩

theorem emptyLine (h : b.Holds done) (hx : isBreak x = true) (mode : done.head?.all isBreak = true) :
    { b with emptyLines := x :: b.emptyLines : Block }.Holds (x :: done) where
  all := congrArg (x :: ·) h.all
  inLine := by
    rintro _ _ ⟨⟩ line
    exact absurd (hx.symm.trans line) (by decide)
  lineEnded := by
    rintro _ d _ ⟨⟩ line
    exact absurd (mode.symm.trans line) (by decide)

theorem endLine (h : b.Holds done) (hx : isBreak x = true)
    (mode : done.head?.all isBreak = false) :
    { b with lineEnd := some x : Block }.Holds (x :: done) where
  all := by
    obtain ⟨noEmptyLines, _, text⟩ := h.exists_cons mode
    simp [noEmptyLines, text]
  inLine := by
    rintro _ _ ⟨⟩ line
    exact absurd (hx.symm.trans line) (by decide)
  lineEnded _ _ := (h.exists_cons mode).1

theorem startLine (h : b.Holds done) (blankStart : Bool) :
    { b.startLine false blankStart with
      text := x :: (b.startLine false blankStart).text : Block }.Holds (x :: done) where
  all := by
    have all := h.all
    simpa [Block.startLine] using all
  inLine _ _ := ⟨rfl, rfl⟩
  lineEnded _ _ := rfl

theorem goOn (h : b.Holds done) (mode : done.head?.all isBreak = false) :
    { b with text := x :: b.text : Block }.Holds (x :: done) where
  all := by
    obtain ⟨noEmptyLines, noLineEnd, text⟩ := h.exists_cons mode
    simp [noEmptyLines, noLineEnd, text]
  inLine _ _ := ⟨(h.exists_cons mode).1, (h.exists_cons mode).2.1⟩
  lineEnded _ _ := (h.exists_cons mode).1

/-- A text that ends in a line end is the whole block. -/
theorem finish_of_isBreak (h : b.Holds cs.reverse) (mode : cs.reverse.head?.all isBreak = true)
    (nonempty : cs ≠ []) : b.finish (literalChomp cs) = cs := by
  have all := h.all
  have reverse : cs.reverse.reverse = cs := List.reverse_reverse cs
  unfold literalChomp
  split
  · next none => exact absurd (List.reverse_eq_nil_iff.mp none) nonempty
  · next x one =>
    have isBreak : isBreak x = true := by rwa [one] at mode
    rw [if_pos isBreak]
    simp [Block.finish, all]
  · next x d more several =>
    have isBreakX : isBreak x = true := by rwa [several] at mode
    rw [if_pos isBreakX]
    split
    · simp [Block.finish, all]
    · next line =>
      have noEmptyLines := h.lineEnded several (Bool.eq_false_iff.mpr line)
      rw [noEmptyLines] at all
      simp only [List.nil_append] at all
      simp [Block.finish, all]

/-- A line end behind the last line is no text. -/
theorem finish_of_line (h : b.Holds cs.reverse) (mode : cs.reverse.head?.all isBreak = false)
    (lineEnd : Option Char) : { b with lineEnd }.finish (literalChomp cs) = cs := by
  obtain ⟨noEmptyLines, noLineEnd, text⟩ := h.exists_cons mode
  have strip : literalChomp cs = .strip := by
    unfold literalChomp
    split
    · rfl
    · next x one =>
      have line : isBreak x = false := by rwa [one] at mode
      rw [if_neg (Bool.eq_false_iff.mp line)]
    · next x d more several =>
      have line : isBreak x = false := by rwa [several] at mode
      rw [if_neg (Bool.eq_false_iff.mp line)]
  rw [strip]
  simp [Block.finish, text]

end Block.Holds

section Literal

variable {indent least : Nat} {b : Block} {c : Cursor} {x : Char} {cs done rest : List Char}

theorem blockFrom_line (return_ : x ≠ '\r') :
    blockFrom false least b (.line indent) c (x :: rest) =
      if isBreak x then
        blockFrom false least { b with lineEnd := some (normalBreak x) } (.margin indent)
          (c.newLine x.utf8Size rest) rest
      else
        blockFrom false least { b with text := x :: b.text } (.line indent) (c.step x rest) rest := by
  rw [blockFrom]
  exact fun _ same _ => return_ same

theorem blockFrom_margin (return_ : x ≠ '\r') (tab : x ≠ '\t') :
    blockFrom false least b (.margin indent) c (x :: rest) =
      if x == ' ' && c.column < indent then
        blockFrom false least b (.margin indent) (c.advance 1 rest) rest
      else if isBreak x then
        blockFrom false least { b with emptyLines := normalBreak x :: b.emptyLines }
          (.margin indent) (c.newLine x.utf8Size rest) rest
      else if c.column == indent then
        blockFrom false least { b.startLine false (isBlank x) with
          text := x :: (b.startLine false (isBlank x)).text } (.line indent) (c.step x rest) rest
      else some (b, { c with rest := x :: rest }) := by
  rw [blockFrom]
  · simp [tab]
  · exact fun _ same _ => return_ same

/-- The spaces that indent a line are no text. -/
theorem blockFrom_spaces {n : Nat} (column : c.column + n ≤ indent)
    (place : c.rest = spaces n ++ rest) :
    blockFrom false least b (.margin indent) c (spaces n ++ rest) =
      blockFrom false least b (.margin indent) (c.past (spaces n) rest) rest := by
  induction n generalizing c with
  | zero =>
    have same : c.past (spaces 0) rest = c := Cursor.past_nil place
    rw [same]
    rfl
  | succ n ih =>
    have left : c.column < indent := by omega
    have shape : spaces (n + 1) ++ rest = ' ' :: (spaces n ++ rest) := rfl
    rw [shape, blockFrom_margin (by decide) (by decide), show spaces (n + 1) = ' ' :: spaces n from rfl,
      Cursor.past_space]
    simp only [left, decide_true, BEq.rfl, Bool.and_self, if_true]
    apply ih
    · simp only [Cursor.advance]
      omega
    · rfl

/-- A literal block ends at a line that starts further left. -/
theorem blockFrom_follows {m : Nat} (left : c.column + m < indent)
    (follows : Follows (c.column + m) rest) (place : c.rest = spaces m ++ rest) :
    blockFrom false least b (.margin indent) c (spaces m ++ rest) =
      some (b, c.past (spaces m) rest) := by
  rw [blockFrom_spaces (Nat.le_of_lt left) place]
  cases rest with
  | nil =>
    rw [blockFrom]
    rfl
  | cons x more =>
    have column : (c.past (spaces m) (x :: more)).column = c.column + m := by
      simp [Cursor.past, spaces]
    have return_ := follows.ne (d := '\r') (by decide) rfl
    have tab := follows.ne (d := '\t') (by decide) rfl
    have space := follows.ne (d := ' ') (by decide) rfl
    have other : (c.column + m == indent) = false := beq_false_of_ne (Nat.ne_of_lt left)
    rw [blockFrom_margin return_ tab, column, follows.isBreak, other]
    simp [space, Cursor.past, spaces]

/-- The indentation of the first line is that of the block. -/
theorem blockFrom_first {n : Nat} {widest : Nat} (wide : widest ≤ c.column + n)
    (column : least ≤ c.column + n) (inLine : isBreak x = false) (space : x ≠ ' ') (tab : x ≠ '\t')
    (place : c.rest = spaces n ++ x :: rest) :
    blockFrom false least b (.first widest) c (spaces n ++ x :: rest) =
      blockFrom false least b (.margin (c.column + n)) c (spaces n ++ x :: rest) := by
  have return_ : x ≠ '\r' := by
    rintro rfl
    cases inLine
  rw [blockFrom_spaces (Nat.le_refl _) place]
  induction n generalizing c with
  | zero =>
    have same : c.past (spaces 0) (x :: rest) = c := Cursor.past_nil place
    have blank : isBlank x = false := by simp [isBlank, space, tab]
    have most : max (max widest c.column) least = c.column := by omega
    rw [same, blockFrom_margin return_ tab]
    show blockFrom false least b (.first widest) c (x :: rest) = _
    rw [blockFrom]
    · simp [inLine, space, tab, most, blank]
    · exact fun _ same _ => return_ same
  | succ n ih =>
    have shape : spaces (n + 1) ++ x :: rest = ' ' :: (spaces n ++ x :: rest) := rfl
    have later : (c.advance 1 (spaces n ++ x :: rest)).column + n = c.column + (n + 1) := by
      simp only [Cursor.advance]
      omega
    rw [shape, blockFrom, show spaces (n + 1) = ' ' :: spaces n from rfl, Cursor.past_space, ← later]
    · simp only [BEq.rfl, if_true]
      apply ih
      · rwa [later]
      · rwa [later]
      · rfl
    · exact fun _ same _ => absurd same (by decide)

/-- The lines of a literal block are read as they are. The induction is on the characters that are
left. -/
theorem blockFrom_literalLines {afterBreak : Bool} (printable : ∀ d ∈ cs, isPrintable d = true)
    (holds : b.Holds done) (mode : done.head?.all isBreak = afterBreak)
    (column : afterBreak = true → c.column = 0)
    (place : c.rest = literalLines indent afterBreak cs ++ rest) :
    ∃ b' c' ended, blockFrom false least b (literalMode indent afterBreak) c
        (literalLines indent afterBreak cs ++ rest) =
          blockFrom false least b' (literalMode indent ended) c' rest ∧
      b'.Holds (cs.reverse ++ done) ∧ (cs.reverse ++ done).head?.all isBreak = ended ∧
      (ended = true → c'.column = 0) ∧ c'.rest = rest := by
  induction cs generalizing b c done afterBreak with
  | nil => exact ⟨b, c, afterBreak, rfl, holds, mode, column, place⟩
  | cons x more ih =>
    have printableX := printable x List.mem_cons_self
    have later : ∀ d ∈ more, isPrintable d = true :=
      fun d hd => printable d (List.mem_cons_of_mem x hd)
    have return_ := ne_of_isPrintable (d := '\r') printableX rfl
    have tab := ne_of_isPrintable (d := '\t') printableX rfl
    have order : (x :: more).reverse ++ done = more.reverse ++ (x :: done) := by simp
    rw [order]
    cases isBreakX : isBreak x with
    | true =>
      have normal := normalBreak_of_isPrintable printableX isBreakX
      have shape : literalLines indent afterBreak (x :: more) ++ rest =
          x :: (literalLines indent true more ++ rest) := by
        simp [literalLines, isBreakX]
      rw [shape]
      cases afterBreak with
      | true =>
        have space : x ≠ ' ' := by
          rintro rfl
          cases isBreakX
        rw [literalMode, if_pos rfl, blockFrom_margin return_ tab, isBreakX, normal]
        simp only [space, beq_iff_eq, Bool.and_eq_true, false_and, if_false, if_true]
        exact ih later (holds.emptyLine isBreakX mode) isBreakX (fun _ => rfl) rfl
      | false =>
        rw [literalMode, if_neg Bool.false_ne_true, blockFrom_line return_, isBreakX, normal, if_pos rfl]
        exact ih later (holds.endLine isBreakX mode) isBreakX (fun _ => rfl) rfl
    | false =>
      cases afterBreak with
      | true =>
        have shape : literalLines indent true (x :: more) ++ rest =
            spaces indent ++ x :: (literalLines indent false more ++ rest) := by
          simp [literalLines, isBreakX]
        have start := column rfl
        rw [shape] at place ⊢
        have here : (c.past (spaces indent) (x :: (literalLines indent false more ++ rest))).column =
            indent := by
          simp [Cursor.past, spaces, start]
        rw [literalMode, if_pos rfl, blockFrom_spaces (by omega) place,
          blockFrom_margin return_ tab, here, isBreakX]
        simp only [Nat.lt_irrefl, decide_false, Bool.and_false, Bool.false_eq_true, if_false,
          BEq.rfl, if_true]
        exact ih later (holds.startLine _) isBreakX (by intro h; cases h) rfl
      | false =>
        have shape : literalLines indent false (x :: more) ++ rest =
            x :: (literalLines indent false more ++ rest) := by
          simp [literalLines, isBreakX]
        rw [shape, literalMode, if_neg Bool.false_ne_true, blockFrom_line return_, isBreakX,
          if_neg Bool.false_ne_true]
        exact ih later (holds.goOn mode) isBreakX (by intro h; cases h) rfl

theorem blockHeader?_literalHints (cs more : List Char) :
    blockHeader? (literalHints cs ++ '\n' :: more) =
      some (if cs.head?.any fun x => x == ' ' || isBreak x then some 2 else none, literalChomp cs,
        '\n' :: more) := by
  have clip : blockHeader? ('\n' :: more) = some (none, .clip, '\n' :: more) := by
    cases more <;> rfl
  unfold literalHints literalChomp
  split <;> cases cs.reverse with
    | nil => rfl
    | cons x before =>
      cases before with
      | nil => cases isBreakX : isBreak x <;> simp [isBreakX] <;> rfl
      | cons d more =>
        cases isBreakX : isBreak x <;> cases isBreakD : isBreak d <;> simp [isBreakX, isBreakD, clip] <;>
          rfl

/-- What ends the last line of a text, unless it has ended already. -/
def lastLineEnd (cs : List Char) : List Char :=
  if cs.getLast?.any isBreak then [] else ['\n']

theorem endLine_eq (cs : List Char) : endLine cs = cs ++ lastLineEnd cs := by
  unfold endLine lastLineEnd
  split <;> simp

theorem lastLineEnd_append {cs ds : List Char} (h : ds ≠ []) :
    lastLineEnd (cs ++ ds) = lastLineEnd ds := by
  obtain ⟨d, more, rfl⟩ := List.exists_cons_of_ne_nil h
  rw [lastLineEnd, List.getLast?_append, List.getLast?_cons, Option.some_or, lastLineEnd,
    List.getLast?_cons]

theorem getLast?_literalLines (afterBreak : Bool) :
    (literalLines indent afterBreak cs).getLast? = cs.getLast? := by
  induction cs generalizing afterBreak with
  | nil => rfl
  | cons x more ih =>
    rw [List.getLast?_cons]
    cases isBreakX : isBreak x with
    | true => rw [literalLines, if_pos isBreakX, List.getLast?_cons, ih]
    | false =>
      rw [literalLines, if_neg (Bool.eq_false_iff.mp isBreakX), List.getLast?_append,
        List.getLast?_cons, Option.some_or, ih]

theorem Cursor.skipBlanks_lineFeed (place : c.rest = '\n' :: rest) :
    c.skipBlanks.skipComment = c := by
  have span : c.rest.span isBlank = ([], c.rest) := by
    rw [place]
    rfl
  have blanks : c.skipBlanks = c := by
    rw [Cursor.skipBlanks, Cursor.takeWhile, span]
    rfl
  rw [blanks, Cursor.skipComment, place]
  rfl

/-- The lines of a literal block have the indentation of the block, whether it is given or not. -/
theorem blockFrom_start (printable : ∀ d ∈ cs, isPrintable d = true) (nonempty : cs ≠ [])
    (start : c.column = 0) (place : c.rest = literalLines (indent + 2) true cs ++ rest) :
    blockFrom false (max (indent + 1) 1) {}
        (match if cs.head?.any fun x => x == ' ' || isBreak x then some 2 else none with
          | some n => .margin (if indent + 1 = 0 then n else indent + 1 - 1 + n)
          | none => .first 0) c c.rest =
      blockFrom false (indent + 1) {} (.margin (indent + 2)) c c.rest := by
  obtain ⟨x, more, rfl⟩ := List.exists_cons_of_ne_nil nonempty
  have least : max (indent + 1) 1 = indent + 1 := by omega
  rw [least]
  cases hints : (x :: more).head?.any fun x => x == ' ' || isBreak x with
  | true => rfl
  | false =>
    simp only [List.head?_cons, Option.any_some, Bool.or_eq_false_iff, beq_eq_false_iff_ne] at hints
    have tab := ne_of_isPrintable (d := '\t') (printable x List.mem_cons_self) rfl
    have shape : literalLines (indent + 2) true (x :: more) ++ rest =
        spaces (indent + 2) ++ x :: (literalLines (indent + 2) false more ++ rest) := by
      simp [literalLines, hints.2]
    have column : c.column + (indent + 2) = indent + 2 := by omega
    rw [shape] at place
    rw [place]
    refine (blockFrom_first ?_ ?_ hints.2 hints.1 tab place).trans ?_
    · omega
    · omega
    · rw [column]

theorem blockScalar?_header (printable : ∀ d ∈ cs, isPrintable d = true) (nonempty : cs ≠ [])
    (place : c.rest = literalHints cs ++ '\n' :: (literalLines (indent + 2) true cs ++ rest)) :
    ∃ c₁ : Cursor, c₁.rest = literalLines (indent + 2) true cs ++ rest ∧ c₁.column = 0 ∧
      blockScalar? false (indent + 1) c =
        (blockFrom false (indent + 1) {} (.margin (indent + 2)) c₁ c₁.rest).map fun read =>
          (read.1.finish (literalChomp cs), read.2) := by
  have header : blockHeader? c.rest = some
      (if cs.head?.any fun x => x == ' ' || isBreak x then some 2 else none, literalChomp cs,
        '\n' :: (literalLines (indent + 2) true cs ++ rest)) := by
    rw [place, blockHeader?_literalHints]
  obtain ⟨c₀, here⟩ : ∃ c₀, c.advance (c.rest.length -
      ('\n' :: (literalLines (indent + 2) true cs ++ rest)).length)
        ('\n' :: (literalLines (indent + 2) true cs ++ rest)) = c₀ := ⟨_, rfl⟩
  have place₀ : c₀.rest = '\n' :: (literalLines (indent + 2) true cs ++ rest) := by
    rw [← here]
    rfl
  obtain ⟨c₁, lineEnd⟩ : ∃ c₁, c₀.newLine 1 (literalLines (indent + 2) true cs ++ rest) = c₁ :=
    ⟨_, rfl⟩
  have place₁ : c₁.rest = literalLines (indent + 2) true cs ++ rest := by
    rw [← lineEnd]
    rfl
  have start : c₁.column = 0 := by
    rw [← lineEnd]
    rfl
  have skip : c₀.skipLineEnd = c₁ := by
    rw [Cursor.skipLineEnd, place₀, ← lineEnd]
    rfl
  refine ⟨c₁, place₁, start, ?_⟩
  unfold blockScalar?
  simp only [header, Option.bind_eq_bind, Option.bind_some, here, Cursor.skipBlanks_lineFeed place₀,
    skip]
  simp only [place₀, List.head?_cons, Option.all_some, show isBreak '\n' = true from rfl,
    Bool.not_true, Bool.false_eq_true, if_false, Option.map_eq_bind]
  exact congrArg (Option.bind · fun read => some (read.1.finish (literalChomp cs), read.2))
    (blockFrom_start printable nonempty start place₁)

/-- A literal block is read as the text that was written, up to the line that follows. -/
theorem blockScalar?_literal {column : Nat} (printable : ∀ d ∈ cs, isPrintable d = true)
    (nonempty : cs ≠ []) (follows : Follows column rest) (left : column < indent + 2)
    (place : c.rest = literalHints cs ++ '\n' :: (literalLines (indent + 2) true cs ++
      (lastLineEnd cs ++ (spaces column ++ rest)))) :
    ∃ c', blockScalar? false (indent + 1) c = some (cs, c') ∧ c'.rest = rest ∧
      c'.column = column := by
  obtain ⟨c₁, place₁, start, header⟩ := blockScalar?_header printable nonempty place
  have initial : Block.Holds {} [] := ⟨rfl, nofun, nofun⟩
  obtain ⟨b, c₂, ended, lines, holds, mode, column₂, place₂⟩ :=
    @blockFrom_literalLines (indent + 2) (indent + 1) {} c₁ cs [] _ true printable initial rfl
      (fun _ => start) place₁
  rw [List.append_nil] at holds mode
  have last : cs.getLast?.any isBreak = ended := by
    cases reverse : cs.reverse with
    | nil => exact absurd (List.reverse_eq_nil_iff.mp reverse) nonempty
    | cons x more =>
      rw [reverse] at mode
      rw [List.getLast?_eq_head?_reverse, reverse]
      exact mode
  rw [header, place₁, show BlockMode.margin (indent + 2) = literalMode (indent + 2) true from rfl, lines]
  cases ended with
  | true =>
    have noLineEnd : lastLineEnd cs = [] := by rw [lastLineEnd, last, if_pos rfl]
    have here : c₂.column + column = column := by rw [column₂ rfl, Nat.zero_add]
    rw [noLineEnd, List.nil_append] at place₂ ⊢
    refine ⟨c₂.past (spaces column) rest, ?_, rfl, ?_⟩
    · rw [literalMode, if_pos rfl, blockFrom_follows (by rwa [here]) (by rwa [here]) place₂]
      simp [holds.finish_of_isBreak mode nonempty]
    · simp [Cursor.past, spaces, here]
  | false =>
    have lineEnd : lastLineEnd cs = ['\n'] := by rw [lastLineEnd, last, if_neg Bool.false_ne_true]
    rw [lineEnd] at place₂ ⊢
    refine ⟨(c₂.newLine 1 (spaces column ++ rest)).past (spaces column) rest, ?_, rfl, ?_⟩
    · show (blockFrom false (indent + 1) b (.line (indent + 2)) c₂
        ('\n' :: (spaces column ++ rest))).map _ = _
      have here {n : Nat} : (c₂.newLine n (spaces column ++ rest)).column + column = column :=
        Nat.zero_add column
      rw [blockFrom_line (by decide), show isBreak '\n' = true from rfl, if_pos rfl]
      refine (congrArg (Option.map _) (blockFrom_follows ?_ ?_ rfl)).trans ?_
      · rwa [here]
      · rwa [here]
      · rw [Option.map_some, holds.finish_of_line mode]
        rfl
    · simp [Cursor.past, Cursor.newLine, spaces]

end Literal

end IsisTestbed.Yaml
