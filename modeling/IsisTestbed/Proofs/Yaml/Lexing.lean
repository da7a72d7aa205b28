import IsisTestbed.Proofs.Yaml.LiteralBlocks
import IsisTestbed.Yaml.Indentation

/-!
Tokens of text that was written in block style. `From` says which tokens come from a text if it
stands at a column inside of some block collections, whatever came before it. There is one rule for
each thing that a line can start or go on with.
-/

namespace IsisTestbed.Yaml

/-- Whether a character starts a token. -/
def startsToken (x : Char) : Bool :=
  !(isSpace x || x == '#' || x == '\ufeff')

section Starts

variable {column : Nat} {cs rest : List Char}

theorem IsBare.startsToken (bare : IsBare cs) (rest : List Char) :
    (cs ++ rest).head?.all Yaml.startsToken = true := by
  obtain ⟨x, more, rfl⟩ := List.exists_cons_of_ne_nil bare.start
  obtain ⟨inLine, printable⟩ := bare.line x List.mem_cons_self
  have order := ne_of_isPrintable (d := '\ufeff') printable rfl
  have number : x ≠ '#' := by
    rintro rfl
    exact Bool.false_ne_true bare.opening.symm
  simp [Yaml.startsToken, isSpace, bare.isBlank, inLine, order, number]

theorem Follows.startsToken (follows : Follows column rest) :
    rest.head?.all Yaml.startsToken = true := by
  cases rest with
  | nil => rfl
  | cons x more =>
    have tab := follows.ne (d := '\t') (by decide) rfl
    have order := follows.ne (d := '\ufeff') (by decide) rfl
    have space := follows.ne (d := ' ') (by decide) rfl
    have number := follows.ne (d := '#') (by decide) rfl
    simp [Yaml.startsToken, isSpace, isBlank, follows.isBreak, tab, order, space, number]

end Starts

namespace Lexing

/-- The tokens that are still to come. -/
def Yields (s : Lexing) (ts : List Token) : Prop :=
  ∀ bound, s.cursor.rest.length < bound → s.run bound = some (s.tokens.reverse ++ ts)

/-- A state in front of `rest`, outside of flow collections and without a candidate. -/
structure At (allowed : Bool) (indents : List Nat) (column : Nat) (rest : List Char)
    (s : Lexing) : Prop where
  place : s.cursor.rest = rest
  column : s.cursor.column = column
  indents : s.indents = indents
  outer : s.outer = []
  allowed : s.keyAllowed = allowed
  candidate : s.candidate = none

/-- The tokens that come from a text, given whether a candidate may start in front of it, the open
block collections and its column. -/
def From (allowed : Bool) (indents : List Nat) (column : Nat) (rest : List Char)
    (ts : List Token) : Prop :=
  ∀ s : Lexing, s.At allowed indents column rest → s.Yields ts

/-! ### Between tokens -/

section Between

variable {s t : Lexing} {ts : List Token} {inFlow allowed inComment : Bool} {indents : List Nat}
  {column : Nat} {c : Cursor} {x : Char} {cs rest : List Char}

theorem nextPlace_lineFeed :
    nextPlace inFlow allowed inComment c ('\n' :: rest) =
      nextPlace inFlow (allowed || !inFlow) false (c.newLine 1 rest) rest := by
  rw [nextPlace]
  · rfl
  · exact fun _ same _ => absurd same (by decide)

theorem nextPlace_space :
    nextPlace inFlow allowed false c (' ' :: rest) =
      nextPlace inFlow allowed false (c.advance 1 rest) rest := by
  rw [nextPlace]
  · rfl
  · exact fun _ same _ => absurd same (by decide)

theorem nextPlace_stop (place : c.rest = cs) (start : cs.head?.all startsToken = true) :
    nextPlace inFlow allowed false c cs = (c, allowed) := by
  subst place
  cases place : c.rest with
  | nil =>
    rw [nextPlace, ← place]
  | cons x rest =>
    have starts : startsToken x = true := by rwa [place] at start
    simp only [startsToken, Bool.not_eq_true', Bool.or_eq_false_iff, beq_eq_false_iff_ne, isSpace,
      isBlank] at starts
    obtain ⟨⟨⟨⟨space, tab⟩, inLine⟩, number⟩, order⟩ := starts
    rw [nextPlace, ← place]
    · simp [inLine, space, tab, number, order]
    · rintro _ rfl
      cases inLine

theorem line_le_nextPlace :
    c.line ≤ (nextPlace inFlow allowed inComment c cs).1.line := by
  fun_induction nextPlace inFlow allowed inComment c cs with
  | case1 => exact Nat.le_refl _
  | case2 _ _ c _ ih => exact Nat.le_trans (Nat.le_succ c.line) ih
  | case3 _ _ c _ _ _ _ ih => exact Nat.le_trans (Nat.le_succ c.line) ih
  | case4 _ _ _ _ _ _ _ _ ih => exact ih
  | case5 _ _ _ _ _ _ _ _ _ ih => exact ih
  | case6 => exact Nat.le_refl _

/-- States that stand in front of the same token yield the same ones. -/
theorem Yields.of_toNext (h : t.Yields ts) (same : s.toNext = t.toNext)
    (tokens : s.tokens = t.tokens) (longer : t.cursor.rest.length ≤ s.cursor.rest.length) :
    s.Yields ts := by
  intro bound enough
  obtain ⟨bound, rfl⟩ : ∃ b, bound = b + 1 := ⟨bound - 1, by omega⟩
  rw [tokens, ← h (bound + 1) (by omega), run, run, same]

/-- Spaces in front of a token do not matter. -/
theorem From.skipSpaces {n : Nat} (h : From allowed indents (column + n) rest ts) :
    From allowed indents column (spaces n ++ rest) ts := by
  induction n generalizing column with
  | zero => exact h
  | succ n ih =>
    intro s here
    have shape : s.cursor.rest = ' ' :: (spaces n ++ rest) := here.place
    have later : column + (n + 1) = column + 1 + n := by omega
    have next : (s.moveTo (s.cursor.advance 1 (spaces n ++ rest))).Yields ts := by
      apply ih (later ▸ h)
      exact ⟨rfl, congrArg (· + 1) here.column, here.indents, here.outer, here.allowed,
        here.candidate⟩
    apply next.of_toNext
    · simp only [toNext, shape, nextPlace_space]
      rfl
    · rfl
    · rw [shape]
      exact Nat.le_succ _

theorem From.skipSpace (h : From allowed indents (column + 1) rest ts) :
    From allowed indents column (' ' :: rest) ts :=
  @From.skipSpaces ts allowed indents column rest 1 h

/-- A candidate on an earlier line is given up. -/
theorem Yields.of_stale (h : From true indents column rest ts) (place : s.cursor.rest = rest)
    (here : s.cursor.column = column) (inside : s.indents = indents) (outer : s.outer = [])
    (allowed : s.keyAllowed = true)
    (stale : ∀ k ∈ s.candidate, k.required = false ∧ k.line < s.cursor.line) : s.Yields ts := by
  have next : ({ s with candidate := none } : Lexing).Yields ts :=
    h _ ⟨place, here, inside, outer, allowed, rfl⟩
  apply next.of_toNext
  · cases candidate : s.candidate with
    | none =>
      rw [← candidate]
    | some k =>
      obtain ⟨notRequired, line⟩ := stale k candidate
      have later := @line_le_nextPlace s.inFlow s.keyAllowed false s.cursor s.cursor.rest
      have dropped : refresh (nextPlace s.inFlow s.keyAllowed false s.cursor s.cursor.rest).1
          (some k) = some none := by
        have stale : isStale (nextPlace s.inFlow s.keyAllowed false s.cursor s.cursor.rest).1 k =
            true := by
          simp [isStale, Nat.lt_of_lt_of_le line later]
        simp [refresh, stale, notRequired]
      simp only [toNext, refreshCandidates, candidate, dropped]
      rfl
  · rfl
  · exact Nat.le_refl _

/-- A new line starts afresh. -/
theorem Yields.lineFeed (h : From true indents 0 rest ts) (place : s.cursor.rest = '\n' :: rest)
    (inside : s.indents = indents) (outer : s.outer = [])
    (candidate : ∀ k ∈ s.candidate, k.required = false ∧ k.line ≤ s.cursor.line) : s.Yields ts := by
  have next : ({ s with cursor := s.cursor.newLine 1 rest, keyAllowed := true } : Lexing).Yields ts :=
    of_stale h rfl rfl inside outer rfl fun k hk =>
      ⟨(candidate k hk).1, Nat.lt_succ_of_le (candidate k hk).2⟩
  apply next.of_toNext
  · have flow : s.inFlow = false := by simp [inFlow, outer]
    simp only [toNext, place, nextPlace_lineFeed, flow]
    simp [inFlow, outer, Cursor.newLine]
  · rfl
  · rw [place]
    exact Nat.le_succ _

theorem From.lineFeed (h : From true indents 0 rest ts) :
    From allowed indents column ('\n' :: rest) ts := by
  intro s here
  apply Yields.lineFeed h here.place here.indents here.outer
  rw [here.candidate]
  exact nofun

theorem closed_eq_zero {limit : Nat} (h : indents.head?.getD 0 ≤ limit) :
    closed limit indents = 0 := by
  cases indents with
  | nil => rfl
  | cons k more =>
    have right : ¬ limit < k := Nat.not_lt.mpr h
    simp [closed, right]

/-- Nothing happens in front of a token that is inside of the open collections. -/
theorem toNext_eq (start : s.cursor.rest.head?.all startsToken = true)
    (candidate : refresh s.cursor s.candidate = some s.candidate)
    (outer : s.outer.mapM (refresh s.cursor) = some s.outer)
    (inside : s.inFlow = true ∨ s.indents.head?.getD 0 ≤ s.cursor.column + 1) :
    s.toNext = some s := by
  have refreshed : s.refreshCandidates = some s := by
    simp [refreshCandidates, candidate, outer]
  have unrolled : s.unroll (s.cursor.column + 1) = s := by
    rcases inside with flow | inside
    · simp [unroll, flow]
    · simp [unroll, closed_eq_zero inside]
  simp only [toNext, nextPlace_stop rfl start]
  simp [refreshed, unrolled]

theorem run_eq {s' : Lexing} {bound : Nat} (ready : s.toNext = some s)
    (place : s.cursor.rest = x :: rest) (took : s.take x rest = some s') :
    s.run (bound + 1) = s'.run bound := by
  rw [run, ready]
  simp [place, took]

/-- The token that is taken comes before all others. -/
theorem Yields.of_take {s' : Lexing} {new : List Token} (h : s'.Yields ts)
    (ready : s.toNext = some s) (place : s.cursor.rest = x :: rest)
    (took : s.take x rest = some s') (shorter : s'.cursor.rest.length ≤ rest.length)
    (tokens : s'.tokens = new.reverse ++ s.tokens) : s.Yields (new ++ ts) := by
  intro bound enough
  rw [place, List.length_cons] at enough
  obtain ⟨bound, rfl⟩ : ∃ b, bound = b + 1 := ⟨bound - 1, by omega⟩
  rw [run_eq ready place took, h bound (by omega), tokens]
  simp

theorem Yields.cons {s' : Lexing} {t : Token} (h : s'.Yields ts) (ready : s.toNext = some s)
    (place : s.cursor.rest = x :: rest) (took : s.take x rest = some s')
    (shorter : s'.cursor.rest.length ≤ rest.length) (tokens : s'.tokens = t :: s.tokens) :
    s.Yields (t :: ts) :=
  @of_take s ts x rest s' [t] h ready place took shorter tokens

theorem At.ready (h : s.At allowed indents column rest)
    (start : rest.head?.all startsToken = true) (inside : indents.head?.getD 0 ≤ column + 1) :
    s.toNext = some s := by
  apply toNext_eq
  · rwa [h.place]
  · rw [h.candidate]
    rfl
  · rw [h.outer]
    rfl
  · rw [h.indents, h.column]
    exact .inr inside

end Between

/-! ### Block collections -/

/-- How a block collection is open at a column: it was before, or it starts there with its token. -/
inductive Opens (column : Nat) (t : Token) : List Nat → List Nat → List Token → Prop where
  | opened (indents : List Nat) : Opens column t ((column + 1) :: indents) ((column + 1) :: indents) []
  | fresh {indents : List Nat} (inside : indents.head?.getD 0 ≤ column) :
      Opens column t indents ((column + 1) :: indents) [t]

section Blocks

variable {s : Lexing} {t : Token} {ts opening : List Token} {allowed : Bool}
  {before after indents : List Nat} {column : Nat} {x : Char} {cs rest : List Char}

theorem Opens.inside (h : Opens column t before after opening) :
    before.head?.getD 0 ≤ column + 1 := by
  cases h with
  | opened => exact Nat.le_refl _
  | fresh inside => exact Nat.le_succ_of_le inside

theorem Opens.reverse (h : Opens column t before after opening) : opening.reverse = opening := by
  cases h with
  | opened => rfl
  | fresh _ => rfl

theorem roll_eq (h : Opens column t before after opening) (inside : s.indents = before)
    (outer : s.outer = []) (position : Nat) :
    s.roll column position t =
      { s with
        indents := after
        tokens := s.tokens.take (s.count - position) ++ (opening ++ s.tokens.drop (s.count - position))
        count := s.count + opening.length } := by
  have flow : s.inFlow = false := by simp [inFlow, outer]
  cases h with
  | opened indents =>
    have still : column + 1 ≤ s.indent := by simp [indent, inside]
    simp [roll, flow, still, ← inside]
  | fresh right =>
    have new : ¬ column + 1 ≤ s.indent := by
      rw [indent, inside]
      omega
    simp [roll, flow, new, emitAt, inside]

/-- A dash in front of an item. -/
theorem From.dash (opens : Opens column .blockSequenceStart before after opening)
    (h : From true after (column + 1) (' ' :: rest) ts) :
    From true before column ('-' :: ' ' :: rest) (opening ++ (.blockEntry :: ts)) := by
  intro s here
  have ready := here.ready rfl opens.inside
  let s' : Lexing :=
    { s with
      cursor := s.cursor.advance 1 (' ' :: rest)
      indents := after
      tokens := .blockEntry :: (opening ++ s.tokens)
      count := s.count + opening.length + 1
      keyAllowed := true }
  have taken : s.take '-' (' ' :: rest) = some s' := by
    have entry : s.blockEntry = some s' := by
      have rolled := roll_eq opens here.indents here.outer s.count
      rw [Nat.sub_self] at rolled
      simp [blockEntry, here.column, rolled, here.allowed, dropCandidate, here.candidate, takeMark, moveTo,
        emit, here.place, s']
    simp [take, atDocumentMark, atSpace, isSpace, isBlank, entry]
  have next : s'.Yields ts :=
    h _ ⟨rfl, congrArg (· + 1) here.column, rfl, here.outer, rfl, here.candidate⟩
  have all : s.Yields ((opening ++ [.blockEntry]) ++ ts) := by
    apply next.of_take ready here.place taken (Nat.le_refl _)
    simp [s', opens.reverse]
  rwa [List.append_assoc] at all

/-- A block collection ends at a line that starts further left. -/
theorem From.blockEnd {k : Nat} (h : From true indents column rest ts) (left : column + 1 < k)
    (start : rest.head?.all startsToken = true) :
    From true (k :: indents) column rest (.blockEnd :: ts) := by
  intro s here bound enough
  obtain ⟨bound, rfl⟩ : ∃ b, bound = b + 1 := ⟨bound - 1, by omega⟩
  let s' : Lexing :=
    { s with indents, tokens := .blockEnd :: s.tokens, count := s.count + 1 }
  have next := h s' ⟨here.place, here.column, rfl, here.outer, here.allowed, here.candidate⟩
    (bound + 1) enough
  have same : s.toNext = s'.toNext := by
    have start' : s.cursor.rest.head?.all startsToken = true := by rwa [here.place]
    have further : closed (s.cursor.column + 1) (k :: indents) =
        closed (s.cursor.column + 1) indents + 1 := by
      simp [closed, here.column, left]
    simp only [toNext, nextPlace_stop rfl start', s', refreshCandidates, here.candidate, here.outer,
      here.indents, unroll, inFlow]
    simp [refresh, further, List.replicate_succ', Nat.add_right_comm, ← Nat.add_assoc]
  rw [run, same]
  rw [run] at next
  rw [next]
  simp [s']

/-- At the end of the text, all block collections end. -/
theorem from_end (n : Nat) :
    From true (List.replicate n 1) 0 [] (List.replicate n .blockEnd) := by
  intro s here bound enough
  obtain ⟨bound, rfl⟩ : ∃ b, bound = b + 1 := ⟨bound - 1, by omega⟩
  have inside : (List.replicate n 1).head?.getD 0 ≤ 0 + 1 := by
    cases n with
    | zero => exact Nat.zero_le 1
    | succ n => exact Nat.le_refl 1
  have flow : s.inFlow = false := by simp [inFlow, here.outer]
  have all : closed 0 (List.replicate n 1) = n := by simp [closed]
  rw [run, here.ready rfl inside]
  simp [here.place, unroll, flow, here.indents, all, dropCandidate, here.candidate]

end Blocks

/-! ### Scalars -/

section Scalars

variable {s : Lexing} {ts : List Token} {allowed : Bool} {indents : List Nat} {column i j : Nat}
  {x : Char} {cs rest : List Char}

/-- The candidate that starts where the state is. -/
def started (s : Lexing) : Option Candidate :=
  if s.keyAllowed then
    some ⟨s.indent == s.cursor.column + 1, s.count, s.cursor.index, s.cursor.line, s.cursor.column⟩
  else none

theorem At.startCandidate (h : s.At allowed indents column rest) :
    s.startCandidate = some { s with candidate := s.started } := by
  by_cases on : s.keyAllowed = true
  · simp [Lexing.startCandidate, started, on, dropCandidate, h.candidate, inFlow, h.outer]
  · rw [Lexing.startCandidate, if_neg on, started, if_neg on, ← h.candidate]

/-- A candidate inside of a block collection is not required. -/
theorem At.started_required (h : s.At allowed indents column rest)
    (inside : indents.head?.getD 0 ≤ column) {k : Candidate} (hk : k ∈ s.started) :
    k.required = false ∧ k.line = s.cursor.line := by
  unfold started at hk
  split at hk
  · cases hk
    have apart : s.indent ≠ s.cursor.column + 1 := by
      rw [indent, h.indents, h.column]
      omega
    exact ⟨beq_false_of_ne apart, rfl⟩
  · cases hk

theorem startsPlain_bare (bare : IsBare (x :: cs)) (rest : List Char) :
    startsPlain false x (cs ++ rest) = true := by
  have noSpace : isSpace x = false := by
    rw [isSpace, bare.isBlank, (bare.line x List.mem_cons_self).1]
    rfl
  by_cases mark : x = '?' ∨ x = ':' ∨ x = '-'
  · have further := bare.atSpace_eq_false mark rest
    have noBlank : (cs ++ rest).head?.any isBlank = false := by
      cases inside : cs ++ rest with
      | nil => rfl
      | cons y ys =>
        rw [inside, atSpace, isSpace, Bool.or_eq_false_iff] at further
        exact further.1
    rcases mark with rfl | rfl | rfl <;> simp only [startsPlain, further, noBlank] <;> rfl
  · simp only [not_or] at mark
    have indicator : isIndicator x = isOpeningMark x := by
      simp [isIndicator, isOpeningMark, mark, or_left_comm]
    simp [startsPlain, noSpace, indicator, bare.opening]

/-- A bare text is taken as a plain scalar. -/
theorem take_bare (bare : IsBare (x :: cs)) (outer : s.outer = [])
    (mark : s.cursor.column = 0 → x.isLower = true) (rest : List Char) :
    s.take x (cs ++ rest) = s.plain := by
  have flow : s.inFlow = false := by simp [inFlow, outer]
  have opening := bare.opening
  have unmarked {d : Char} (h : isOpeningMark d = true) : (x == d) = false := by
    apply beq_false_of_ne
    rintro rfl
    exact Bool.false_ne_true (opening.symm.trans h)
  have separated {d : Char} (h : d = '?' ∨ d = ':' ∨ d = '-') :
      (x == d && atSpace (cs ++ rest)) = false := by
    by_cases same : x = d
    · rw [bare.atSpace_eq_false (same ▸ h), Bool.and_false]
    · simp [same]
  have atStart {d : Char} (h : d.isLower = false) : (s.cursor.column == 0 && x == d) = false := by
    by_cases start : s.cursor.column = 0
    · have other : x ≠ d := by
        rintro rfl
        exact Bool.false_ne_true (h.symm.trans (mark start))
      simp [other]
    · simp [start]
  simp only [take, atStart (d := '%') rfl, atStart (d := '-') rfl, atStart (d := '.') rfl,
    unmarked (d := '[') rfl, unmarked (d := ']') rfl, unmarked (d := '\x7b') rfl,
    unmarked (d := '\x7d') rfl, unmarked (d := ',') rfl, unmarked (d := '*') rfl,
    unmarked (d := '&') rfl, unmarked (d := '!') rfl, unmarked (d := '|') rfl,
    unmarked (d := '>') rfl, unmarked (d := '\x27') rfl, unmarked (d := '\x22') rfl,
    separated (d := '-') (.inr (.inr rfl)), separated (d := '?') (.inl rfl),
    separated (d := ':') (.inr (.inl rfl)), flow, Bool.false_or, Bool.false_and, Bool.false_eq_true,
    if_false]
  rw [if_pos (startsPlain_bare bare rest)]

/-- The state behind a scalar. -/
def behindScalar (s : Lexing) (style : Style) (cs : List Char) (c : Cursor) (ended : Bool)
    (candidate : Option Candidate) : Lexing :=
  { s with
    cursor := c
    candidate
    keyAllowed := ended
    tokens := .scalar style (String.ofList cs) :: s.tokens
    count := s.count + 1 }

theorem At.plain_eq (here : s.At allowed indents column rest) {c : Cursor} {ended : Bool}
    (scanned : plainFrom false s.indent [] {} false s.cursor s.cursor.rest =
      some (cs.reverse, c, ended)) :
    s.plain = some (s.behindScalar .plain cs c ended s.started) := by
  have flow : s.inFlow = false := by simp [inFlow, here.outer]
  simp only [plain, here.startCandidate, Option.bind_eq_bind, Option.bind_some]
  show (plainFrom s.inFlow s.indent [] {} false s.cursor s.cursor.rest).bind _ = _
  rw [flow, scanned]
  simp [moveTo, emit, behindScalar]

/-- A bare text on the rest of a line. -/
theorem From.bareLine (bare : IsBare cs) (inside : indents.head?.getD 0 ≤ column)
    (left : j < indents.head?.getD 0) (follows : Follows j rest) (h : From true indents j rest ts) :
    From allowed indents column (cs ++ '\n' :: (spaces j ++ rest))
      (.scalar .plain (String.ofList cs) :: ts) := by
  intro s here
  obtain ⟨x, more, rfl⟩ := List.exists_cons_of_ne_nil bare.start
  have indent : s.indent = indents.head?.getD 0 := congrArg (·.head?.getD 0) here.indents
  have positive : s.cursor.column ≠ 0 := by
    rw [here.column]
    omega
  obtain ⟨c, scanned, place, column', line⟩ := @plainFrom_line s.indent s.cursor (x :: more) rest j
    bare (by rw [indent, here.column]; omega) follows (by rwa [indent]) here.place
  rw [← here.place] at scanned
  have taken := take_bare bare here.outer (fun zero => absurd zero positive)
    ('\n' :: (spaces j ++ rest))
  rw [here.plain_eq scanned] at taken
  have next : (s.behindScalar .plain (x :: more) c true s.started).Yields ts := by
    apply Yields.of_stale h
    · exact place
    · exact column'
    · exact here.indents
    · exact here.outer
    · rfl
    · intro k hk
      obtain ⟨notRequired, lineK⟩ := here.started_required inside hk
      exact ⟨notRequired, lineK ▸ line⟩
  apply next.cons (here.ready (bare.startsToken _) (Nat.le_succ_of_le inside)) here.place taken
  · show c.rest.length ≤ (more ++ '\n' :: (spaces j ++ rest)).length
    rw [place]
    simp only [List.length_append, List.length_cons]
    omega
  · rfl

theorem At.quoted_eq {quote : Char} {inner : List Char} {c : Cursor} {double : Bool}
    (here : s.At allowed indents column (quote :: inner))
    (scanned : (if double then doubleFrom else singleFrom) [] {} (s.cursor.advance 1 inner) inner =
      some (cs.reverse, c)) :
    s.quoted double = some (s.behindScalar .quoted cs c false s.started) := by
  simp only [quoted, here.startCandidate, Option.bind_eq_bind, Option.bind_some, here.place,
    List.drop_one, List.tail_cons]
  cases double with
  | true =>
    rw [if_pos rfl] at scanned
    simp [scanned, moveTo, emit, behindScalar]
  | false =>
    rw [if_neg Bool.false_ne_true] at scanned
    simp [scanned, moveTo, emit, behindScalar]

/-- A quoted text at the end of a line, given how its inside is scanned. -/
theorem From.quotedLine {double : Bool} {inner : List Char} {quote : Char}
    (mark : quote = if double then '\x22' else '\x27')
    (scanned : ∀ c : Cursor, c.rest = inner → 0 < c.column →
      ∃ c', (if double then doubleFrom else singleFrom) [] {} c inner = some (cs.reverse, c') ∧
        c'.rest = '\n' :: rest ∧ c.line ≤ c'.line)
    (shorter : rest.length < inner.length)
    (inside : indents.head?.getD 0 ≤ column) (h : From true indents 0 rest ts) :
    From allowed indents column (quote :: inner) (.scalar .quoted (String.ofList cs) :: ts) := by
  intro s here
  obtain ⟨c, scanned, place, line⟩ := scanned (s.cursor.advance 1 inner) rfl (Nat.succ_pos _)
  have next : (s.behindScalar .quoted cs c false s.started).Yields ts := by
    apply Yields.lineFeed h
    · exact place
    · exact here.indents
    · exact here.outer
    · intro k hk
      obtain ⟨notRequired, lineK⟩ := here.started_required inside hk
      exact ⟨notRequired, lineK ▸ line⟩
  have taken : s.take quote inner = some (s.behindScalar .quoted cs c false s.started) := by
    rw [← here.quoted_eq scanned, mark]
    cases double with
    | true => simp [take]
    | false => simp [take]
  have start : (quote :: inner).head?.all startsToken = true := by
    rw [mark]
    cases double <;> rfl
  apply next.cons (here.ready start (Nat.le_succ_of_le inside)) here.place taken
  · show c.rest.length ≤ inner.length
    rw [place]
    exact shorter
  · rfl

/-- A literal block. -/
theorem From.literal (printable : ∀ d ∈ cs, isPrintable d = true) (nonempty : cs ≠ [])
    (parent : indents.head?.getD 0 = i + 1) (right : i < column) (left : j < i + 2)
    (follows : Follows j rest) (h : From true indents j rest ts) :
    From allowed indents column ('|' :: (literalHints cs ++ '\n' ::
      (literalLines (i + 2) true cs ++ (lastLineEnd cs ++ (spaces j ++ rest)))))
      (.scalar .literal (String.ofList cs) :: ts) := by
  intro s here
  have parent' : s.indents.head?.getD 0 = i + 1 := by rw [here.indents, parent]
  have flow : s.inFlow = false := by simp [inFlow, here.outer]
  obtain ⟨c, scanned, place, column'⟩ :=
    @blockScalar?_literal i (s.cursor.advance 1 _) cs rest j printable nonempty follows left rfl
  have taken : s.take '|' (literalHints cs ++ '\n' ::
      (literalLines (i + 2) true cs ++ (lastLineEnd cs ++ (spaces j ++ rest)))) =
        some (s.behindScalar .literal cs c true none) := by
    have block : s.blockScalar false = some (s.behindScalar .literal cs c true none) := by
      simp [blockScalar, dropCandidate, here.candidate, indent, parent', here.place, scanned, moveTo,
        emit, behindScalar]
    simp [take, flow, block]
  have next : (s.behindScalar .literal cs c true none).Yields ts :=
    h _ ⟨place, column', here.indents, here.outer, rfl, rfl⟩
  have inside : indents.head?.getD 0 ≤ column + 1 := by omega
  apply next.cons (here.ready rfl inside) here.place taken
  · show c.rest.length ≤ _
    rw [place]
    simp only [List.length_append, List.length_cons]
    omega
  · rfl

/-- The marks around the items of a flow collection, and their tokens. -/
inductive FlowMarks : Char → Char → Token → Token → Prop where
  | sequence : FlowMarks '[' ']' .flowSequenceStart .flowSequenceEnd
  | mapping : FlowMarks '\x7b' '\x7d' .flowMappingStart .flowMappingEnd

/-- The state behind the first mark of a flow collection. -/
def behindOpening (s : Lexing) (first : Token) (rest : List Char) : Lexing :=
  { s with
    cursor := s.cursor.advance 1 rest
    candidate := none
    outer := [s.started]
    keyAllowed := true
    tokens := first :: s.tokens
    count := s.count + 1 }

/-- The state behind the last mark of an empty flow collection. -/
def behindClosing (s : Lexing) (first last : Token) (rest : List Char) : Lexing :=
  { s with
    cursor := s.cursor.advance 2 rest
    candidate := s.started
    outer := []
    keyAllowed := false
    tokens := last :: first :: s.tokens
    count := s.count + 2 }

theorem refresh_started (s : Lexing) (rest : List Char) :
    refresh (s.cursor.advance 1 rest) s.started = some s.started := by
  unfold started
  split
  · simp [refresh, isStale, Cursor.advance]
  · rfl

section Flow

variable {opening closing : Char} {first last : Token}

theorem FlowMarks.starts (marks : FlowMarks opening closing first last) :
    startsToken opening = true ∧ startsToken closing = true := by
  cases marks <;> exact ⟨rfl, rfl⟩

theorem FlowMarks.take_opening (marks : FlowMarks opening closing first last)
    (here : s.At allowed indents column (opening :: rest)) :
    s.take opening rest = some (s.behindOpening first rest) := by
  have started := here.startCandidate
  cases marks <;>
    simp [take, openFlow, started, takeMark, moveTo, emit, here.place, here.outer, behindOpening]

theorem FlowMarks.take_closing (marks : FlowMarks opening closing first last) :
    (s.behindOpening first (closing :: rest)).take closing rest =
      some (s.behindClosing first last rest) := by
  cases marks <;>
    simp [take, closeFlow, dropCandidate, takeMark, moveTo, emit, behindOpening, behindClosing,
      Cursor.advance]

/-- An empty collection at the end of a line. -/
theorem From.emptyLine (marks : FlowMarks opening closing first last)
    (inside : indents.head?.getD 0 ≤ column) (h : From true indents 0 rest ts) :
    From allowed indents column (opening :: closing :: '\n' :: rest) (first :: last :: ts) := by
  intro s here
  have next : (s.behindClosing first last ('\n' :: rest)).Yields ts := by
    apply Yields.lineFeed h
    · rfl
    · exact here.indents
    · rfl
    · intro k hk
      obtain ⟨notRequired, lineK⟩ := here.started_required inside hk
      exact ⟨notRequired, Nat.le_of_eq lineK⟩
  have inner : (s.behindOpening first (closing :: '\n' :: rest)).Yields (last :: ts) := by
    have ready : (s.behindOpening first (closing :: '\n' :: rest)).toNext =
        some (s.behindOpening first (closing :: '\n' :: rest)) := by
      apply toNext_eq
      · exact marks.starts.2
      · rfl
      · simp [behindOpening, refresh_started]
      · exact .inl rfl
    exact next.cons ready rfl marks.take_closing (Nat.le_refl _) rfl
  have ready := here.ready marks.starts.1 (Nat.le_succ_of_le inside)
  exact inner.cons ready here.place (marks.take_opening here) (Nat.le_refl _) rfl

end Flow

end Scalars

/-! ### Keys -/

section Keys

variable {s : Lexing} {ts opening : List Token} {before after : List Nat} {column : Nat}
  {x : Char} {cs rest : List Char}

theorem octets_le (cs : List Char) : octets cs ≤ 4 * cs.length := by
  induction cs with
  | nil => exact Nat.le_refl 0
  | cons x more ih =>
    have size := x.utf8Size_le_four
    simp only [octets, List.length_cons]
    omega

/-- The state behind the colon of a key. -/
def behindColon (s : Lexing) (after : List Nat) (opening : List Token) (cs rest : List Char) :
    Lexing :=
  { s with
    cursor := (s.cursor.past cs (':' :: rest)).advance 1 rest
    indents := after
    candidate := none
    keyAllowed := false
    tokens := .value :: .scalar .plain (String.ofList cs) :: .key :: (opening ++ s.tokens)
    count := s.count + opening.length + 3 }

/-- At the colon, the scalar before it turns out to be a key. -/
theorem value_behindScalar (here : s.At true before column (cs ++ ':' :: rest))
    (opens : Opens column .blockMappingStart before after opening) :
    (s.behindScalar .plain cs (s.cursor.past cs (':' :: rest)) false s.started).value =
      some (s.behindColon after opening cs rest) := by
  obtain ⟨k, candidate, position, place⟩ :
      ∃ k, s.started = some k ∧ k.position = s.count ∧ k.column = column :=
    ⟨_, if_pos here.allowed, rfl, here.column⟩
  have rolled := roll_eq (s := (s.behindScalar .plain cs (s.cursor.past cs (':' :: rest)) false
    (some k)).emitAt s.count .key) opens here.indents here.outer s.count
  rw [candidate, value]
  simp only [show (s.behindScalar .plain cs (s.cursor.past cs (':' :: rest)) false (some k)).candidate =
    some k from rfl, position, place]
  rw [rolled]
  have two : s.count + 1 + 1 - s.count = 2 := by omega
  simp [behindScalar, emitAt, takeMark, moveTo, emit, behindColon, Cursor.past, two]
  omega

/-- A bare word in front of a colon is a key. -/
theorem From.key (bare : IsBare cs) (start : cs.head?.any Char.isLower = true) (short : cs.length ≤ 256)
    (opens : Opens column .blockMappingStart before after opening) (separated : atSpace rest = true)
    (h : From false after (column + cs.length + 1) rest ts) :
    From true before column (cs ++ ':' :: rest)
      (opening ++ (.key :: .scalar .plain (String.ofList cs) :: .value :: ts)) := by
  intro s here bound enough
  obtain ⟨x, more, rfl⟩ := List.exists_cons_of_ne_nil bare.start
  have indent : s.indent ≤ s.cursor.column + 1 := by
    rw [Lexing.indent, here.indents, here.column]
    exact opens.inside
  have scanned := plainFrom_colon bare indent here.place separated
  rw [← here.place] at scanned
  have named := take_bare bare here.outer (fun _ => start) (':' :: rest)
  rw [here.plain_eq scanned] at named
  let s₁ := s.behindScalar .plain (x :: more) (s.cursor.past (x :: more) (':' :: rest)) false s.started
  have ready : s₁.toNext = some s₁ := by
    apply toNext_eq
    · rfl
    · show refresh (s.cursor.past (x :: more) (':' :: rest)) s.started = some s.started
      have near : s.cursor.index + octets (x :: more) ≤ s.cursor.index + 1024 := by
        have := octets_le (x :: more)
        omega
      unfold started
      split
      · simp [refresh, isStale, Cursor.past, Nat.not_lt.mpr near]
      · rfl
    · show s.outer.mapM _ = some s.outer
      rw [here.outer]
      rfl
    · right
      show s.indents.head?.getD 0 ≤ s.cursor.column + (x :: more).length + 1
      exact Nat.le_trans indent (by omega)
  have keyed : s₁.take ':' rest = some (s.behindColon after opening (x :: more) rest) := by
    have value : s₁.take ':' rest = s₁.value := by
      simp [take, separated]
    rw [value]
    exact value_behindScalar here opens
  have next : (s.behindColon after opening (x :: more) rest).Yields ts :=
    h _ ⟨rfl, congrArg (· + (x :: more).length + 1) here.column, rfl, here.outer, rfl, rfl⟩
  rw [here.place] at enough
  simp only [List.length_append, List.length_cons] at enough
  obtain ⟨bound, rfl⟩ : ∃ b, bound = b + 2 := ⟨bound - 2, by omega⟩
  rw [run_eq (here.ready (bare.startsToken _) opens.inside) here.place named]
  show s₁.run (bound + 1) = _
  rw [run_eq ready rfl keyed, next bound (by show rest.length < bound; omega)]
  simp [behindColon, opens.reverse]

end Keys

end Lexing

end IsisTestbed.Yaml
