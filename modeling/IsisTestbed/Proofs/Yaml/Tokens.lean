import IsisTestbed.Proofs.Yaml.Characters
import IsisTestbed.Proofs.Yaml.Lexing
import IsisTestbed.Yaml.Node

/-!
Rendered values as tokens. The text of a plain value is split into the tokens of the value, at every
indentation and whatever follows it.
-/

namespace IsisTestbed.Yaml

/-! ### The tokens of a value -/

/-- How a text is written in one of the forms. -/
def Form.style : Form → Style
  | .plain => .plain
  | .single => .quoted
  | .double => .quoted
  | .literal => .literal

mutual

/-- The tokens of a value. A sequence that is flush with its key has no tokens for its start and
end. -/
def valueTokens (flush : Bool) : Value → List Token
  | .null => [.scalar .plain "null"]
  | .bool b => [.scalar .plain (if b then "true" else "false")]
  | .nat n => [.scalar .plain (Text.number n)]
  | .float x => [.scalar .plain (String.ofList (Decimal.text floatStyle x))]
  | .text s => [.scalar (formOf s).style s]
  | .list [] => [.flowSequenceStart, .flowSequenceEnd]
  | .list (v :: items) =>
      if flush then itemTokens (v :: items)
      else .blockSequenceStart :: (itemTokens (v :: items) ++ [.blockEnd])
  | .record [] => [.flowMappingStart, .flowMappingEnd]
  | .record (f :: fields) => .blockMappingStart :: (fieldTokens (f :: fields) ++ [.blockEnd])

/-- The tokens of the items of a sequence. -/
def itemTokens : List Value → List Token
  | [] => []
  | v :: rest => .blockEntry :: (valueTokens false v ++ itemTokens rest)

/-- The tokens of the fields of a record. -/
def fieldTokens : List (String × Value) → List Token
  | [] => []
  | (name, v) :: rest =>
      .key :: .scalar .plain name :: .value :: (valueTokens true v ++ fieldTokens rest)

end

/-! ### Values on one line -/

open Lexing (From Opens)

section Inline

variable {allowed : Bool} {outer : List Nat} {i j column : Nat} {rest : List Char} {ts : List Token}

/-- Text that may depend on the indentation of what it stands in, and that ends its line as some
tokens. -/
def EndsLine (text : Nat → List Char) (tokens : List Token) : Prop :=
  ∀ ⦃allowed : Bool⦄ ⦃outer : List Nat⦄ ⦃i j column : Nat⦄ ⦃rest : List Char⦄ ⦃ts : List Token⦄,
    i < column → j ≤ i → Follows j rest → From true ((i + 1) :: outer) j rest ts →
      From allowed ((i + 1) :: outer) column (endLine (text i) ++ (spaces j ++ rest)) (tokens ++ ts)

theorem endsLine_word {s : String} (bare : IsBare s.toList) :
    EndsLine (fun _ => s.toList) [.scalar .plain s] := by
  intro allowed outer i j column rest ts right left follows h
  have ends : endLine s.toList = s.toList ++ ['\n'] := by
    have noBreak : s.toList.getLast?.any isBreak = false := by
      cases last : s.toList.getLast? with
      | none => rfl
      | some x => exact (bare.line x (List.mem_of_getLast? last)).1
    rw [endLine, noBreak]
    rfl
  have line := @From.bareLine ts allowed ((i + 1) :: outer) column j s.toList rest bare right
    (Nat.lt_succ_of_le left) follows h
  rw [String.ofList_toList] at line
  rw [ends, List.append_assoc]
  exact line

theorem endsLine_empty {opening closing : Char} {first last : Token}
    (marks : Lexing.FlowMarks opening closing first last) :
    EndsLine (fun _ => [opening, closing]) [first, last] := by
  intro allowed outer i j column rest ts right left follows h
  have ends : endLine [opening, closing] = [opening, closing, '\n'] := by
    cases marks <;> rfl
  have start : From true ((i + 1) :: outer) 0 (spaces j ++ rest) ts := by
    apply From.skipSpaces
    rwa [Nat.zero_add]
  rw [ends]
  exact From.emptyLine marks right start

theorem from_single {cs : List Char} (allowed' : allowsSingle cs = true) (line : '\n' ∉ cs)
    (right : i < column) (h : From true ((i + 1) :: outer) 0 rest ts) :
    From allowed ((i + 1) :: outer) column
      ('\x27' :: (singleInside (i + 2) false cs ++ '\x27' :: '\n' :: rest))
      (.scalar .quoted (String.ofList cs) :: ts) := by
  simp only [allowsSingle, Bool.and_eq_true, Bool.not_eq_true'] at allowed'
  obtain ⟨escapes, breakSpace⟩ := allowed'
  have printable : ∀ d ∈ cs, isPrintable d = true ∧ d ≠ '\n' := by
    intro d hd
    refine ⟨isPrintable_of_needsEscapes escapes hd, ?_⟩
    rintro rfl
    exact line hd
  have spaceBreak : hasPair isSpaceChar isBreak cs = false := by
    simp only [needsEscapes, Bool.or_eq_false_iff] at escapes
    exact escapes.2
  apply @From.quotedLine ts allowed ((i + 1) :: outer) column cs rest false
  · rfl
  · intro c place column
    have scanned := @singleFrom_inside (i + 2) [] {} c cs ('\n' :: rest) false printable spaceBreak
      breakSpace rfl (by intro h; cases h) (fun _ none => absurd rfl none) (Nat.succ_pos _)
      (fun _ => column) place (by simp)
    simpa [Gap.close] using scanned
  · simp only [List.length_append, List.length_cons]
    omega
  · exact right
  · exact h

theorem from_double (cs : List Char) (right : i < column)
    (h : From true ((i + 1) :: outer) 0 rest ts) :
    From allowed ((i + 1) :: outer) column
      ('\x22' :: (cs.flatMap escapeDouble ++ '\x22' :: '\n' :: rest))
      (.scalar .quoted (String.ofList cs) :: ts) := by
  apply @From.quotedLine ts allowed ((i + 1) :: outer) column cs rest true
  · rfl
  · intro c _ column
    obtain ⟨c', scanned, place, line⟩ := @doubleFrom_inside [] {} c cs ('\n' :: rest) rfl column
    refine ⟨c', ?_, place, Nat.le_of_eq line.symm⟩
    simpa [Gap.close] using scanned
  · simp only [List.length_append, List.length_cons]
    omega
  · exact right
  · exact h

/-- A text is read in each of its forms. -/
theorem endsLine_text (s : String) :
    EndsLine (fun i => textIn (i + 2) s) [.scalar (formOf s).style s] := by
  intro allowed outer i j column rest ts right left follows h
  have start : From true ((i + 1) :: outer) 0 (spaces j ++ rest) ts := by
    apply From.skipSpaces
    rwa [Nat.zero_add]
  cases form : formOf s with
  | plain =>
    have bare := @endsLine_word s (isBare_of_formOf form) allowed outer i j column rest ts right left
      follows h
    simpa [textIn, form, Form.style] using bare
  | single =>
    obtain ⟨allowed', line⟩ := allowsSingle_of_formOf form
    have ends : endLine (textIn (i + 2) s) =
        '\x27' :: (singleInside (i + 2) false s.toList ++ ['\x27', '\n']) := by
      rw [endLine_eq, textIn, form, lastLineEnd_append (List.cons_ne_nil _ _)]
      simp [lastLineEnd, isBreak]
    have single := @from_single allowed outer i column (spaces j ++ rest) ts s.toList allowed' line right start
    rw [ends]
    simpa [Form.style] using single
  | double =>
    have ends : endLine (textIn (i + 2) s) =
        '\x22' :: (s.toList.flatMap escapeDouble ++ ['\x22', '\n']) := by
      rw [endLine_eq, textIn, form, lastLineEnd_append (List.cons_ne_nil _ _)]
      simp [lastLineEnd, isBreak]
    have double := @from_double allowed outer i column (spaces j ++ rest) ts s.toList right start
    rw [ends]
    simpa [Form.style] using double
  | literal =>
    obtain ⟨allowed', nonempty⟩ := allowsLiteral_of_formOf form
    have escapes : needsEscapes s.toList = false := by
      simp only [allowsLiteral, Bool.and_eq_true, Bool.not_eq_true'] at allowed'
      exact allowed'.1
    have last := @getLast?_literalLines (i + 2) s.toList true
    have lines : literalLines (i + 2) true s.toList ≠ [] := by
      intro none
      rw [none, List.getLast?_nil, eq_comm, List.getLast?_eq_none_iff] at last
      exact nonempty last
    have ends : endLine (textIn (i + 2) s) = '|' :: (literalHints s.toList ++ '\n' ::
        (literalLines (i + 2) true s.toList ++ lastLineEnd s.toList)) := by
      have same : lastLineEnd (literalLines (i + 2) true s.toList) = lastLineEnd s.toList := by
        rw [lastLineEnd, last]
        rfl
      have shape : textIn (i + 2) s = ('|' :: literalHints s.toList ++ ['\n']) ++
          literalLines (i + 2) true s.toList := by
        simp [textIn, form]
      rw [endLine_eq, shape, lastLineEnd_append lines, same]
      simp
    have literal := @From.literal ts allowed ((i + 1) :: outer) column i j s.toList rest
      (fun d hd => isPrintable_of_needsEscapes escapes hd) nonempty rfl right (by omega) follows h
    rw [ends]
    simpa [Form.style] using literal

end Inline

/-! ### Collections -/

/-- How a value is split into tokens behind a colon and behind a dash. -/
structure Scans (v : Value) : Prop where
  behindKey {outer : List Nat} {i j column : Nat} {rest : List Char} {ts : List Token}
    (right : i < column) (left : j ≤ i) (follows : Follows j rest)
    (h : From true ((i + 1) :: outer) j rest ts) :
    From false ((i + 1) :: outer) column (behindKey i v ++ (spaces j ++ rest))
      (valueTokens true v ++ ts)
  behindDash {outer : List Nat} {i j : Nat} {rest : List Char} {ts : List Token}
    (left : j ≤ i) (follows : Follows j rest) (h : From true ((i + 1) :: outer) j rest ts) :
    From true ((i + 1) :: outer) (i + 2) (behindDash i v ++ (spaces j ++ rest))
      (valueTokens false v ++ ts)

theorem EndsLine.scans {v : Value} {text : Nat → List Char} {tokens : List Token}
    (h : EndsLine text tokens) (key : ∀ i, behindKey i v = ' ' :: endLine (text i))
    (dash : ∀ i, behindDash i v = endLine (text i))
    (same : ∀ flush, valueTokens flush v = tokens) : Scans v where
  behindKey {outer i j column rest ts} right left follows next := by
    rw [key, same, List.cons_append]
    apply From.skipSpace
    exact h (Nat.lt_succ_of_lt right) left follows next
  behindDash {outer i j rest ts} left follows next := by
    rw [dash, same]
    exact h (by omega) left follows next

section Collections

variable {outer before : List Nat} {i j : Nat} {rest : List Char} {ts opening : List Token}

theorem follows_itemLines (v : Value) (items : List Value) (tail : List Char) :
    Follows i (itemLines i true (v :: items) ++ tail) where
  start := by
    rintro x ⟨⟩
    exact .inl rfl
  ends none := by cases none

theorem follows_fieldLines {name : String} (named : Value.isFieldName name = true) (v : Value)
    (fields : List (String × Value)) (tail : List Char) :
    Follows i (fieldLines i true ((name, v) :: fields) ++ tail) := by
  obtain ⟨c, more, text, lower, _⟩ := exists_of_isFieldName named
  have shape : fieldLines i true ((name, v) :: fields) ++ tail =
      c :: (more ++ (':' :: behindKey i v ++ fieldLines i false fields ++ tail)) := by
    simp [fieldLines, text]
  rw [shape]
  constructor
  · rintro x ⟨⟩
    exact .inr lower
  · intro none
    cases none

theorem from_itemLines {v : Value} {items : List Value} (h : ∀ w ∈ v :: items, Scans w)
    (opens : Opens i .blockSequenceStart before ((i + 1) :: outer) opening) (left : j ≤ i)
    (follows : Follows j rest) (next : From true ((i + 1) :: outer) j rest ts) :
    From true before i (itemLines i true (v :: items) ++ (spaces j ++ rest))
      (opening ++ (itemTokens (v :: items) ++ ts)) := by
  induction items generalizing v before opening with
  | nil =>
    have item := (h v List.mem_cons_self).behindDash left follows next
    have entry := From.dash opens item.skipSpace
    simpa [itemLines, itemTokens, spaces] using entry
  | cons w more ih =>
    have further := ih (fun u hu => h u (List.mem_cons_of_mem v hu)) (.opened outer)
    have item := (h v List.mem_cons_self).behindDash (Nat.le_refl i) (follows_itemLines w more _) further
    have entry := From.dash opens item.skipSpace
    simpa [itemLines, itemTokens, spaces] using entry

theorem atSpace_behindKey (v : Value) (tail : List Char) : atSpace (behindKey i v ++ tail) = true := by
  unfold behindKey
  split <;> rfl

theorem from_key {name : String} {v : Value} {tail : List Char} {after : List Nat}
    (named : Value.isFieldName name = true)
    (opens : Opens i .blockMappingStart before after opening)
    (h : From false after (i + name.toList.length + 1) (behindKey i v ++ tail) ts) :
    From true before i (name.toList ++ ':' :: (behindKey i v ++ tail))
      (opening ++ (.key :: .scalar .plain name :: .value :: ts)) := by
  obtain ⟨c, more, text, lower, word, short, _⟩ := exists_of_isFieldName named
  have bare : IsBare name.toList := by
    rw [text]
    exact isBare_word (List.cons_ne_nil c more) word
  have first : name.toList.head?.any Char.isLower = true := by rwa [text]
  have short' : name.toList.length ≤ 256 := by rwa [text]
  have key := From.key bare first short' opens (atSpace_behindKey v tail) h
  rwa [String.ofList_toList] at key

theorem from_fieldLines {f : String × Value} {fields : List (String × Value)}
    (names : ∀ g ∈ f :: fields, Value.isFieldName g.1 = true) (h : ∀ g ∈ f :: fields, Scans g.2)
    (opens : Opens i .blockMappingStart before ((i + 1) :: outer) opening) (left : j ≤ i)
    (follows : Follows j rest) (next : From true ((i + 1) :: outer) j rest ts) :
    From true before i (fieldLines i true (f :: fields) ++ (spaces j ++ rest))
      (opening ++ (fieldTokens (f :: fields) ++ ts)) := by
  induction fields generalizing f before opening with
  | nil =>
    have right : i < i + f.1.toList.length + 1 := by omega
    have value := (h f List.mem_cons_self).behindKey right left follows next
    have member := from_key (names f List.mem_cons_self) opens value
    simpa [fieldLines, fieldTokens] using member
  | cons g more ih =>
    have further := ih (fun w hw => names w (List.mem_cons_of_mem f hw))
      (fun w hw => h w (List.mem_cons_of_mem f hw)) (.opened outer)
    have named := names g (List.mem_cons_of_mem f List.mem_cons_self)
    have right : i < i + f.1.toList.length + 1 := by omega
    have value := (h f List.mem_cons_self).behindKey right (Nat.le_refl i)
      (follows_fieldLines named g.2 more _) further
    have member := from_key (names f List.mem_cons_self) opens value
    simpa [fieldLines, fieldTokens] using member

/-- Every plain value is split into its tokens. -/
theorem scans_of_plain {depth : Nat} {v : Value} (h : v.Plain depth) : Scans v := by
  induction h with
  | null =>
    have bare : IsBare "null".toList := isBare_word (by simp) isNameChar_null
    exact (endsLine_word bare).scans (fun _ => rfl) (fun _ => rfl) fun _ => rfl
  | bool b =>
    have bare : IsBare (if b then "true" else "false").toList :=
      isBare_word (by cases b <;> simp) (isNameChar_bool b)
    exact (endsLine_word bare).scans (fun _ => by cases b <;> rfl) (fun _ => by cases b <;> rfl)
      fun _ => rfl
  | @nat _ n bound =>
    have bare : IsBare (Text.number n).toList := by
      rw [Text.toList_number]
      exact isBare_word (Text.decimal_ne_nil n)
        fun d hd => isNameChar_of_isDigit (Text.isDigit_of_mem_decimal hd)
    refine (endsLine_word bare).scans (fun _ => ?_) (fun _ => ?_) fun _ => rfl
    · rw [Text.toList_number]
      rfl
    · rw [Text.toList_number]
      rfl
  | text s => exact (endsLine_text s).scans (fun _ => rfl) (fun _ => rfl) fun _ => rfl
  | @list _ items h ih =>
    cases items with
    | nil =>
      exact (endsLine_empty .sequence).scans (fun _ => rfl) (fun _ => rfl) fun _ => rfl
    | cons v items =>
      constructor
      · intro outer i j column rest ts right left follows next
        have lines := from_itemLines ih (.opened outer) left follows next
        have start := @From.skipSpaces _ true ((i + 1) :: outer) 0 _ i (by rwa [Nat.zero_add])
        simpa [behindKey, itemLines, valueTokens] using start.lineFeed
      · intro outer i j rest ts left follows next
        have ended := next.blockEnd (show j + 1 < i + 2 + 1 by omega) follows.startsToken
        have lines := from_itemLines ih (.fresh (Nat.le_succ (i + 1))) (by omega) follows ended
        simpa [behindDash, valueTokens] using lines
  | @record _ fields names h ih =>
    cases fields with
    | nil =>
      exact (endsLine_empty .mapping).scans (fun _ => rfl) (fun _ => rfl) fun _ => rfl
    | cons f fields =>
      constructor
      · intro outer i j column rest ts right left follows next
        have ended := next.blockEnd (show j + 1 < i + 2 + 1 by omega) follows.startsToken
        have lines := from_fieldLines names ih (.fresh (Nat.le_succ (i + 1))) (by omega) follows ended
        have start := @From.skipSpaces _ true ((i + 1) :: outer) 0 _ (i + 2) (by rwa [Nat.zero_add])
        simpa [behindKey, fieldLines, valueTokens] using start.lineFeed
      · intro outer i j rest ts left follows next
        have ended := next.blockEnd (show j + 1 < i + 2 + 1 by omega) follows.startsToken
        have lines := from_fieldLines names ih (.fresh (Nat.le_succ (i + 1))) (by omega) follows ended
        simpa [behindDash, valueTokens] using lines

end Collections

/-! ### Whole texts -/

theorem tokens?_eq {cs : List Char} {ts : List Token} (allowed : AreAllowed cs)
    (h : From true [] 0 cs ts) : tokens? cs = some ts := by
  have all : cs.all isAllowed = true := List.all_eq_true.mpr allowed
  have yields := h { cursor := ⟨cs, 0, 0, 0⟩ } ⟨rfl, rfl, rfl, rfl, rfl, rfl⟩
  rw [tokens?, if_pos all, yields (cs.length + 1) (Nat.lt_succ_self _)]
  rfl

/-- The text of a plain record is split into its tokens. -/
theorem tokens?_render {depth : Nat} {fields : List (String × Value)}
    (h : (Value.record fields).Plain depth) :
    tokens? (render (.record fields)).toList = some (valueTokens true (.record fields)) := by
  cases h with
  | record names plain =>
    cases fields with
    | nil =>
      have text : (render (.record [])).toList = ['\x7b', '\x7d', '\n'] := rfl
      rw [text]
      apply tokens?_eq
      · exact .cons rfl (.cons rfl (.cons rfl .nil))
      · exact From.emptyLine .mapping (Nat.le_refl 0) (Lexing.from_end 0)
    | cons f fields =>
      have text : (render (.record (f :: fields))).toList = fieldLines 0 true (f :: fields) := by
        simp [render, fieldLines, spaces]
      rw [text]
      apply tokens?_eq
      · exact areAllowed_fieldLines names (fun g hg i => (areAllowed_behind (plain g hg) i).1) 0 true
      · have scans : ∀ g ∈ f :: fields, Scans g.2 := fun g hg => scans_of_plain (plain g hg)
        have follows : Follows 0 [] := ⟨by simp, fun _ => rfl⟩
        have lines := from_fieldLines names scans (.fresh (Nat.le_refl 0)) (Nat.le_refl 0) follows
          (Lexing.from_end 1)
        simpa [valueTokens, spaces] using lines

end IsisTestbed.Yaml
