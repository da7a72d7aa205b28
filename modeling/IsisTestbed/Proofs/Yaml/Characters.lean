import IsisTestbed.Proofs.Yaml.Scanning

/-!
The characters of rendered values. Whatever characters the texts of a value hold, what is written
for it consists only of characters that a document may contain.
-/

namespace IsisTestbed.Yaml

/-! ### Texts -/

/-- Whether a document may contain all characters of a text. -/
def AreAllowed (cs : List Char) : Prop :=
  ∀ c ∈ cs, isAllowed c = true

namespace AreAllowed

variable {c : Char} {cs ds : List Char}

theorem append (hcs : AreAllowed cs) (hds : AreAllowed ds) : AreAllowed (cs ++ ds) :=
  List.forall_mem_append.mpr ⟨hcs, hds⟩

theorem cons (hc : isAllowed c = true) (hcs : AreAllowed cs) : AreAllowed (c :: cs) :=
  List.forall_mem_cons.mpr ⟨hc, hcs⟩

theorem nil : AreAllowed [] :=
  nofun

theorem spaces (n : Nat) : AreAllowed (spaces n) := by
  intro c hc
  rw [List.eq_of_mem_replicate hc]
  rfl

theorem endLine (hcs : AreAllowed cs) : AreAllowed (endLine cs) := by
  unfold Yaml.endLine
  split
  · exact hcs
  · exact hcs.append (.cons rfl .nil)

end AreAllowed

theorem isAllowed_of_isPrintable {c : Char} (h : isPrintable c = true) : isAllowed c = true := by
  simp only [isPrintable, isAllowed, Bool.or_eq_true, Bool.and_eq_true, beq_iff_eq,
    decide_eq_true_eq] at h ⊢
  omega

theorem areAllowed_word {cs : List Char} (h : ∀ c ∈ cs, Value.isNameChar c = true) :
    AreAllowed cs :=
  fun c hc => isAllowed_of_isPrintable (isPrintable_of_isNameChar (h c hc))

theorem isAllowed_of_simpleEscape? {d x : Char} (h : simpleEscape? d = some x) :
    isAllowed d = true := by
  unfold simpleEscape? at h
  split at h
  all_goals first | rfl | cases h

theorem areAllowed_escapeDigits (width : Nat) (x : Char) : AreAllowed (escapeDigits width x) := by
  have digit : ∀ n < 16, isAllowed (Nat.digitChar n).toUpper = true := by decide
  apply AreAllowed.append
  · intro c hc
    rw [List.eq_of_mem_replicate hc]
    rfl
  · intro c hc
    obtain ⟨d, hd, rfl⟩ := List.mem_map.mp hc
    obtain ⟨n, bound, rfl⟩ := Text.mem_hex hd
    exact digit n bound

theorem areAllowed_escapeDouble (x : Char) : AreAllowed (escapeDouble x) := by
  rcases escapeDouble_cases x with ⟨d, value, shape⟩ | ⟨printable, _, _, _, shape⟩ |
    ⟨mark, width, known, _, _, shape⟩
  · rw [shape]
    exact .cons rfl (.cons (isAllowed_of_simpleEscape? value) .nil)
  · rw [shape]
    exact .cons (isAllowed_of_isPrintable printable) .nil
  · rw [shape]
    have mark' : isAllowed mark = true := by
      simp only [numberMarks, List.mem_cons, Prod.mk.injEq, List.not_mem_nil, or_false] at known
      rcases known with ⟨rfl, _⟩ | ⟨rfl, _⟩ | ⟨rfl, _⟩ <;> rfl
    exact .cons rfl (.cons mark' (areAllowed_escapeDigits width x))

theorem areAllowed_singleInside {cs : List Char} (h : AreAllowed cs) (indent : Nat)
    (afterBreak : Bool) : AreAllowed (singleInside indent afterBreak cs) := by
  induction cs generalizing afterBreak with
  | nil =>
    cases afterBreak with
    | true => exact .spaces indent
    | false => exact .nil
  | cons x more ih =>
    have later := ih fun c hc => h c (List.mem_cons_of_mem x hc)
    have here : isAllowed x = true := h x List.mem_cons_self
    unfold singleInside
    split
    · exact .cons here (later true)
    · apply AreAllowed.append _ (later _)
      apply AreAllowed.append
      · split
        · exact .spaces indent
        · exact .nil
      · split
        · exact .cons rfl (.cons rfl .nil)
        · exact .cons here .nil

theorem areAllowed_literalLines {cs : List Char} (h : AreAllowed cs) (indent : Nat)
    (afterBreak : Bool) : AreAllowed (literalLines indent afterBreak cs) := by
  induction cs generalizing afterBreak with
  | nil => exact .nil
  | cons x more ih =>
    have later := ih fun c hc => h c (List.mem_cons_of_mem x hc)
    have here : isAllowed x = true := h x List.mem_cons_self
    unfold literalLines
    split
    · exact .cons here (later true)
    · apply AreAllowed.append
      · split
        · exact .spaces indent
        · exact .nil
      · exact .cons here (later false)

theorem areAllowed_literalHints (cs : List Char) : AreAllowed (literalHints cs) := by
  have mark {c : Char} (h : c ∈ ['2', '-', '+']) : isAllowed c = true :=
    List.all_eq_true.mp (show ['2', '-', '+'].all isAllowed = true from rfl) c h
  have one {c : Char} (h : c ∈ ['2', '-', '+']) : AreAllowed [c] := .cons (mark h) .nil
  apply AreAllowed.append
  · split
    · exact one (by simp)
    · exact .nil
  · split
    · exact one (by simp)
    · split <;> exact one (by simp)
    · split
      · split
        · exact one (by simp)
        · exact .nil
      · exact one (by simp)

theorem areAllowed_textIn (indent : Nat) (s : String) : AreAllowed (textIn indent s) := by
  have printable (h : needsEscapes s.toList = false) : AreAllowed s.toList :=
    fun c hc => isAllowed_of_isPrintable (isPrintable_of_needsEscapes h hc)
  unfold textIn
  simp only
  split
  · next form => exact fun c hc =>
      isAllowed_of_isPrintable ((isBare_of_formOf form).line c hc).2
  · next form =>
    have allowed := (allowsSingle_of_formOf form).1
    simp only [allowsSingle, Bool.and_eq_true, Bool.not_eq_true'] at allowed
    exact .append (.cons rfl (areAllowed_singleInside (printable allowed.1) indent false))
      (.cons rfl .nil)
  · apply AreAllowed.append _ (.cons rfl .nil)
    apply AreAllowed.cons rfl
    intro c hc
    obtain ⟨x, _, hx⟩ := List.mem_flatMap.mp hc
    exact areAllowed_escapeDouble x c hx
  · next form =>
    have allowed := (allowsLiteral_of_formOf form).1
    simp only [allowsLiteral, Bool.and_eq_true, Bool.not_eq_true'] at allowed
    exact .append (.cons rfl (areAllowed_literalHints s.toList))
      (.cons rfl (areAllowed_literalLines (printable allowed.1) indent true))

/-! ### Values -/

theorem areAllowed_itemLines {items : List Value}
    (h : ∀ v ∈ items, ∀ indent, AreAllowed (behindDash indent v)) (indent : Nat) (started : Bool) :
    AreAllowed (itemLines indent started items) := by
  induction items generalizing started with
  | nil => exact .nil
  | cons v more ih =>
    have later := ih (fun w hw => h w (List.mem_cons_of_mem v hw)) false
    apply AreAllowed.append _ later
    apply AreAllowed.append
    · split
      · exact .nil
      · exact .spaces indent
    · exact .cons rfl (.cons rfl (h v List.mem_cons_self indent))

theorem areAllowed_fieldLines {fields : List (String × Value)}
    (names : ∀ f ∈ fields, Value.isFieldName f.1 = true)
    (h : ∀ f ∈ fields, ∀ indent, AreAllowed (behindKey indent f.2)) (indent : Nat)
    (started : Bool) : AreAllowed (fieldLines indent started fields) := by
  induction fields generalizing started with
  | nil => exact .nil
  | cons f more ih =>
    have later := ih (fun g hg => names g (List.mem_cons_of_mem f hg))
      (fun g hg => h g (List.mem_cons_of_mem f hg)) false
    obtain ⟨c, rest, text, _, word, _⟩ := exists_of_isFieldName (names f List.mem_cons_self)
    apply AreAllowed.append _ later
    apply AreAllowed.append
    · apply AreAllowed.append
      · split
        · exact .nil
        · exact .spaces indent
      · rw [text]
        exact areAllowed_word word
    · exact .cons rfl (h f List.mem_cons_self indent)

/-- A document may contain the text of every plain value. -/
theorem areAllowed_behind {depth : Nat} {v : Value} (h : v.Plain depth) (indent : Nat) :
    AreAllowed (behindKey indent v) ∧ AreAllowed (behindDash indent v) := by
  have inline {text : List Char} (h : AreAllowed text) :
      AreAllowed (' ' :: endLine text) ∧ AreAllowed (endLine text) :=
    ⟨.cons rfl h.endLine, h.endLine⟩
  induction h generalizing indent with
  | null => exact inline (areAllowed_word isNameChar_null)
  | bool b =>
    have word := areAllowed_word (isNameChar_bool b)
    cases b with
    | true => exact inline word
    | false => exact inline word
  | nat bound =>
    exact inline (areAllowed_word fun d hd => isNameChar_of_isDigit (Text.isDigit_of_mem_decimal hd))
  | text s => exact inline (areAllowed_textIn (indent + 2) s)
  | @list _ items h ih =>
    cases items with
    | nil => exact inline (.cons rfl (.cons rfl .nil))
    | cons v items =>
      have lines := areAllowed_itemLines fun w hw i => (ih w hw i).2
      exact ⟨.cons rfl (lines indent false), lines (indent + 2) true⟩
  | @record _ fields names h ih =>
    cases fields with
    | nil => exact inline (.cons rfl (.cons rfl .nil))
    | cons f fields =>
      have lines := areAllowed_fieldLines names fun g hg i => (ih g hg i).1
      exact ⟨.cons rfl (lines (indent + 2) false), lines (indent + 2) true⟩

end IsisTestbed.Yaml
