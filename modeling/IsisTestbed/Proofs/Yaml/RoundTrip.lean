import IsisTestbed.Proofs.Yaml.Tokens
import IsisTestbed.Yaml.Document

/-!
YAML text, read back. Plain records that are not nested too deeply are written as text from which
exactly the document that spells them is read: the tokens of a value are put together as its node,
and the node has the tree that spells the value wherever its reader looks.
-/

namespace IsisTestbed.Yaml

/-! ### The node of a value -/

mutual

/-- The node of a value. -/
def valueNode : Value → Node
  | .null => .scalar .plain none "null"
  | .bool b => .scalar .plain none (if b then "true" else "false")
  | .nat n => .scalar .plain none (Text.number n)
  | .float x => .scalar .plain none (String.ofList (Decimal.text floatStyle x))
  | .text s => .scalar (formOf s).style none s
  | .list items => .sequence none (itemNodes items)
  | .record fields => .mapping none (fieldNodes fields)

/-- The nodes of the items of a sequence. -/
def itemNodes : List Value → List Node
  | [] => []
  | v :: rest => valueNode v :: itemNodes rest

/-- The nodes of the fields of a record. -/
def fieldNodes : List (String × Value) → List (Node × Node)
  | [] => []
  | (name, v) :: rest => (.scalar .plain none name, valueNode v) :: fieldNodes rest

end

/-! ### Tokens to nodes -/

namespace Parsing

/-- The tokens that a node without properties can start with, outside of flow collections. -/
def startsNode : Token → Bool
  | .scalar _ _ => true
  | .flowSequenceStart => true
  | .flowMappingStart => true
  | .blockSequenceStart => true
  | .blockMappingStart => true
  | _ => false

variable {p q : Parsing} {t : Token} {ts : List Token} {stack : List Frame} {n : Node}

theorem takeAll_cons (h : p.take t = some q) : p.takeAll (t :: ts) = q.takeAll ts := by
  rw [takeAll, h]

theorem allowsEmpty_eq_false (starts : startsNode t = true) (block : allowsBlock stack = true) :
    allowsEmpty stack t = false := by
  cases t <;> simp only [startsNode, Bool.false_eq_true] at starts
  all_goals
    cases stack with
    | nil => rfl
    | cons frame rest => cases frame <;> first | rfl | cases block

/-- What is due does not matter for a complete node. -/
theorem complete_due (p : Parsing) (due : Due) (n : Node) :
    ({ p with due } : Parsing).complete n = p.complete n := by
  simp only [complete]

theorem take_scalar (due : p.due = .node {}) (block : allowsBlock p.stack = true) (style : Style)
    (s : String) : p.take (.scalar style s) = some (p.complete (.scalar style none s)) := by
  have filled : allowsEmpty p.stack (.scalar style s) = false := allowsEmpty_eq_false rfl block
  simp [take, due, takeNode, filled, define, wrap]

/-- The collection that a token opens, and what is due inside. -/
def opened? : Token → Option (Frame × Due)
  | .flowSequenceStart => some (.flowSequence ⟨none, none⟩ [], .flowItem)
  | .flowMappingStart => some (.flowMapping ⟨none, none⟩ [] .key, .flowItem)
  | .blockSequenceStart => some (.blockSequence ⟨none, none⟩ [], .mark)
  | .blockMappingStart => some (.blockMapping ⟨none, none⟩ [] .key, .mark)
  | _ => none

theorem takeNode_opened {frame : Frame} {next : Due} (block : allowsBlock p.stack = true)
    (h : opened? t = some (frame, next)) :
    p.takeNode {} t = some { p with stack := frame :: p.stack, due := next } := by
  have starts : startsNode t = true := by
    unfold opened? at h
    split at h <;> first | rfl | cases h
  have filled : allowsEmpty p.stack t = false := allowsEmpty_eq_false starts block
  unfold opened? at h
  split at h <;> cases h <;>
    simp only [takeNode, filled, Bool.and_false, Bool.false_eq_true, if_false, block, if_true] <;> rfl

theorem take_opened {frame : Frame} {next : Due} (due : p.due = .node {})
    (block : allowsBlock p.stack = true) (h : opened? t = some (frame, next)) :
    p.take t = some { p with stack := frame :: p.stack, due := next } := by
  rw [take, due]
  exact takeNode_opened block h

/-! ### Values -/

/-- How the tokens of a value are put together where a node is due: in general, and behind a key. -/
structure Builds (v : Value) : Prop where
  node {p : Parsing} {ts : List Token} (due : p.due = .node {})
    (block : allowsBlock p.stack = true) :
    p.takeAll (valueTokens false v ++ ts) = (p.complete (valueNode v)).takeAll ts
  value {p : Parsing} {h : Head} {members : List (Node × Node)} {key : Node} {stack : List Frame}
    {t : Token} {ts : List Token} (due : p.due = .node {})
    (inside : p.stack = .blockMapping h members (.value key) :: stack)
    (behind : t = .key ∨ t = .blockEnd) :
    p.takeAll (valueTokens true v ++ t :: ts) = (p.complete (valueNode v)).takeAll (t :: ts)

/-- Values with the same tokens in both places. -/
theorem Builds.of_node {v : Value} (same : valueTokens true v = valueTokens false v)
    (h : ∀ {p : Parsing} {ts : List Token}, p.due = .node {} → allowsBlock p.stack = true →
      p.takeAll (valueTokens false v ++ ts) = (p.complete (valueNode v)).takeAll ts) : Builds v where
  node := h
  value {p _ _ _ _ _ _} due inside _ := by
    rw [same]
    exact h due (by rw [inside]; rfl)

theorem builds_scalar {v : Value} {style : Style} {s : String}
    (tokens : ∀ flush, valueTokens flush v = [.scalar style s])
    (node : valueNode v = .scalar style none s) : Builds v := by
  apply Builds.of_node ((tokens true).trans (tokens false).symm)
  intro p ts due block
  rw [tokens, node]
  exact takeAll_cons (take_scalar due block style s)

theorem builds_emptyList : Builds (.list []) := by
  apply Builds.of_node rfl
  intro p ts due block
  show p.takeAll (.flowSequenceStart :: .flowSequenceEnd :: ts) = _
  rw [takeAll_cons (take_opened due block rfl), ← complete_due p .flowItem]
  rfl

theorem builds_emptyRecord : Builds (.record []) := by
  apply Builds.of_node rfl
  intro p ts due block
  show p.takeAll (.flowMappingStart :: .flowMappingEnd :: ts) = _
  rw [takeAll_cons (take_opened due block rfl), ← complete_due p .flowItem]
  rfl

/-- The items of a sequence, behind some that have been read. -/
theorem takeAll_itemTokens {items : List Value} (h : ∀ v ∈ items, Builds v) (p : Parsing)
    {frame : List Node → Frame} (kind : frame = .blockSequence ⟨none, none⟩ ∨
      frame = .flushSequence ⟨none, none⟩) (read : List Node) (stack : List Frame)
    (ts : List Token) :
    ({ p with stack := frame read :: stack, due := .mark } : Parsing).takeAll
        (itemTokens items ++ ts) =
      ({ p with stack := frame ((itemNodes items).reverse ++ read) :: stack, due := .mark } :
        Parsing).takeAll ts := by
  induction items generalizing read with
  | nil => rfl
  | cons v more ih =>
    have dash : ({ p with stack := frame read :: stack, due := .mark } : Parsing).take .blockEntry =
        some { p with stack := frame read :: stack, due := .node {} } := by
      rcases kind with rfl | rfl <;> rfl
    have block : allowsBlock (frame read :: stack) = true := by
      rcases kind with rfl | rfl <;> rfl
    have complete : ({ p with stack := frame read :: stack, due := .node {} } : Parsing).complete
        (valueNode v) = { p with stack := frame (valueNode v :: read) :: stack, due := .mark } := by
      rcases kind with rfl | rfl <;> rfl
    rw [itemTokens, List.cons_append, List.append_assoc, takeAll_cons dash,
      (h v List.mem_cons_self).node rfl block, complete,
      ih fun w hw => h w (List.mem_cons_of_mem v hw)]
    simp [itemNodes]

/-- The fields of a mapping, behind some that have been read. -/
theorem takeAll_fieldTokens {fields : List (String × Value)} (h : ∀ f ∈ fields, Builds f.2)
    (p : Parsing) (head : Head) (read : List (Node × Node)) (stack : List Frame) (ts : List Token) :
    ({ p with stack := .blockMapping head read .key :: stack, due := .mark } : Parsing).takeAll
        (fieldTokens fields ++ .blockEnd :: ts) =
      ({ p with
        stack := .blockMapping head ((fieldNodes fields).reverse ++ read) .key :: stack
        due := .mark } : Parsing).takeAll (.blockEnd :: ts) := by
  induction fields generalizing read with
  | nil => rfl
  | cons f more ih =>
    obtain ⟨name, v⟩ := f
    let inside : Parsing :=
      { p with stack := .blockMapping head read (.value (.scalar .plain none name)) :: stack, due := .node {} }
    -- Behind a value comes the next key or the end of the mapping.
    obtain ⟨t, tail, behind, next⟩ : ∃ t tail, (t = .key ∨ t = .blockEnd) ∧
        fieldTokens more ++ .blockEnd :: ts = t :: tail := by
      cases more with
      | nil => exact ⟨.blockEnd, ts, .inr rfl, rfl⟩
      | cons g rest => exact ⟨.key, _, .inl rfl, rfl⟩
    have value : inside.takeAll (valueTokens true v ++ t :: tail) = _ :=
      (h (name, v) List.mem_cons_self).value rfl rfl behind
    have key : ({ p with stack := .blockMapping head read .key :: stack, due := .mark } :
        Parsing).takeAll (.key :: .scalar .plain name :: .value :: (valueTokens true v ++ t :: tail)) =
          inside.takeAll (valueTokens true v ++ t :: tail) := rfl
    have rest := ih (fun g hg => h g (List.mem_cons_of_mem _ hg))
      ((.scalar .plain none name, valueNode v) :: read)
    rw [next] at rest
    simp only [fieldTokens, List.cons_append, List.append_assoc, next]
    rw [key, value]
    refine Eq.trans rest ?_
    simp [fieldNodes]

theorem take_sequenceEnd (p : Parsing) (read : List Node) :
    ({ p with stack := .blockSequence ⟨none, none⟩ read :: p.stack, due := .mark } : Parsing).take
      .blockEnd = some (p.complete (.sequence none read.reverse)) := by
  rw [← complete_due p .mark]
  rfl

theorem take_mappingEnd (p : Parsing) (read : List (Node × Node)) :
    ({ p with stack := .blockMapping ⟨none, none⟩ read .key :: p.stack, due := .mark } : Parsing).take
      .blockEnd = some (p.complete (.mapping none read.reverse)) := by
  rw [← complete_due p .mark]
  rfl

/-- A sequence that is flush with its key ends in front of the next key or the end of the mapping. -/
theorem take_behindFlush {h : Head} {members : List (Node × Node)} {key : Node}
    (inside : p.stack = .blockMapping h members (.value key) :: stack)
    (behind : t = .key ∨ t = .blockEnd) (read : List Node) :
    ({ p with stack := .flushSequence ⟨none, none⟩ read :: p.stack, due := .mark } : Parsing).take t =
      (p.complete (.sequence none read.reverse)).take t := by
  rw [← complete_due p .mark]
  rcases behind with rfl | rfl <;> simp only [take, takeMark, close, wrap, complete, inside]

theorem take_flushStart {h : Head} {members : List (Node × Node)} {key : Node}
    (due : p.due = .node {}) (inside : p.stack = .blockMapping h members (.value key) :: stack) :
    p.take .blockEntry = some
      { p with stack := .flushSequence ⟨none, none⟩ [] :: p.stack, due := .node {} } := by
  simp [take, due, takeNode, inside, allowsEmpty, allowsFlush, push, define]

theorem builds_list {v : Value} {items : List Value} (h : ∀ w ∈ v :: items, Builds w) :
    Builds (.list (v :: items)) where
  node {p ts} due block := by
    have opened := take_opened due block (t := .blockSequenceStart) rfl
    simp only [valueTokens, Bool.false_eq_true, if_false, List.cons_append, List.append_assoc,
      List.nil_append]
    rw [takeAll_cons opened, takeAll_itemTokens h p (.inl rfl), List.append_nil,
      takeAll_cons (take_sequenceEnd p _), List.reverse_reverse]
    rfl
  value {p _ members key stack t ts} due inside behind := by
    -- The first dash opens the sequence, in which a dash makes the same node due.
    have start : p.takeAll (itemTokens (v :: items) ++ t :: ts) =
        ({ p with stack := .flushSequence ⟨none, none⟩ [] :: p.stack, due := .mark } :
          Parsing).takeAll (itemTokens (v :: items) ++ t :: ts) := by
      rw [itemTokens, List.cons_append, takeAll_cons (take_flushStart due inside)]
      rfl
    rw [valueTokens, if_pos rfl, start, takeAll_itemTokens h p (.inr rfl), List.append_nil, takeAll,
      take_behindFlush inside behind, List.reverse_reverse]
    rfl

theorem builds_record {f : String × Value} {fields : List (String × Value)}
    (h : ∀ g ∈ f :: fields, Builds g.2) : Builds (.record (f :: fields)) := by
  apply Builds.of_node rfl
  intro p ts due block
  have opened := take_opened due block (t := .blockMappingStart) rfl
  simp only [valueTokens, List.cons_append, List.append_assoc, List.nil_append]
  rw [takeAll_cons opened, takeAll_fieldTokens h p, List.append_nil,
    takeAll_cons (take_mappingEnd p _), List.reverse_reverse]
  rfl

theorem builds_of_plain {depth : Nat} {v : Value} (h : v.Plain depth) : Builds v := by
  induction h with
  | null => exact builds_scalar (fun _ => rfl) rfl
  | bool b => exact builds_scalar (fun _ => rfl) rfl
  | nat bound => exact builds_scalar (fun _ => rfl) rfl
  | text s => exact builds_scalar (fun _ => rfl) rfl
  | @list _ items h ih =>
    cases items with
    | nil => exact builds_emptyList
    | cons v items => exact builds_list ih
  | @record _ fields names h ih =>
    cases fields with
    | nil => exact builds_emptyRecord
    | cons f fields => exact builds_record ih

end Parsing

/-- The text of a plain record has its node as its root. -/
theorem root?_render {depth : Nat} {fields : List (String × Value)}
    (h : (Value.record fields).Plain depth) :
    root? (render (.record fields)) = some (some (valueNode (.record fields))) := by
  have same : valueTokens true (.record fields) = valueTokens false (.record fields) := by
    cases fields <;> rfl
  have tokens := tokens?_render h
  have start : ({} : Parsing).takeAll (valueTokens false (.record fields)) =
      ({ due := .node {} } : Parsing).takeAll (valueTokens false (.record fields) ++ []) := by
    rw [List.append_nil]
    cases fields <;> rfl
  have node := @Parsing.Builds.node _ (Parsing.builds_of_plain h) { due := .node {} } [] rfl rfl
  rw [same] at tokens
  simp only [root?, tokens, start, node, Option.bind_eq_bind, Option.bind_some]
  rfl

/-! ### Nodes to trees -/

theorem scalarTree_bare {s : String} {v : Scalar} (reads : resolve s = v) :
    scalarTree .plain none s = .plain s v := by
  rw [← reads]
  rfl

section Trees

variable {follow : Nat → Outline → Nat → Following Tree} {level : Nat} {o keys : Outline}

theorem treesOf_itemNodes {items : List Value}
    (h : ∀ v ∈ items, treeOf follow level o (valueNode v) = pure (v.tree spelling)) :
    treesOf follow level o (itemNodes items) = pure (Value.treeItems spelling items) := by
  induction items with
  | nil => rfl
  | cons v more ih =>
    rw [itemNodes, treesOf, h v List.mem_cons_self, ih fun w hw => h w (List.mem_cons_of_mem v hw)]
    rfl

theorem memberTreesOf_fieldNodes {fields : List (String × Value)}
    (names : ∀ f ∈ fields, Value.isFieldName f.1 = true)
    (h : ∀ f ∈ fields, ∃ inner, o.member? (some f.1) = some inner ∧
      treeOf follow level inner (valueNode f.2) = pure (f.2.tree spelling)) :
    memberTreesOf follow level o keys (fieldNodes fields) =
      pure (Value.treeFields spelling fields) := by
  induction fields with
  | nil => rfl
  | cons f more ih =>
    obtain ⟨name, v⟩ := f
    obtain ⟨inner, found, tree⟩ := h (name, v) List.mem_cons_self
    have named := names (name, v) List.mem_cons_self
    have key : scalarTree .plain none name = spelling.scalar (.text name) := by
      rw [scalarTree_bare (resolve_fieldName named)]
      exact (if_pos (formOf_fieldName named)).symm
    have text : (spelling.scalar (.text name)).text? = some name := spelling.text name
    have rest := ih (fun g hg => names g (List.mem_cons_of_mem _ hg))
      (fun g hg => h g (List.mem_cons_of_mem _ hg))
    rw [fieldNodes, memberTreesOf, treeOf, rest, key]
    simp only [pure_bind, text, found, tree]
    rfl

/-- A plain value that its reader sees as a whole has the tree that spells it. -/
theorem treeOf_valueNode {depth : Nat} {v : Value} (h : v.Plain depth) (covered : o.Covers v)
    (shallow : level + depth ≤ depthLimit) :
    treeOf follow level o (valueNode v) = pure (v.tree spelling) := by
  induction h generalizing o level with
  | null =>
    rw [valueNode, treeOf, scalarTree_bare resolve_null]
    rfl
  | bool b =>
    rw [valueNode, treeOf, scalarTree_bare (resolve_bool b)]
    rfl
  | nat bound =>
    rw [valueNode, treeOf, scalarTree_bare (resolve_number bound)]
    rfl
  | text s =>
    have spelled : scalarTree (formOf s).style none s = scalarSpelling (.text s) := by
      cases form : formOf s with
      | plain =>
        rw [Form.style, scalarTree_bare (resolve_of_formOf form)]
        exact (if_pos form).symm
      | single => exact (if_neg (by rw [form]; decide)).symm
      | double => exact (if_neg (by rw [form]; decide)).symm
      | literal => exact (if_neg (by rw [form]; decide)).symm
    rw [valueNode, treeOf, spelled]
    rfl
  | @list _ items h ih =>
    obtain ⟨inner, looked, covered⟩ := covered.items
    have inside : level < depthLimit := by omega
    have trees := @treesOf_itemNodes follow (level + 1) inner items fun v hv =>
      ih v hv (covered v hv) (by omega)
    rw [valueNode, treeOf, looked]
    simp only [inside, if_true, trees, pure_bind]
    rfl
  | @record _ fields names h ih =>
    obtain ⟨⟨keys, looked⟩, covered⟩ := covered.members
    have inside : level < depthLimit := by omega
    have trees := @memberTreesOf_fieldNodes follow (level + 1) o keys fields names fun f hf => by
      obtain ⟨inner, found, covers⟩ := covered f hf
      exact ⟨inner, found, ih f hf covers (by omega)⟩
    rw [valueNode, treeOf, looked]
    simp only [inside, if_true, trees, pure_bind]
    rfl

end Trees

/-! ### Whole texts -/

/-- The text of a plain record is read as the document that spells it, wherever its reader looks. -/
theorem parse?_render {depth : Nat} {fields : List (String × Value)}
    (h : (Value.record fields).Plain depth) (shallow : depth ≤ depthLimit) {o : Outline}
    (covered : o.Covers (.record fields)) :
    parse? o (render (.record fields)) = some ((Value.record fields).tree spelling) := by
  have tree := @treeOf_valueNode
    (followAlias (anchoredNodes [] (valueNode (.record fields))) (depthLimit + 1)) 0 o depth
    (.record fields) h covered (by rwa [Nat.zero_add])
  simp only [parse?, root?_render h, Option.bind_eq_bind, Option.bind_some, Node.toTree?, tree]
  rfl

end IsisTestbed.Yaml
