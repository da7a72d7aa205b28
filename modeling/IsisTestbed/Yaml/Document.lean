import IsisTestbed.Yaml.Node
import IsisTestbed.Yaml.Scalar

/-!
YAML documents as trees. Only the parts that an outline names are put into the tree, and there each
alias is replaced by the node that it refers to. Parts that are nested too deeply, or more aliases
than a budget allows, make a document unreadable; in skipped parts neither matters.
-/

namespace IsisTestbed.Yaml

/-- The greatest depth at which collections can be used. -/
def depthLimit : Nat := 128

/-! ### Anchors -/

mutual

/-- The anchored nodes of a document, the last one first. -/
def anchoredNodes (found : List (Nat × Node)) : Node → List (Nat × Node)
  | .scalar _ _ _ => found
  | .sequence _ items => anchoredItems found items
  | .mapping _ members => anchoredMembers found members
  | .alias _ => found
  | .anchored number n => anchoredNodes ((number, n) :: found) n

/-- The anchored nodes of the items of a sequence. -/
def anchoredItems (found : List (Nat × Node)) : List Node → List (Nat × Node)
  | [] => found
  | n :: rest => anchoredItems (anchoredNodes found n) rest

/-- The anchored nodes of the members of a mapping. -/
def anchoredMembers (found : List (Nat × Node)) : List (Node × Node) → List (Nat × Node)
  | [] => found
  | (k, n) :: rest => anchoredMembers (anchoredNodes (anchoredNodes found k) n) rest

end

mutual

/-- The number of nodes in a document. -/
def Node.size : Node → Nat
  | .scalar _ _ _ => 1
  | .sequence _ items => sizeItems items + 2
  | .mapping _ members => sizeMembers members + 2
  | .alias _ => 1
  | .anchored _ n => n.size

/-- The number of nodes in the items of a sequence. -/
def sizeItems : List Node → Nat
  | [] => 0
  | n :: rest => n.size + sizeItems rest

/-- The number of nodes in the members of a mapping. -/
def sizeMembers : List (Node × Node) → Nat
  | [] => 0
  | (k, n) :: rest => k.size + n.size + sizeMembers rest

end

/-! ### Trees -/

/-- What a scalar with a tag reads as. -/
def taggedValue (style : Style) (tag : Tag) (s : String) : Scalar :=
  match style with
  | .plain => taggedPlain tag s
  | .literal => taggedLiteral tag s
  | _ => .text s

/-- The tree of a scalar that is not marked as a variant. A bare scalar with the tag of null must be
null where a part may be absent. -/
def unmarkedTree (style : Style) (tag : Option Tag) (s : String) : Tree :=
  match tag, style with
  | none, .plain => .plain s (resolve s)
  | none, _ => .typed (.text s)
  | some tag, _ => .marked
    { text := s
      value := taggedValue style tag s
      kept := keptAs tag (style == .plain) s
      mayBeOptional := style != .plain || tag != .null || isNull s
      bare := style == .plain }

/-- The tree of a scalar. -/
def scalarTree (style : Style) (tag : Option Tag) (s : String) : Tree :=
  match tag.bind Tag.variant? with
  | some name => .variant name (unmarkedTree style none s)
  | none => unmarkedTree style tag s

/-- A tree with its mark, if its tag is that of a variant. -/
def markTree (tag : Option Tag) (t : Tree) : Tree :=
  match tag.bind Tag.variant? with
  | some name => .variant name t
  | none => t

/-- Reading that follows aliases. The state counts how often that may still happen, and reading
fails once it may not. -/
abbrev Following (α : Type) : Type :=
  StateT Nat Option α

mutual

/-- The tree of a node at a depth, as far as an outline goes. Aliases are followed by `follow`. -/
def treeOf (follow : Nat → Outline → Nat → Following Tree) (depth : Nat) (o : Outline) :
    Node → Following Tree
  | .scalar style tag s => pure (scalarTree style tag s)
  | .sequence tag items =>
    match o.items? with
    | none => pure .unreadable
    | some inner =>
      if depth < depthLimit then do
        let trees ← treesOf follow (depth + 1) inner items
        pure (markTree tag (.list trees))
      else failure
  | .mapping tag members =>
    match o.keys? with
    | none => pure .unreadable
    | some keys =>
      if depth < depthLimit then do
        let trees ← memberTreesOf follow (depth + 1) o keys members
        pure (markTree tag (.record trees))
      else failure
  | .alias number => follow depth o number
  | .anchored _ n => treeOf follow depth o n

/-- The trees of the items of a sequence. -/
def treesOf (follow : Nat → Outline → Nat → Following Tree) (depth : Nat) (o : Outline) :
    List Node → Following (List Tree)
  | [] => pure []
  | n :: rest => do
    let t ← treeOf follow depth o n
    let more ← treesOf follow depth o rest
    pure (t :: more)

/-- The trees of the members of a mapping, given its outline and that of its keys. -/
def memberTreesOf (follow : Nat → Outline → Nat → Following Tree) (depth : Nat)
    (o keys : Outline) : List (Node × Node) → Following (List (Tree × Tree))
  | [] => pure []
  | (k, n) :: rest => do
    let key ← treeOf follow depth keys k
    let t ← match o.member? key.text? with
      | none => pure .unreadable
      | some inner => treeOf follow depth inner n
    let more ← memberTreesOf follow depth o keys rest
    pure ((key, t) :: more)

end

/-- Follows an alias at a depth; `nesting` bounds how many aliases may be inside each other. Each
one is at least one level deeper than the one around it. -/
def followAlias (table : List (Nat × Node)) : Nat → Nat → Outline → Nat → Following Tree
  | 0, _, _, _ => failure
  | nesting + 1, depth, o, number => do
    let budget ← get
    if budget = 0 then failure
    else
      set (budget - 1)
      match table.find? fun entry => entry.1 == number with
      | some (_, n) => treeOf (followAlias table nesting) depth o n
      | none => failure

/-- The tree of a document, as far as an outline goes. -/
def Node.toTree? (o : Outline) (n : Node) : Option Tree :=
  let table := anchoredNodes [] n
  ((treeOf (followAlias table (depthLimit + 1)) 0 o n).run (100 * n.size)).map (·.1)

/-- The document that a text denotes, as far as an outline goes. A text without a document is an
empty record. -/
def parse? (o : Outline) (text : String) : Option Tree := do
  match ← root? text with
  | some n => n.toTree? o
  | none => some (.record [])

end IsisTestbed.Yaml
