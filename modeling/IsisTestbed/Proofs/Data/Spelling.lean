import IsisTestbed.Data.Tree
import IsisTestbed.Data.Value

/-!
The document that spells a value. How scalars and sequences are spelled is up to the format, as long
as readers get from them what the value says; when a document is set aside, every spelling becomes
the same one. `Value.Plain` describes the values that every document format of the library can hold
without loss: no floats, no numbers of more than 64 bits, names that need no quotes, and a bounded
depth.
-/

namespace IsisTestbed

/-! ### Spellings -/

/-- A way to spell scalars and sequences, and what its readers get. -/
structure Spelling where
  scalar : Scalar → Tree
  sequence : List Tree → Tree
  text (s : String) : (scalar (.text s)).text? = some s
  nat (n : Nat) : (scalar (.nat n)).nat? = some n
  bool (b : Bool) : (scalar (.bool b)).bool? = some b
  /-- Only null stands for an absent part. -/
  present {α : Type} (read : Tree → Option α) (v : Scalar) (h : v ≠ .null) :
    (scalar v).optional? read = (read (scalar v)).map some
  hold (v : Scalar) (h : v ≠ .unusable) : (scalar v).hold = some (.held v)
  items (ts : List Tree) : (sequence ts).items? = some ts
  presentItems {α : Type} (read : Tree → Option α) (ts : List Tree) :
    (sequence ts).optional? read = (read (sequence ts)).map some
  holdItems (ts : List Tree) : (sequence ts).hold = (Tree.holdItems ts).map .array

namespace Spelling

/-- The spelling of what was set aside before its use was known. -/
def aside : Spelling where
  scalar := .held
  sequence := .array
  text _ := rfl
  nat _ := rfl
  bool _ := rfl
  present read v h := by
    cases v
    case null => exact absurd rfl h
    all_goals rfl
  hold _ _ := rfl
  items _ := rfl
  presentItems _ _ := rfl
  holdItems _ := rfl

variable (sp : Spelling)

/-- A text as a key is a name. -/
theorem key (s : String) : Tree.key? (sp.scalar (.text s)) = some (.name s) := by
  have text := sp.text s
  generalize sp.scalar (.text s) = t at text
  unfold Tree.key?
  split
  · simp [Tree.text?] at text
  · rw [text, Option.map_some]

end Spelling

/-- A spelling in which texts name constants. What was set aside does not. -/
structure DirectSpelling extends Spelling where
  constant (s : String) : (scalar (.text s)).constant? = some s

instance : Coe DirectSpelling Spelling :=
  ⟨DirectSpelling.toSpelling⟩

namespace Value

mutual

/-- The document that spells a value. -/
def tree (sp : Spelling) : Value → Tree
  | .null => sp.scalar .null
  | .bool b => sp.scalar (.bool b)
  | .nat n => sp.scalar (.nat n)
  | .float x => sp.scalar (.float x)
  | .text s => sp.scalar (.text s)
  | .list items => sp.sequence (treeItems sp items)
  | .record fields => .record (treeFields sp fields)

/-- The items of a sequence in a document. -/
def treeItems (sp : Spelling) : List Value → List Tree
  | [] => []
  | v :: rest => tree sp v :: treeItems sp rest

/-- The members of a record in a document. -/
def treeFields (sp : Spelling) : List (String × Value) → List (Tree × Tree)
  | [] => []
  | (name, v) :: rest => (sp.scalar (.text name), tree sp v) :: treeFields sp rest

end

/-! ### Setting aside -/

mutual

/-- A document that spells a value can be set aside, and then spells the same value. -/
theorem hold_tree (sp : Spelling) : ∀ v : Value, (v.tree sp).hold = some (v.tree .aside)
  | .null => sp.hold .null nofun
  | .bool b => sp.hold (.bool b) nofun
  | .nat n => sp.hold (.nat n) nofun
  | .float x => sp.hold (.float x) nofun
  | .text s => sp.hold (.text s) nofun
  | .list items => by
      rw [tree, sp.holdItems, holdItems_treeItems sp items]
      rfl
  | .record fields => by
      rw [tree, Tree.hold, holdMembers_treeFields sp fields]
      rfl

/-- The items of a sequence can be set aside. -/
theorem holdItems_treeItems (sp : Spelling) :
    ∀ items : List Value, Tree.holdItems (treeItems sp items) = some (treeItems .aside items)
  | [] => rfl
  | v :: rest => by
      simp [treeItems, Tree.holdItems, hold_tree sp v, holdItems_treeItems sp rest]

/-- The members of a record can be set aside. -/
theorem holdMembers_treeFields (sp : Spelling) :
    ∀ fields : List (String × Value),
      Tree.holdMembers (treeFields sp fields) = some (treeFields .aside fields)
  | [] => rfl
  | (name, v) :: rest => by
      have key : (sp.scalar (.text name)).hold = some (.held (.text name)) := sp.hold _ nofun
      simp [treeFields, Tree.holdMembers, key, hold_tree sp v, holdMembers_treeFields sp rest,
        Spelling.aside]

end

/-! ### Plain values -/

/-- Whether a character may be part of the name of a field. -/
def isNameChar (c : Char) : Bool :=
  c.isLower || c.isDigit || c == '_'

/-- Whether a name can be written bare wherever the name of a field may stand: it is a short word of
lower-case letters, digits and underscores that starts with a letter and is not reserved. -/
def isFieldName (name : String) : Bool :=
  name.toList.head?.any Char.isLower && name.toList.all isNameChar && name.length ≤ 256 &&
    !(["null", "true", "false"].contains name)

/-- Values without floats and numbers of more than 64 bits, with bare names, whose lists and records
are nested at most to the given depth. -/
inductive Plain : Nat → Value → Prop where
  | null {depth : Nat} : Plain depth .null
  | bool {depth : Nat} (b : Bool) : Plain depth (.bool b)
  | nat {depth n : Nat} (h : n < UInt64.size) : Plain depth (.nat n)
  | text {depth : Nat} (s : String) : Plain depth (.text s)
  | list {depth : Nat} {items : List Value} (h : ∀ v ∈ items, Plain depth v) :
      Plain (depth + 1) (.list items)
  | record {depth : Nat} {fields : List (String × Value)}
      (names : ∀ f ∈ fields, isFieldName f.1 = true) (h : ∀ f ∈ fields, Plain depth f.2) :
      Plain (depth + 1) (.record fields)

/-- A bound on the depth may be raised. -/
theorem Plain.mono {m n : Nat} {v : Value} (h : v.Plain m) (bound : m ≤ n) : v.Plain n := by
  induction h generalizing n with
  | null => exact .null
  | bool b => exact .bool b
  | nat h => exact .nat h
  | text s => exact .text s
  | list h ih =>
      obtain ⟨k, rfl⟩ : ∃ k, n = k + 1 := ⟨n - 1, by omega⟩
      exact .list fun v hv => ih v hv (by omega)
  | record names h ih =>
      obtain ⟨k, rfl⟩ : ∃ k, n = k + 1 := ⟨n - 1, by omega⟩
      exact .record names fun f hf => ih f hf (by omega)

end Value

/-! ### Outlines -/

/-- Whether a reader that looks at the parts in an outline sees all of a value. -/
inductive Outline.Covers : Outline → Value → Prop where
  | whole (v : Value) : Covers .whole v
  | null : Covers .scalar .null
  | bool (b : Bool) : Covers .scalar (.bool b)
  | nat (n : Nat) : Covers .scalar (.nat n)
  | text (s : String) : Covers .scalar (.text s)
  | list {o : Outline} {items : List Value} (h : ∀ v ∈ items, Covers o v) :
      Covers (.list o) (.list items)
  | record {fields : List (List String × Outline)} {members : List (String × Value)}
      (inner : String × Value → Outline)
      (found : ∀ m ∈ members, (Outline.record fields).member? (some m.1) = some (inner m))
      (h : ∀ m ∈ members, Covers (inner m) m.2) : Covers (.record fields) (.record members)

namespace Outline.Covers

variable {o : Outline}

theorem items {items : List Value} (h : o.Covers (.list items)) :
    ∃ inner, o.items? = some inner ∧ ∀ v ∈ items, inner.Covers v := by
  cases h with
  | whole => exact ⟨.whole, rfl, fun v _ => .whole v⟩
  | @list inner _ h => exact ⟨inner, rfl, h⟩

theorem members {members : List (String × Value)} (h : o.Covers (.record members)) :
    (∃ keys, o.keys? = some keys) ∧
      ∀ m ∈ members, ∃ inner, o.member? (some m.1) = some inner ∧ inner.Covers m.2 := by
  cases h with
  | whole => exact ⟨⟨.whole, rfl⟩, fun m _ => ⟨.whole, rfl, .whole m.2⟩⟩
  | record inner found h => exact ⟨⟨.scalar, rfl⟩, fun m hm => ⟨inner m, found m hm, h m hm⟩⟩

end Outline.Covers

end IsisTestbed
