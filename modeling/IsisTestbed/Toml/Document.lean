import IsisTestbed.Toml.Number

/-!
TOML documents as trees. A document is a list of sections, each with its own members; `sectionTree?`
puts them together along the names in their headers.
-/

namespace IsisTestbed.Toml

/-- The value of a key. A key with dots makes tables that further keys may extend. -/
inductive Entry where
  | value (t : Tree)
  | dotted (members : List (String × Entry))
  deriving Inhabited, Repr

mutual

/-- The tree of a value. -/
def Entry.toTree : Entry → Tree
  | .value t => t
  | .dotted members => .record (membersTree members)

/-- The members of a record. -/
def membersTree : List (String × Entry) → List (Tree × Tree)
  | [] => []
  | (name, e) :: rest => (.typed (.text name), e.toTree) :: membersTree rest

end

/-- The members with a value added under a key with dots. Only tables that such keys have made can
be extended; a key without dots is added even if it is there. -/
def addEntry (members : List (String × Entry)) (t : Tree) :
    List String → Option (List (String × Entry))
  | [] => none
  | [name] => some (members ++ [(name, .value t)])
  | name :: rest =>
    match members.find? fun m => m.1 == name with
    | none => do some (members ++ [(name, .dotted (← addEntry [] t rest))])
    | some (_, .value _) => none
    | some (_, .dotted inner) => do
      let extended ← addEntry inner t rest
      let before := members.takeWhile fun m => m.1 != name
      let behind := (members.dropWhile fun m => m.1 != name).tail
      some (before ++ (name, .dotted extended) :: behind)

/-! ### Keys -/

/-- The tokens without blanks at their front. -/
def skipBlank : List Token → List Token
  | .blank _ :: rest => rest
  | ts => ts

/-- One part of a key. -/
def keyPart? : List Token → Option (String × List Token)
  | .word s :: rest => some (s, rest)
  | .string false s :: rest => some (s, rest)
  | _ => none

/-- The parts of a key behind the first one, and the tokens behind them. -/
def keyParts? : Nat → List Token → Option (List String × List Token)
  | 0, _ => none
  | bound + 1, ts =>
    match skipBlank ts with
    | .period :: rest => do
      let (part, rest) ← keyPart? (skipBlank rest)
      let (parts, rest) ← keyParts? bound rest
      some (part :: parts, rest)
    | rest => some ([], rest)

/-- A key with its dots, and the tokens behind it and blanks. -/
def key? (ts : List Token) : Option (List String × List Token) := do
  let (part, rest) ← keyPart? ts
  let (parts, rest) ← keyParts? ts.length rest
  some (part :: parts, rest)

/-- The tokens behind an equals sign and blanks. -/
def skipEquals? : List Token → Option (List Token)
  | .equals :: rest => some (skipBlank rest)
  | _ => none

/-! ### Values -/

/-- The tokens behind blanks, comments and line ends. A comment goes up to the end of its line. -/
def skipLines? : List Token → Option (List Token)
  | .blank _ :: rest => skipLines? rest
  | .newline :: rest => skipLines? rest
  | .comment :: .newline :: rest => skipLines? rest
  | [.comment] => some []
  | .comment :: _ => none
  | ts => some ts

mutual

/-- A value and the tokens behind it. -/
def value? : Nat → List Token → Option (Tree × List Token)
  | 0, _ => none
  | bound + 1, ts =>
    match ts with
    | .string _ s :: rest => some (.typed (.text s), rest)
    | .word "true" :: rest => some (.typed (.bool true), rest)
    | .word "false" :: rest => some (.typed (.bool false), rest)
    | .word s :: rest =>
      let starts := s.toList.head?.any fun c => c == '-' || c.isDigit
      if s = "inf" ∨ s = "nan" ∨ starts then numberOrDate? s rest else none
    | .plus :: .word s :: rest => number? s rest
    | .openBrace :: rest =>
      match skipBlank rest with
      | .closeBrace :: rest => some (.record [], rest)
      | rest => do
        let (members, rest) ← members? bound [] rest
        some (.record (membersTree members), rest)
    | .openBracket :: rest => do
      let (items, rest) ← items? bound rest
      some (.array items, rest)
    | _ => none

/-- The items of an array up to its end, and the tokens behind it. -/
def items? : Nat → List Token → Option (List Tree × List Token)
  | 0, _ => none
  | bound + 1, ts => do
    match ← skipLines? ts with
    | .closeBracket :: rest => some ([], rest)
    | ts => do
      let (t, rest) ← value? bound ts
      match ← skipLines? rest with
      | .comma :: rest => do
        let (items, rest) ← items? bound rest
        some (t :: items, rest)
      | .closeBracket :: rest => some ([t], rest)
      | _ => none

/-- The members of a table in braces up to its end, and the tokens behind it. -/
def members? : Nat → List (String × Entry) → List Token →
    Option (List (String × Entry) × List Token)
  | 0, _, _ => none
  | bound + 1, members, ts => do
    let (parts, rest) ← key? ts
    let (t, rest) ← value? bound (← skipEquals? rest)
    let members ← addEntry members t parts
    match skipBlank rest with
    | .closeBrace :: rest => some (members, rest)
    | .comma :: rest => members? bound members (skipBlank rest)
    | _ => none

end

/-! ### Sections -/

/-- A section: the names in its header, whether it is an item of an array, and its members. -/
structure Section where
  header : List String
  isItem : Bool
  members : List (String × Entry)
  deriving Inhabited, Repr

/-- The tokens behind the end of a line, and a comment in front of it. -/
def skipLineEnd? (ts : List Token) : Option (List Token) :=
  match skipBlank ts with
  | [] => some []
  | .newline :: rest => some rest
  | [.comment] => some []
  | .comment :: .newline :: rest => some rest
  | _ => none

/-- The header of a section behind its first bracket, and the tokens behind its line. -/
def header? (ts : List Token) : Option (Section × List Token) := do
  let (isItem, ts) := match ts with
    | .openBracket :: rest => (true, rest)
    | _ => (false, ts)
  let (header, rest) ← key? (skipBlank ts)
  match isItem, rest with
  | true, .closeBracket :: .closeBracket :: rest =>
    some (⟨header, isItem, []⟩, ← skipLineEnd? rest)
  | false, .closeBracket :: rest => some (⟨header, isItem, []⟩, ← skipLineEnd? rest)
  | _, _ => none

/-- The sections of a document in order, from the current one on. -/
def sections? : Nat → Section → List Token → Option (List Section)
  | 0, _, _ => none
  | bound + 1, current, ts => do
    match ← skipLines? ts with
    | [] => some [current]
    | .openBracket :: rest => do
      let (next, rest) ← header? rest
      some (current :: (← sections? bound next rest))
    | ts => do
      let (parts, rest) ← key? ts
      let (t, rest) ← value? (2 * ts.length + 2) (← skipEquals? rest)
      let members ← addEntry current.members t parts
      sections? bound { current with members } (← skipLineEnd? rest)

/-- The name of a section at a depth of its header. -/
def nameAt (depth : Nat) (s : Section) : String :=
  s.header[depth]?.getD ""

/-- The names of sections at a depth, each once. -/
def namesAt (depth : Nat) (sections : List Section) : List String :=
  (sections.map (nameAt depth)).eraseDups

/-- Sections cut in front of each item of an array whose headers have a depth; what comes before
the first item is left out. -/
def cutItems (depth : Nat) : List Section → List (List Section)
  | [] => []
  | s :: rest =>
    if s.isItem && s.header.length == depth then
      (s :: rest.takeWhile fun r => !(r.isItem && r.header.length == depth)) :: cutItems depth rest
    else cutItems depth rest

/-- The members that sections make together, given that their headers agree up to a depth. At most
one of them ends there, and that one is not an item. -/
def sectionMembers? : Nat → Nat → List Section → Option (List (Tree × Tree))
  | 0, _, _ => none
  | bound + 1, depth, sections => do
    let own ← match sections.filter fun s => s.header.length == depth with
      | [] => some []
      | [s] => if s.isItem then none else some (membersTree s.members)
      | _ => none
    let deeper := sections.filter fun s => depth < s.header.length
    let nested ← (namesAt depth deeper).mapM fun name => do
      let group := deeper.filter fun s => nameAt depth s == name
      let isArray := group.head?.any fun s => s.isItem && s.header.length == depth + 1
      let t ←
        if isArray then do
          let items ← (cutItems (depth + 1) group).mapM fun item =>
            match item with
            | [] => none
            | first :: rest => do
              let first := { first with isItem := false }
              let members ← sectionMembers? bound (depth + 1) (first :: rest)
              some (Tree.record members)
          some (Tree.array items)
        else do some (Tree.record (← sectionMembers? bound (depth + 1) group))
      some (Tree.typed (.text name), t)
    some (own ++ nested)

/-- The document that a text denotes. -/
def parse? (text : String) : Option Tree := do
  let tokens ← tokens? text
  let sections ← sections? (tokens.length + 1) ⟨[], false, []⟩ tokens
  let depth := (sections.map fun s => s.header.length).foldl max 0
  some (.record (← sectionMembers? (depth + 1) 0 sections))

end IsisTestbed.Toml
