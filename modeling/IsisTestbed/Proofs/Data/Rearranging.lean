import IsisTestbed.Proofs.Data.Members
import Mathlib.Logic.Relation

/-!
Documents that say the same to a reader. Where a codec reads an object, as a record or as a choice, its
members may come in another order, and members under names that mean nothing to the codec may be
added; this at any depth, wherever a codec leads to another one. Such documents are read with the same
outcome, also once they are set aside, as the parts of choices are.
-/

namespace IsisTestbed

open IsisTestbed.Tree

/-! ### Fields and variants -/

/-- Whether the field at a position of a layout goes by the given names and is read by a codec. -/
inductive Layout.Holds : {β α : Type} → Layout β → Nat → List String → Codec α → Prop where
  | required {α β : Type} (name : String) (c : Codec α) (rest : Layout β) :
      Holds (.required name c rest) 0 [name] c
  | optional {α β : Type} (name : String) (c : Codec α) (rest : Layout β) :
      Holds (.optional name c rest) 0 [name] c
  | nullable {α β : Type} (name : String) (c : Codec α) (rest : Layout β) :
      Holds (.nullable name c rest) 0 [name] c
  | defaulted {α β : Type} (name : String) (aliases : List String) (c : Codec α) (default : α)
      (rest : Layout β) : Holds (.defaulted name aliases c default rest) 0 (name :: aliases) c
  | listed {α β : Type} (name : String) (c : Codec α) (rest : Layout β) :
      Holds (.listed name c rest) 0 [name] c.list
  | later {α β γ : Type} (name : String) (aliases : List String) (mayEnd : Bool)
      (outline : Outline) (write : γ → Option Value) (read : Option Tree → Option γ)
      {rest : Layout β} {i : Nat} {names : List String} {c : Codec α}
      (h : Holds rest i names c) :
      Holds (.field name aliases mayEnd outline write read rest) (i + 1) names c

/-- Whether a variant accepts exactly the given names. -/
inductive Variant.Accepts {α : Type} : Variant α → List String → Prop where
  | ofFields {β : Type} (name : String) (layout : Layout β) (view : α → Option β) (make : β → α) :
      Accepts (.ofFields name layout view make) (fieldNames layout.fields)
  | bare [BEq α] (name : String) (x : α) : Accepts (.bare name x) []

namespace Codec

/-- Whether a tag selects a variant, as it is or once it is set aside. -/
def Selects {α : Type} (variants : List (Variant α)) (tag : Tree) (v : Variant α) : Prop :=
  variant? variants tag = some v ∨
    ∃ held, tag.hold = some held ∧ variant? variants held = some v

/-- Whether members of a record select a variant. -/
def Chooses {α : Type} (variants : List (Variant α)) (members : List (Tree × Tree))
    (v : Variant α) : Prop :=
  ∃ m ∈ members, m.1.hold = some (.held (.text "choice")) ∧ Selects variants m.2 v

/-! ### Rearrangements -/

/-- Whether a codec reads objects by the names of their members. -/
inductive ReadsObjects : {α : Type} → Codec α → Prop where
  | record {α β : Type} (layout : Layout β) (view : α → β) (make : β → α) :
      ReadsObjects (.record layout view make)
  | choice {α : Type} {variants : List (Variant α)}
      (formed : ∀ v ∈ variants, ∃ names, v.Accepts names) : ReadsObjects (.choice variants)

/-- Whether a name means nothing to a codec in an object with the given other members: no field of the
record accepts it, under any of its names. -/
inductive Foreign : {α : Type} → Codec α → List (Tree × Tree) → String → Prop where
  | record {α β : Type} {layout : Layout β} {view : α → β} {make : β → α}
      {members : List (Tree × Tree)} {name : String} (unknown : name ∉ fieldNames layout.fields) :
      Foreign (.record layout view make) members name
  /-- The name is not that of the tag, and the variant that is chosen does not accept it. -/
  | choice {α : Type} {variants : List (Variant α)} {members : List (Tree × Tree)} {name : String}
      (untagged : name ≠ "choice")
      (unknown : ∀ v, Chooses variants members v → ∃ names, v.Accepts names ∧ name ∉ names) :
      Foreign (.choice variants) members name

/-- Whether a codec reads the member under a name, in an object with the given other members, by
another codec. The fields of the object all have names of their own. -/
inductive ReadsMember : {α γ : Type} → Codec α → List (Tree × Tree) → String → Codec γ → Prop where
  | record {α β γ : Type} {layout : Layout β} {view : α → β} {make : β → α}
      {members : List (Tree × Tree)} {i : Nat} {names : List String} {name : String}
      {d : Codec γ} (distinct : (fieldNames layout.fields).Nodup)
      (holds : layout.Holds i names d) (named : name ∈ names) :
      ReadsMember (.record layout view make) members name d
  /-- No other variant is chosen than the one with the field. -/
  | choice {α β γ : Type} {variants : List (Variant α)} {variant : String} {layout : Layout β}
      {view : α → Option β} {make : β → α} {members : List (Tree × Tree)} {i : Nat}
      {names : List String} {name : String} {d : Codec γ}
      (chosen : ∀ v, Chooses variants members v → v = .ofFields variant layout view make)
      (distinct : ("choice" :: fieldNames layout.fields).Nodup)
      (holds : layout.Holds i names d) (named : name ∈ names) :
      ReadsMember (.choice variants) members name d

/-- Whether a codec reads the item behind the given ones in a sequence by another codec. -/
inductive ReadsItem : {α γ : Type} → Codec α → List Tree → Codec γ → Prop where
  | list {α : Type} (c : Codec α) (front : List Tree) : ReadsItem c.list front c
  | record {α β γ : Type} {layout : Layout β} {view : α → β} {make : β → α} {front : List Tree}
      {names : List String} {d : Codec γ} (holds : layout.Holds front.length names d) :
      ReadsItem (.record layout view make) front d
  | choice {α β γ : Type} {variants : List (Variant α)} {variant : String} {layout : Layout β}
      {view : α → Option β} {make : β → α} {tag : Tree} {front : List Tree}
      {names : List String} {d : Codec γ}
      (chosen : ∀ v, Selects variants tag v → v = .ofFields variant layout view make)
      (holds : layout.Holds front.length names d) :
      ReadsItem (.choice variants) (tag :: front) d

end Codec

/-- Parts of a document: scalars, with numbers in range, sequences, and objects with texts as names. A
part that is nested too deeply and a string that denotes no text are none. -/
inductive Tree.IsDocument : Tree → Prop where
  | scalar {v : Scalar} (usable : v ≠ .unusable) : IsDocument (.typed v)
  | array {items : List Tree} (h : ∀ t ∈ items, IsDocument t) : IsDocument (.array items)
  | record {members : List (Tree × Tree)} (names : ∀ m ∈ members, ∃ s, m.1 = .typed (.text s))
      (h : ∀ m ∈ members, IsDocument m.2) : IsDocument (.record members)

/-- One rearrangement of a document that a codec reads: at one place at which an object is read, the
members come in another order, or a foreign member with a document as its value is added. -/
inductive Codec.Rearranges : {α : Type} → Codec α → Tree → Tree → Prop where
  | permute {α : Type} {c : Codec α} {members members' : List (Tree × Tree)}
      (object : c.ReadsObjects) (perm : members.Perm members') :
      Rearranges c (.record members) (.record members')
  | insert {α : Type} {c : Codec α} {front back : List (Tree × Tree)} {name : String} {value : Tree}
      (object : c.ReadsObjects) (foreign : c.Foreign (front ++ back) name)
      (document : value.IsDocument) :
      Rearranges c (.record (front ++ back))
        (.record (front ++ (.typed (.text name), value) :: back))
  | member {α γ : Type} {c : Codec α} {d : Codec γ} {front back : List (Tree × Tree)}
      {name : String} {t t' : Tree} (object : c.ReadsObjects)
      (reads : c.ReadsMember (front ++ back) name d) (inside : Rearranges d t t') :
      Rearranges c (.record (front ++ (.typed (.text name), t) :: back))
        (.record (front ++ (.typed (.text name), t') :: back))
  | item {α γ : Type} {c : Codec α} {d : Codec γ} {front back : List Tree} {t t' : Tree}
      (reads : c.ReadsItem front d) (inside : Rearranges d t t') :
      Rearranges c (.array (front ++ t :: back)) (.array (front ++ t' :: back))

/-! ### Parts that are read alike -/

/-- Whether two sequences or records are read by a codec with the same outcome. -/
structure Codec.Alike {α : Type} (c : Codec α) (t t' : Tree) : Prop where
  compound : t.IsCompound
  compound' : t'.IsCompound
  read : c.read t = c.read t'

/-- Whether two parts are read alike, as they are and once they are set aside. -/
structure Codec.Agree {α : Type} (c : Codec α) (t t' : Tree) : Prop extends c.Alike t t' where
  held : Option.Rel c.Alike t.hold t'.hold

namespace Codec.Agree

variable {α : Type} {c : Codec α} {t t' t'' kept kept' : Tree}

theorem trans (h : c.Agree t t') (h' : c.Agree t' t'') : c.Agree t t'' where
  compound := h.compound
  compound' := h'.compound'
  read := h.read.trans h'.read
  held := by
    have held := h.held
    have held' := h'.held
    generalize t.hold = k, t'.hold = k', t''.hold = k'' at held held' ⊢
    cases held with
    | none => exact held'
    | some alike =>
      cases held' with
      | some alike' => exact .some ⟨alike.compound, alike'.compound', alike.read.trans alike'.read⟩

/-- Parts that agree are both set aside, and agree then too, or none of them can be. -/
theorem aside_or (h : c.Agree t t') : (t.hold = none ∧ t'.hold = none) ∨
    ∃ kept kept', t.hold = some kept ∧ t'.hold = some kept' ∧ c.Agree kept kept' := by
  have held := h.held
  cases keeps : t.hold with
  | none =>
    rw [keeps] at held
    cases keeps' : t'.hold with
    | none => exact .inl ⟨rfl, rfl⟩
    | some kept' =>
      rw [keeps'] at held
      cases held
  | some kept =>
    rw [keeps] at held
    cases keeps' : t'.hold with
    | none =>
      rw [keeps'] at held
      cases held
    | some kept' =>
      rw [keeps'] at held
      cases held with
      | some alike =>
        refine .inr ⟨kept, kept', rfl, rfl, alike, ?_⟩
        rw [hold_of_hold t keeps, hold_of_hold t' keeps']
        exact .some alike

end Codec.Agree

/-! ### Records -/

namespace Layout

/-- What a layout reads from a part. -/
def readFrom {β : Type} (l : Layout β) (t : Tree) : Option β :=
  (t.fieldValues? l.fields).bind l.read

variable {α β : Type} {l : Layout β} {d : Codec α} {i : Nat} {names : List String} {name : String}
  {key t t' : Tree} {members members' : List (Tree × Tree)}

theorem readFrom_of_perm (h : members.Perm members') :
    l.readFrom (.record members) = l.readFrom (.record members') :=
  congrArg (fun values => values.bind l.read) (fieldValues?_of_perm h l.fields)

theorem readFrom_cons_of_not_mem (named : key.IsName name) (foreign : name ∉ fieldNames l.fields)
    (value : Tree) (members : List (Tree × Tree)) :
    l.readFrom (.record ((key, value) :: members)) = l.readFrom (.record members) :=
  congrArg (fun values => values.bind l.read)
    (fieldValues?_cons_of_not_mem named value members foreign)

theorem Holds.exists_field (h : l.Holds i names d) :
    ∃ field, l.fields[i]? = some field ∧ names = field.name :: field.aliases := by
  induction h with
  | required name c rest => exact ⟨_, rfl, rfl⟩
  | optional name c rest => exact ⟨_, rfl, rfl⟩
  | nullable name c rest => exact ⟨_, rfl, rfl⟩
  | defaulted name aliases c default rest => exact ⟨_, rfl, rfl⟩
  | listed name c rest => exact ⟨_, rfl, rfl⟩
  | later name aliases mayEnd outline write read h ih => exact ih

/-- The first field is read apart from the others. -/
theorem read_field_set {α β : Type} {aliases : List String} {mayEnd : Bool} {outline : Outline}
    {write : α → Option Value} {read : Option Tree → Option α} {rest : Layout β}
    (same : read (some t) = read (some t')) (values : List (Option Tree)) :
    (field name aliases mayEnd outline write read rest).read (values.set 0 (some t)) =
      (field name aliases mayEnd outline write read rest).read (values.set 0 (some t')) := by
  cases values with
  | nil => rfl
  | cons v more => simp only [field, List.set_cons_zero, same]

/-- A layout reads its fields one by one, so values of a field that are read alike make no
difference. -/
theorem Holds.read_set (h : l.Holds i names d) (alike : d.Alike t t') (values : List (Option Tree)) :
    l.read (values.set i (some t)) = l.read (values.set i (some t')) := by
  have present {α : Type} {c : Codec α} (alike : c.Alike t t') :
      t.optional? c.read = t'.optional? c.read := by
    rw [alike.compound.optional?_eq, alike.compound'.optional?_eq, alike.read]
  induction h generalizing values with
  | required name c rest => exact read_field_set alike.read values
  | optional name c rest => exact read_field_set (present alike) values
  | nullable name c rest => exact read_field_set (present alike) values
  | defaulted name aliases c default rest => exact read_field_set alike.read values
  | listed name c rest => exact read_field_set alike.read values
  | later name aliases mayEnd outline write read h ih =>
    cases values with
    | nil => rfl
    | cons v more => simp only [Layout.field, List.set_cons_succ, ih alike]

theorem Holds.readFrom_cons (h : l.Holds i names d) (distinct : (fieldNames l.fields).Nodup)
    (listed : name ∈ names) (named : key.IsName name) (alike : d.Alike t t')
    (members : List (Tree × Tree)) :
    l.readFrom (.record ((key, t) :: members)) = l.readFrom (.record ((key, t') :: members)) := by
  obtain ⟨field, found, rfl⟩ := h.exists_field
  rw [readFrom, readFrom, fieldValues?_cons named, fieldValues?_cons named, Option.bind_assoc,
    Option.bind_assoc]
  refine congrArg _ (funext fun keyed => ?_)
  obtain ⟨values, same⟩ := exists_memberValues?_cons found listed distinct keyed 0
  rw [same, same]
  cases values with
  | none => rfl
  | some values => exact h.read_set alike values

theorem Holds.readFrom_middle {front : List Tree} (h : l.Holds front.length names d)
    (alike : d.Alike t t') (back : List Tree) :
    l.readFrom (.array (front ++ t :: back)) = l.readFrom (.array (front ++ t' :: back)) := by
  obtain ⟨values, same⟩ := exists_positionalValues?_middle front back l.fields
  rw [readFrom, readFrom, fieldValues?, fieldValues?, same, same]
  cases values with
  | none => rfl
  | some values => exact h.read_set alike values

end Layout

/-! ### Variants -/

namespace Variant.Accepts

variable {α : Type} {v : Variant α} {names : List String} {name : String} {key : Tree}
  {members members' : List (Tree × Tree)}

theorem read_of_perm (h : v.Accepts names) (perm : members.Perm members') :
    v.read (.record members) = v.read (.record members') := by
  cases h with
  | ofFields _ layout view make =>
    exact congrArg (Option.map make) (Layout.readFrom_of_perm perm)
  | bare _ x => rfl

theorem read_cons_of_not_mem (h : v.Accepts names) (named : key.IsName name)
    (foreign : name ∉ names) (value : Tree) (members : List (Tree × Tree)) :
    v.read (.record ((key, value) :: members)) = v.read (.record members) := by
  cases h with
  | ofFields _ layout view make =>
    exact congrArg (Option.map make)
      (Layout.readFrom_cons_of_not_mem named foreign value members)
  | bare _ x => rfl

end Variant.Accepts

namespace Codec

variable {α γ : Type} {c : Codec α} {d : Codec γ} {variants : List (Variant α)} {v : Variant α}
  {name : String} {key value kept t t' : Tree} {members members' keptMembers : List (Tree × Tree)}
  {front back keptFront : List Tree}

/-! ### The variant once it is set aside -/

theorem Selects.of_aside (keeps : t.hold = some kept) (h : Selects variants kept v) :
    Selects variants t v := by
  rcases h with found | ⟨again, same, found⟩
  · exact .inr ⟨kept, keeps, found⟩
  · rw [hold_of_hold t keeps] at same
    cases same
    exact .inr ⟨kept, keeps, found⟩

theorem Chooses.of_aside (keeps : holdMembers members = some keptMembers)
    (h : Chooses variants keptMembers v) : Chooses variants members v := by
  obtain ⟨k, member, tag, selects⟩ := h
  obtain ⟨m, member', own, content⟩ := exists_of_mem_holdMembers keeps member
  rw [hold_of_hold m.1 own] at tag
  exact ⟨m, member', own.trans tag, selects.of_aside content⟩

/-! ### The order of members -/

theorem ReadsObjects.read_of_perm (h : c.ReadsObjects) (perm : members.Perm members') :
    c.read (.record members) = c.read (.record members') := by
  cases h with
  | record layout view make => exact congrArg (Option.map make) (Layout.readFrom_of_perm perm)
  | choice formed =>
    rw [read_choice_record, read_choice_record]
    refine bind_eq_of_rel (rel_splitMembers?_of_perm perm "choice") fun p p' same => ?_
    rw [same.1]
    cases chosen : variant? _ p'.1 with
    | none => rfl
    | some v =>
      obtain ⟨names, accepts⟩ := formed v (mem_of_variant? chosen)
      exact accepts.read_of_perm same.2

/-- Members in another order are read alike. -/
theorem ReadsObjects.agree (h : c.ReadsObjects) (perm : members.Perm members') :
    c.Agree (.record members) (.record members') := by
  refine ⟨⟨.record _, .record _, h.read_of_perm perm⟩, ?_⟩
  have held := rel_holdMembers_of_perm perm
  rw [hold, hold]
  generalize holdMembers members = k, holdMembers members' = k' at held ⊢
  cases held with
  | none => exact .none
  | some perm => exact .some ⟨.record _, .record _, h.read_of_perm perm⟩

/-! ### Foreign members -/

namespace Foreign

theorem aside (h : c.Foreign members name) (keeps : holdMembers members = some keptMembers) :
    c.Foreign keptMembers name := by
  cases h with
  | record unknown => exact .record unknown
  | choice untagged unknown =>
    exact .choice untagged fun v chooses => unknown v (chooses.of_aside keeps)

theorem read_cons (h : c.Foreign members name) (named : key.IsName name)
    (keeps : value.hold = some kept) :
    c.read (.record ((key, value) :: members)) = c.read (.record members) := by
  cases h with
  | record unknown =>
    exact congrArg (Option.map _) (Layout.readFrom_cons_of_not_mem named unknown value members)
  | @choice variants _ _ untagged unknown =>
    rw [read_choice_record, read_choice_record, splitMembers?_cons named untagged, keeps]
    cases split : splitMembers? "choice" members with
    | none => rfl
    | some p =>
      obtain ⟨m, member, tag, own⟩ := exists_of_splitMembers? split
      simp only [Option.bind_some, Option.map_some]
      cases chosen : variant? variants p.1 with
      | none => rfl
      | some v =>
        obtain ⟨names, accepts, foreign⟩ := unknown v ⟨m, member, tag, .inl (own ▸ chosen)⟩
        exact accepts.read_cons_of_not_mem (.held name) foreign kept p.2

/-- A foreign member in front of the others makes no difference. -/
theorem agree (h : c.Foreign members name) (keeps : value.hold = some kept) :
    c.Agree (.record members) (.record ((.typed (.text name), value) :: members)) := by
  refine ⟨⟨.record _, .record _, (h.read_cons (.typed name) keeps).symm⟩, ?_⟩
  rw [hold, hold, holdMembers_cons, holdMember, (IsName.typed name).hold, keeps]
  cases held : holdMembers members with
  | none => exact .none
  | some keptMembers =>
    exact .some ⟨.record _, .record _,
      ((h.aside held).read_cons (.held name) (hold_of_hold value keeps)).symm⟩

end Foreign

/-! ### Parts of records -/

namespace ReadsMember

theorem aside (h : c.ReadsMember members name d)
    (keeps : holdMembers members = some keptMembers) : c.ReadsMember keptMembers name d := by
  cases h with
  | record distinct holds named => exact .record distinct holds named
  | choice chosen distinct holds named =>
    exact .choice (fun v chooses => chosen v (chooses.of_aside keeps)) distinct holds named

theorem read_cons (h : c.ReadsMember members name d) (named : key.IsName name)
    (agree : d.Agree t t') :
    c.read (.record ((key, t) :: members)) = c.read (.record ((key, t') :: members)) := by
  cases h with
  | record distinct holds listed =>
    exact congrArg (Option.map _)
      (holds.readFrom_cons distinct listed named agree.toAlike members)
  | @choice _ _ variants _ _ _ make _ _ _ _ _ chosen distinct holds listed =>
    obtain ⟨apart, distinct⟩ := List.nodup_cons.mp distinct
    have untagged : name ≠ "choice" := by
      rintro rfl
      obtain ⟨field, found, rfl⟩ := holds.exists_field
      exact apart (List.mem_flatMap.mpr ⟨field, List.mem_of_getElem? found, listed⟩)
    rw [read_choice_record, read_choice_record, splitMembers?_cons named untagged,
      splitMembers?_cons named untagged]
    have held := agree.held
    generalize t.hold = k, t'.hold = k' at held ⊢
    cases held with
    | none => rfl
    | some alike =>
      cases split : splitMembers? "choice" members with
      | none => rfl
      | some p =>
        obtain ⟨m, member, tag, own⟩ := exists_of_splitMembers? split
        simp only [Option.bind_some, Option.map_some]
        cases selected : variant? variants p.1 with
        | none => rfl
        | some v =>
          obtain rfl := chosen v ⟨m, member, tag, .inl (own ▸ selected)⟩
          exact congrArg (Option.map make)
            (holds.readFrom_cons distinct listed (.held name) alike p.2)

/-- A part of the first member that is read alike makes no difference. -/
theorem agree (h : c.ReadsMember members name d) (agree : d.Agree t t') :
    c.Agree (.record ((.typed (.text name), t) :: members))
      (.record ((.typed (.text name), t') :: members)) := by
  refine ⟨⟨.record _, .record _, h.read_cons (.typed name) agree⟩, ?_⟩
  rw [hold, hold, holdMembers_cons, holdMembers_cons, holdMember, holdMember,
    (IsName.typed name).hold]
  rcases agree.aside_or with ⟨gone, gone'⟩ | ⟨kept, kept', keeps, keeps', alike⟩
  · rw [gone, gone']
    exact .none
  · rw [keeps, keeps']
    cases keepsMembers : holdMembers members with
    | none => exact .none
    | some keptMembers =>
      exact .some ⟨.record _, .record _, (h.aside keepsMembers).read_cons (.held name) alike⟩

end ReadsMember

/-! ### Parts of sequences -/

namespace ReadsItem

theorem aside (h : c.ReadsItem front d) (keeps : holdItems front = some keptFront) :
    c.ReadsItem keptFront d := by
  cases h with
  | list => exact .list _ _
  | record holds => exact .record ((length_of_holdItems keeps).symm ▸ holds)
  | choice chosen holds =>
    rw [holdItems_cons, Option.bind_eq_some_iff] at keeps
    obtain ⟨keptTag, tag, keeps⟩ := keeps
    obtain ⟨more, keepsMore, rfl⟩ := Option.map_eq_some_iff.mp keeps
    exact .choice (fun v selects => chosen v (selects.of_aside tag))
      ((length_of_holdItems keepsMore).symm ▸ holds)

theorem read_middle (h : c.ReadsItem front d) (agree : d.Agree t t') (back : List Tree) :
    c.read (.array (front ++ t :: back)) = c.read (.array (front ++ t' :: back)) := by
  cases h with
  | list =>
    have read (t : Tree) : (d.list).read (.array (front ++ t :: back)) =
        (front ++ t :: back).mapM d.read := rfl
    rw [read, read, List.mapM_append, List.mapM_append, List.mapM_cons, List.mapM_cons, agree.read]
  | record holds =>
    exact congrArg (Option.map _) (holds.readFrom_middle agree.toAlike back)
  | @choice _ _ _ variants _ _ _ make tag front _ _ chosen holds =>
    rw [List.cons_append, List.cons_append, read_choice_array, read_choice_array,
      holdItems_middle, holdItems_middle]
    cases keeps : holdItems front with
    | none => rfl
    | some before =>
      have held := agree.held
      generalize t.hold = k, t'.hold = k' at held ⊢
      cases held with
      | none => rfl
      | some alike =>
        cases holdItems back with
        | none => rfl
        | some behind =>
          simp only [Option.bind_some, Option.map_some]
          cases selected : variant? variants tag with
          | none => rfl
          | some v =>
            obtain rfl := chosen v (.inl selected)
            rw [← length_of_holdItems keeps] at holds
            exact congrArg (Option.map make) (holds.readFrom_middle alike behind)

/-- An item of a sequence that is read alike makes no difference. -/
theorem agree (h : c.ReadsItem front d) (agree : d.Agree t t') (back : List Tree) :
    c.Agree (.array (front ++ t :: back)) (.array (front ++ t' :: back)) := by
  refine ⟨⟨.array _, .array _, h.read_middle agree back⟩, ?_⟩
  rw [hold, hold, holdItems_middle, holdItems_middle]
  cases keepsFront : holdItems front with
  | none => exact .none
  | some before =>
    rcases agree.aside_or with ⟨gone, gone'⟩ | ⟨kept, kept', keeps, keeps', alike⟩
    · rw [gone, gone']
      exact .none
    · rw [keeps, keeps']
      cases holdItems back with
      | none => exact .none
      | some behind =>
        exact .some ⟨.array _, .array _, (h.aside keepsFront).read_middle alike behind⟩

end ReadsItem

/-! ### Rearranged documents -/

end Codec

theorem Tree.IsDocument.exists_hold {t : Tree} (h : t.IsDocument) : ∃ kept, t.hold = some kept := by
  induction h with
  | @scalar v usable =>
    cases v with
    | unusable => exact absurd rfl usable
    | null => exact ⟨_, rfl⟩
    | bool b => exact ⟨_, rfl⟩
    | nat n => exact ⟨_, rfl⟩
    | negative n => exact ⟨_, rfl⟩
    | float x => exact ⟨_, rfl⟩
    | text s => exact ⟨_, rfl⟩
  | array _ ih =>
    obtain ⟨kept, keeps⟩ := exists_mapM ih
    exact ⟨.array kept, by rw [hold, holdItems_eq_mapM, keeps]; rfl⟩
  | @record members names _ ih =>
    have each : ∀ m ∈ members, ∃ kept, holdMember m = some kept := by
      intro m member
      obtain ⟨s, named⟩ := names m member
      obtain ⟨kept, keeps⟩ := ih m member
      exact ⟨(.held (.text s), kept), by rw [holdMember, named, keeps]; rfl⟩
    obtain ⟨kept, keeps⟩ := exists_mapM each
    exact ⟨.record kept, by rw [hold, holdMembers_eq_mapM, keeps]; rfl⟩

namespace Codec.Rearranges

variable {α : Type} {c : Codec α} {t t' : Tree}

/-- One rearrangement makes no difference. The induction follows the parts down to the object that
changes; to get there, a member is moved to the front of its object. -/
theorem agree (h : c.Rearranges t t') : c.Agree t t' := by
  induction h with
  | permute object perm => exact object.agree perm
  | insert object foreign document =>
    obtain ⟨kept, keeps⟩ := document.exists_hold
    exact (foreign.agree keeps).trans (object.agree List.perm_middle.symm)
  | member object reads inside ih =>
    exact (object.agree List.perm_middle).trans
      ((reads.agree ih).trans (object.agree List.perm_middle.symm))
  | item reads inside ih => exact reads.agree ih _

end Codec.Rearranges

/-- Any number of rearrangements make no difference to what is read. -/
theorem Codec.read_of_rearranges {α : Type} {c : Codec α} {t t' : Tree}
    (h : Relation.ReflTransGen c.Rearranges t t') : c.read t = c.read t' := by
  induction h with
  | refl => rfl
  | tail _ step ih => exact ih.trans step.agree.read

end IsisTestbed
