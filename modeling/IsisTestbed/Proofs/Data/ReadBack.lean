import IsisTestbed.Data.Codec
import IsisTestbed.Proofs.Data.Spelling
import Mathlib.Data.List.Nodup

/-!
Codecs whose readers take back what their writers give. `Codec.ReadsBack` says this of one object;
there is one lemma for each way to put codecs together, so that a codec takes back an object as soon
as the codecs of its parts take back the parts.
-/

namespace IsisTestbed

namespace Codec

/-- Whether an object is read from a document that spells what is written for it. What is written
is plain, it is never the mark of an absent part, and the reader looks at all of it. -/
structure ReadsBack {α : Type} (c : Codec α) (sp : Spelling) (depth : Nat) (x : α) : Prop where
  plain : (c.write x).Plain depth
  present : c.write x ≠ .null
  covered : c.outline.Covers (c.write x)
  read : c.read ((c.write x).tree sp) = some x

/-- The bound on the depth may be raised. -/
theorem ReadsBack.mono {α : Type} {c : Codec α} {sp : Spelling} {m n : Nat} {x : α}
    (h : c.ReadsBack sp m x) (bound : m ≤ n) : c.ReadsBack sp n x :=
  ⟨h.plain.mono bound, h.present, h.covered, h.read⟩

/-! ### Scalars -/

variable {sp : Spelling} {depth : Nat}

theorem text_readsBack (s : String) : text.ReadsBack sp depth s where
  plain := .text s
  present := nofun
  covered := .text s
  read := sp.text s

theorem bool_readsBack (b : Bool) : bool.ReadsBack sp depth b where
  plain := .bool b
  present := nofun
  covered := .bool b
  read := sp.bool b

/-- Numbers of a fixed width, which are written as naturals below a bound. -/
theorem via_natBelow_readsBack {α : Type} {bound : Nat} {view : α → Nat} {make : Nat → Option α}
    {x : α} (hbound : bound ≤ UInt64.size) (hview : view x < bound)
    (hmake : make (view x) = some x) :
    ((natBelow bound).via view make).ReadsBack sp depth x where
  plain := .nat (by omega)
  present := nofun
  covered := .nat _
  read := by simp [via, natBelow, Value.tree, sp.nat, hview, hmake, Option.filter]

theorem uint8_readsBack (n : UInt8) : uint8.ReadsBack sp depth n :=
  via_natBelow_readsBack (by decide) n.toNat_lt (by simp)

theorem uint16_readsBack (n : UInt16) : uint16.ReadsBack sp depth n :=
  via_natBelow_readsBack (by decide) n.toNat_lt (by simp)

theorem uint32_readsBack (n : UInt32) : uint32.ReadsBack sp depth n :=
  via_natBelow_readsBack (by decide) n.toNat_lt (by simp)

theorem uint64_readsBack (n : UInt64) : uint64.ReadsBack sp depth n :=
  via_natBelow_readsBack (by decide) n.toNat_lt (by simp)

/-- A constant is read back if its name, the first one of its value, is not the name of another
constant before it. -/
theorem constants_readsBack {α : Type} [BEq α] {names : List (String × α)} {x : α} {name : String}
    {sp : DirectSpelling}
    (named : (names.find? fun c => c.2 == x) = some (name, x))
    (denotes : (names.find? fun c => c.1 == name) = some (name, x)) :
    (constants names).ReadsBack sp depth x where
  plain := .text _
  present := nofun
  covered := .text _
  read := by simp [constants, named, Value.tree, sp.constant, denotes]

/-! ### Sequences -/

theorem mapM_read {α : Type} {c : Codec α} {xs : List α}
    (h : ∀ x ∈ xs, c.ReadsBack sp depth x) :
    (Value.treeItems sp (xs.map c.write)).mapM c.read = some xs := by
  induction xs with
  | nil => rfl
  | cons x rest ih =>
    have first := (h x (by simp)).read
    have later := ih fun y hy => h y (List.mem_cons_of_mem _ hy)
    simp [Value.treeItems, first, later]

/-- A sequence is read back if its items are. -/
theorem list_readsBack {α : Type} {c : Codec α} {xs : List α}
    (h : ∀ x ∈ xs, c.ReadsBack sp depth x) : c.list.ReadsBack sp (depth + 1) xs where
  plain := by
    apply Value.Plain.list
    intro v hv
    obtain ⟨x, hx, rfl⟩ := List.mem_map.mp hv
    exact (h x hx).plain
  present := nofun
  covered := by
    apply Outline.Covers.list
    intro v hv
    obtain ⟨x, hx, rfl⟩ := List.mem_map.mp hv
    exact (h x hx).covered
  read := by
    have items := sp.items (Value.treeItems sp (xs.map c.write))
    simp only [list, Tree.list?, Value.tree, items, Option.bind_some, mapM_read h]

end Codec

/-! ### Members of records -/

/-- Whether fields that may each have a value are written as the given members: in their order, and
without those that have none. All of a value is looked at. -/
inductive Written : List Tree.Field → List (String × Value) → List (Option Value) → Prop where
  | nil : Written [] [] []
  | present {fields : List Tree.Field} {members : List (String × Value)}
      {values : List (Option Value)} (field : Tree.Field) (v : Value)
      (covered : field.outline.Covers v) (rest : Written fields members values) :
      Written (field :: fields) ((field.name, v) :: members) (some v :: values)
  | absent {fields : List Tree.Field} {members : List (String × Value)}
      {values : List (Option Value)} (field : Tree.Field)
      (rest : Written fields members values) :
      Written (field :: fields) members (none :: values)

/-- All names under which fields are accepted. -/
def fieldNames (fields : List Tree.Field) : List String :=
  fields.flatMap fun f => f.name :: f.aliases

theorem Written.mem_fieldNames {fields : List Tree.Field} {members : List (String × Value)}
    {values : List (Option Value)} (h : Written fields members values) {m : String × Value}
    (hm : m ∈ members) : m.1 ∈ fieldNames fields := by
  induction h with
  | nil => exact absurd hm List.not_mem_nil
  | present field v covered rest ih =>
    rcases List.mem_cons.mp hm with rfl | later
    · simp [fieldNames]
    · exact List.mem_append_right _ (ih later)
  | absent field rest ih => exact List.mem_append_right _ (ih hm)

theorem Written.mem_values {fields : List Tree.Field} {members : List (String × Value)}
    {values : List (Option Value)} (h : Written fields members values) {m : String × Value}
    (hm : m ∈ members) : some m.2 ∈ values := by
  induction h with
  | nil => exact absurd hm List.not_mem_nil
  | present field v covered rest ih =>
    rcases List.mem_cons.mp hm with rfl | later
    · exact List.mem_cons_self
    · exact List.mem_cons_of_mem _ (ih later)
  | absent field rest ih => exact List.mem_cons_of_mem _ (ih hm)

/-- Names that a record may give to its members. -/
def AreNames (names : List String) : Prop :=
  names.Nodup ∧ ∀ name ∈ names, Value.isFieldName name = true

instance (names : List String) : Decidable (AreNames names) :=
  inferInstanceAs (Decidable (_ ∧ _))

/-- What is looked at of a record with the given fields. -/
def fieldOutline (fields : List Tree.Field) : Outline :=
  .record (fields.map fun f => (f.name :: f.aliases, f.outline))

theorem member?_cons_of_not_mem {field : Tree.Field} {name : String}
    (h : name ∉ field.name :: field.aliases) (fields : List Tree.Field) :
    (fieldOutline (field :: fields)).member? (some name) =
      (fieldOutline fields).member? (some name) := by
  have other : (field.name :: field.aliases).contains name = false := by simpa using h
  simp only [fieldOutline, Outline.member?, List.map_cons, Option.bind_some, List.find?_cons, other]

/-- The value of each member is looked at as its field has it. -/
theorem Written.exists_member? {fields : List Tree.Field} {members : List (String × Value)}
    {values : List (Option Value)} (h : Written fields members values)
    (distinct : (fieldNames fields).Nodup) {m : String × Value} (hm : m ∈ members) :
    ∃ o, (fieldOutline fields).member? (some m.1) = some o ∧ o.Covers m.2 := by
  induction h with
  | nil => exact absurd hm List.not_mem_nil
  | @present fields members values field v covered rest ih =>
    obtain ⟨own, later, apart⟩ := List.nodup_append.mp distinct
    rcases List.mem_cons.mp hm with rfl | hm
    · exact ⟨field.outline, by simp [fieldOutline, Outline.member?], covered⟩
    · have away : m.1 ∉ field.name :: field.aliases :=
        fun accepted => apart m.1 accepted m.1 (rest.mem_fieldNames hm) rfl
      rw [member?_cons_of_not_mem away]
      exact ih later hm
  | @absent fields members values field rest ih =>
    obtain ⟨own, later, apart⟩ := List.nodup_append.mp distinct
    have away : m.1 ∉ field.name :: field.aliases :=
      fun accepted => apart m.1 accepted m.1 (rest.mem_fieldNames hm) rfl
    rw [member?_cons_of_not_mem away]
    exact ih later hm

theorem Written.covers {fields : List Tree.Field} {members : List (String × Value)}
    {values : List (Option Value)} (h : Written fields members values)
    (distinct : (fieldNames fields).Nodup) : (fieldOutline fields).Covers (.record members) := by
  have seen : ∀ m : String × Value, ∃ o, m ∈ members →
      (fieldOutline fields).member? (some m.1) = some o ∧ o.Covers m.2 := by
    intro m
    by_cases hm : m ∈ members
    · obtain ⟨o, found⟩ := h.exists_member? distinct hm
      exact ⟨o, fun _ => found⟩
    · exact ⟨.whole, fun member => absurd member hm⟩
  choose inner found using seen
  exact .record inner (fun m hm => (found m hm).1) fun m hm => (found m hm).2

/-- Members as they refer to fields. -/
def keyed (sp : Spelling) (members : List (String × Value)) : List (Tree.Key × Tree) :=
  members.map fun m => (.name m.1, m.2.tree sp)

/-- A member under a name that a field does not accept does not matter to the field. -/
theorem memberValue?_cons_of_not_mem {name : String} {t : Tree} {field : Tree.Field}
    (h : name ∉ field.name :: field.aliases) (members : List (Tree.Key × Tree)) (index : Nat) :
    Tree.memberValue? ((.name name, t) :: members) index field =
      Tree.memberValue? members index field := by
  have other : Tree.Key.refersTo index field (.name name) = false := by
    simpa [Tree.Key.refersTo] using h
  simp [Tree.memberValue?, other]

theorem memberValues?_cons_of_not_mem {name : String} {t : Tree} {fields : List Tree.Field}
    (h : name ∉ fieldNames fields) (members : List (Tree.Key × Tree)) (index : Nat) :
    Tree.memberValues? ((.name name, t) :: members) index fields =
      Tree.memberValues? members index fields := by
  induction fields generalizing index with
  | nil => rfl
  | cons field rest ih =>
    obtain ⟨own, later⟩ := not_or.mp (mt List.mem_append.mpr h)
    rw [Tree.memberValues?, Tree.memberValues?, memberValue?_cons_of_not_mem own, ih later]

/-- No member refers to a field that accepts none of their names. -/
theorem filter_keyed_eq_nil {field : Tree.Field} {members : List (String × Value)}
    (h : ∀ m ∈ members, m.1 ∉ field.name :: field.aliases) (sp : Spelling) (index : Nat) :
    (keyed sp members).filter (fun m => m.1.refersTo index field) = [] := by
  apply List.filter_eq_nil_iff.mpr
  intro k hk
  obtain ⟨m, hm, rfl⟩ := List.mem_map.mp hk
  simpa [Tree.Key.refersTo] using h m hm

/-- Fields with distinct names get the values that they were written with. -/
theorem memberValues?_keyed {fields : List Tree.Field} {members : List (String × Value)}
    {values : List (Option Value)} (h : Written fields members values)
    (distinct : (fieldNames fields).Nodup) (sp : Spelling) (index : Nat) :
    Tree.memberValues? (keyed sp members) index fields =
      some (values.map (Option.map (Value.tree sp))) := by
  induction h generalizing index with
  | nil => rfl
  | @present fields members values field v covered rest ih =>
    obtain ⟨own, later, apart⟩ := List.nodup_append.mp distinct
    have away : field.name ∉ fieldNames fields :=
      fun again => apart field.name (by simp) field.name again rfl
    have others := filter_keyed_eq_nil
      (fun m hm accepted => apart m.1 accepted m.1 (rest.mem_fieldNames hm) rfl) sp index
    have accepted : Tree.Key.refersTo index field (.name field.name) = true := by
      simp [Tree.Key.refersTo]
    have given : Tree.memberValue? ((.name field.name, v.tree sp) :: keyed sp members) index
        field = some (some (v.tree sp)) := by
      simp [Tree.memberValue?, accepted, others]
    have shape : keyed sp ((field.name, v) :: members) =
        (.name field.name, v.tree sp) :: keyed sp members := rfl
    rw [Tree.memberValues?, shape, given, memberValues?_cons_of_not_mem away, ih later]
    rfl
  | @absent fields members values field rest ih =>
    obtain ⟨own, later, apart⟩ := List.nodup_append.mp distinct
    have others := filter_keyed_eq_nil
      (fun m hm accepted => apart m.1 accepted m.1 (rest.mem_fieldNames hm) rfl) sp index
    have missing : Tree.memberValue? (keyed sp members) index field = some none := by
      simp [Tree.memberValue?, others]
    rw [Tree.memberValues?, missing, ih later]
    rfl

/-- The members of a record refer to fields by their names. -/
theorem mapM_key?_treeFields (sp : Spelling) (members : List (String × Value)) :
    (Value.treeFields sp members).mapM (fun m => (Tree.key? m.1).map fun k => (k, m.2)) =
      some (keyed sp members) := by
  induction members with
  | nil => rfl
  | cons m rest ih => simp [Value.treeFields, sp.key, ih, keyed]

/-- The record that spells members gives them to the fields. -/
theorem fieldValues?_record {fields : List Tree.Field} {members : List (String × Value)}
    {values : List (Option Value)} (h : Written fields members values)
    (distinct : (fieldNames fields).Nodup) (sp : Spelling) :
    Tree.fieldValues? fields (.record (Value.treeFields sp members)) =
      some (values.map (Option.map (Value.tree sp))) := by
  simp [Tree.fieldValues?, mapM_key?_treeFields, memberValues?_keyed h distinct]

/-! ### Layouts -/

namespace Layout

/-- Whether the values of the fields of a record are read from the documents that spell what is
written for them. -/
def ReadsBack {β : Type} (l : Layout β) (sp : Spelling) (depth : Nat) (x : β) : Prop :=
  ∃ values, Written l.fields (l.write x) values ∧ (∀ v, some v ∈ values → v.Plain depth) ∧
    l.read (values.map (Option.map (Value.tree sp))) = some x

variable {α β : Type} {sp : Spelling} {depth : Nat} {name : String} {c : Codec α}
  {rest : Layout β} {b : β}

theorem nil_readsBack : nil.ReadsBack sp depth () :=
  ⟨[], .nil, by simp, rfl⟩

/-- A field that is written, in front of others. -/
theorem field_readsBack_of_some {aliases : List String} {mayEnd : Bool} {outline : Outline}
    {write : α → Option Value} {read : Option Tree → Option α} {a : α} {v : Value}
    (written : write a = some v) (plain : v.Plain depth) (covered : outline.Covers v)
    (taken : read (some (v.tree sp)) = some a) (h : rest.ReadsBack sp depth b) :
    (field name aliases mayEnd outline write read rest).ReadsBack sp depth (a, b) := by
  obtain ⟨values, members, others, more⟩ := h
  refine ⟨some v :: values, ?_, ?_, ?_⟩
  · simp only [field, written]
    exact .present ⟨name, aliases, mayEnd, outline⟩ v covered members
  · intro w hw
    rcases List.mem_cons.mp hw with same | later
    · rw [Option.some.inj same]
      exact plain
    · exact others w later
  · simp [field, taken, more]

/-- A field that is left out, in front of others. -/
theorem field_readsBack_of_none {aliases : List String} {mayEnd : Bool} {outline : Outline}
    {write : α → Option Value} {read : Option Tree → Option α} {a : α}
    (written : write a = none) (taken : read none = some a) (h : rest.ReadsBack sp depth b) :
    (field name aliases mayEnd outline write read rest).ReadsBack sp depth (a, b) := by
  obtain ⟨values, members, others, more⟩ := h
  refine ⟨none :: values, ?_, ?_, ?_⟩
  · simp only [field, written]
    exact .absent ⟨name, aliases, mayEnd, outline⟩ members
  · intro w hw
    rcases List.mem_cons.mp hw with same | later
    · exact absurd same (by simp)
    · exact others w later
  · simp [field, taken, more]

theorem required_readsBack {a : α} (ha : c.ReadsBack sp depth a)
    (h : rest.ReadsBack sp depth b) :
    (required name c rest).ReadsBack sp depth (a, b) :=
  field_readsBack_of_some rfl ha.plain ha.covered ha.read h

theorem defaulted_readsBack {aliases : List String} {default a : α}
    (ha : c.ReadsBack sp depth a) (h : rest.ReadsBack sp depth b) :
    (defaulted name aliases c default rest).ReadsBack sp depth (a, b) :=
  field_readsBack_of_some rfl ha.plain ha.covered ha.read h

/-- What is written for a part that is present is not taken for an absent part. -/
theorem optional?_tree {a : α} (ha : c.ReadsBack sp depth a) :
    ((c.write a).tree sp).optional? c.read = some (some a) := by
  have read := ha.read
  have present := ha.present
  generalize c.write a = v at read present
  cases v with
  | null => exact absurd rfl present
  | list items => exact (sp.presentItems c.read _).trans (congrArg (Option.map some) read)
  | record fields => exact congrArg (Option.map some) read
  | bool b => exact (sp.present c.read (.bool b) nofun).trans (congrArg (Option.map some) read)
  | nat n => exact (sp.present c.read (.nat n) nofun).trans (congrArg (Option.map some) read)
  | float x => exact (sp.present c.read (.float x) nofun).trans (congrArg (Option.map some) read)
  | text s => exact (sp.present c.read (.text s) nofun).trans (congrArg (Option.map some) read)

theorem optional_readsBack {a : Option α} (ha : ∀ x ∈ a, c.ReadsBack sp depth x)
    (h : rest.ReadsBack sp depth b) :
    (optional name c rest).ReadsBack sp depth (a, b) := by
  cases a with
  | none => exact field_readsBack_of_none rfl rfl h
  | some x =>
    have hx := ha x rfl
    exact field_readsBack_of_some rfl hx.plain hx.covered (optional?_tree hx) h

theorem listed_readsBack {xs : List α} (hx : c.list.ReadsBack sp depth xs)
    (h : rest.ReadsBack sp depth b) :
    (listed name c rest).ReadsBack sp depth (xs, b) := by
  cases xs with
  | nil => exact field_readsBack_of_none rfl rfl h
  | cons x more => exact field_readsBack_of_some rfl hx.plain hx.covered hx.read h

end Layout

namespace Codec

/-- A record is read back if its fields are, and they have proper names. -/
theorem record_readsBack {α β : Type} {layout : Layout β} {view : α → β} {make : β → α}
    {sp : Spelling} {depth : Nat} {x : α} (h : layout.ReadsBack sp depth (view x))
    (names : AreNames (fieldNames layout.fields)) (same : make (view x) = x) :
    (record layout view make).ReadsBack sp (depth + 1) x := by
  obtain ⟨values, members, plain, read⟩ := h
  refine ⟨.record (fun m hm => names.2 m.1 (members.mem_fieldNames hm))
    fun m hm => plain m.2 (members.mem_values hm), nofun, members.covers names.1, ?_⟩
  simp [record, Value.tree, fieldValues?_record members names.1, read, same]

/-! ### Choices -/

/-- Members whose keys are set aside. -/
def keysAside (sp : Spelling) (members : List (String × Value)) : List (Tree × Tree) :=
  members.map fun m => (.held (.text m.1), m.2.tree sp)

theorem mapM_hold_treeFields (sp : Spelling) (members : List (String × Value)) :
    (Value.treeFields sp members).mapM (fun m => m.1.hold.map fun key => (key, m.2)) =
      some (keysAside sp members) := by
  have key (name : String) : (sp.scalar (.text name)).hold = some (.held (.text name)) :=
    sp.hold _ (by simp)
  induction members with
  | nil => rfl
  | cons m rest ih => simp [Value.treeFields, key, ih, keysAside]

theorem holdMembers_keysAside (sp : Spelling) (members : List (String × Value)) :
    Tree.holdMembers (keysAside sp members) = some (Value.treeFields .aside members) := by
  induction members with
  | nil => rfl
  | cons m rest ih =>
    simp only [keysAside] at ih
    simp [keysAside, Tree.holdMembers, Tree.hold, Value.hold_tree, ih, Value.treeFields,
      Spelling.aside]

/-- The tag of a spelled choice is split from its other members, which are set aside. -/
theorem splitTag?_record {tag : String} {members : List (String × Value)}
    (h : ∀ m ∈ members, m.1 ≠ tag) (sp : Spelling) (name : String) :
    splitTag? tag (.record (Value.treeFields sp ((tag, .text name) :: members))) =
      some (sp.scalar (.text name), .record (Value.treeFields .aside members)) := by
  have tagged : (keysAside sp members).filter (fun m => isTag tag m.1) = [] := by
    apply List.filter_eq_nil_iff.mpr
    intro k hk
    obtain ⟨m, hm, rfl⟩ := List.mem_map.mp hk
    simpa [isTag] using h m hm
  have others : (keysAside sp members).filter (fun m => !isTag tag m.1) =
      keysAside sp members := by
    apply List.filter_eq_self.mpr
    intro k hk
    obtain ⟨m, hm, rfl⟩ := List.mem_map.mp hk
    simpa [isTag] using h m hm
  have shape : keysAside sp ((tag, .text name) :: members) =
      (.held (.text tag), sp.scalar (.text name)) :: keysAside sp members := rfl
  have isOne : isTag tag (.held (.text tag)) = true := by simp [isTag]
  simp only [splitTag?, mapM_hold_treeFields, shape]
  simp [isOne, tagged, others, holdMembers_keysAside]

variable {α β : Type} {variants : List (Variant α)} {sp : Spelling} {depth : Nat} {x : α}

theorem variant?_text {v : Variant α} {name : String}
    (found : (variants.find? fun w => w.name == name) = some v) :
    variant? variants (sp.scalar (.text name)) = some v := by
  have text := sp.text name
  generalize sp.scalar (.text name) = t at text
  unfold variant?
  split
  · simp [Tree.text?] at text
  · rw [text, Option.bind_some, found]

/-- A choice is read back if the variant that its object is written with reads the members back, and
no member is named like the tag. -/
theorem choice_readsBack {v : Variant α} {members : List (String × Value)}
    (written : (variants.findSome? fun v => (v.write x).map fun fields => (v.name, fields)) =
      some (v.name, members))
    (found : (variants.find? fun w => w.name == v.name) = some v)
    (names : ∀ m ∈ members, m.1 ≠ "choice" ∧ Value.isFieldName m.1 = true)
    (plain : ∀ m ∈ members, m.2.Plain depth)
    (read : v.read (.record (Value.treeFields .aside members)) = some x) :
    (choice variants).ReadsBack sp (depth + 1) x := by
  have text : (choice variants).write x = .record (("choice", .text v.name) :: members) := by
    simp [choice, written]
  refine ⟨?_, ?_, .whole _, ?_⟩
  · rw [text]
    apply Value.Plain.record
    · intro m hm
      rcases List.mem_cons.mp hm with rfl | later
      · exact (show Value.isFieldName "choice" = true by decide)
      · exact (names m later).2
    · intro m hm
      rcases List.mem_cons.mp hm with rfl | later
      · exact .text v.name
      · exact plain m later
  · rw [text]
    intro same
    cases same
  · rw [text, Value.tree]
    simp [choice, splitTag?_record fun m hm => (names m hm).1, variant?_text found, read]

/-- A choice is read back if the fields of the variant that its object is written with are. -/
theorem choice_ofFields_readsBack {name : String} {layout : Layout β} {view : α → Option β}
    {make : β → α} {y : β}
    (written : (variants.findSome? fun v => (v.write x).map fun fields => (v.name, fields)) =
      some (name, layout.write y))
    (found : (variants.find? fun w => w.name == name) = some (.ofFields name layout view make))
    (names : AreNames ("choice" :: fieldNames layout.fields))
    (h : layout.ReadsBack .aside depth y) (same : make y = x) :
    (choice variants).ReadsBack sp (depth + 1) x := by
  obtain ⟨values, members, plain, read⟩ := h
  obtain ⟨untagged, apart⟩ := List.nodup_cons.mp names.1
  refine choice_readsBack (v := .ofFields name layout view make) written found (fun m hm => ?_)
    (fun m hm => plain m.2 (members.mem_values hm)) ?_
  · have listed := members.mem_fieldNames hm
    exact ⟨fun tag => untagged (tag ▸ listed), names.2 m.1 (List.mem_cons_of_mem _ listed)⟩
  · simp [Variant.ofFields, fieldValues?_record members apart, read, same]

end Codec

end IsisTestbed
