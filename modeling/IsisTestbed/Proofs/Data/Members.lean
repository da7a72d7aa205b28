import IsisTestbed.Proofs.Data.ReadBack
import Mathlib.Data.List.Perm.Basic

/-!
What readers make of the members of records. The order of members does not matter, and neither does a
member whose name no field accepts; a member that a field accepts gives its value to that field alone.
All of this holds for records that were set aside too, so it carries over to choices, which set their
members aside before they read them.
-/

namespace IsisTestbed

theorem bind_eq_of_rel {α β γ : Type} {R : α → β → Prop} {x : Option α} {y : Option β}
    {f : α → Option γ} {g : β → Option γ} (h : Option.Rel R x y)
    (same : ∀ a b, R a b → f a = g b) : x.bind f = y.bind g := by
  cases h with
  | some related => exact same _ _ related
  | none => rfl

/-- A map that may fail does so on lists in any order, or it gives lists in another order. -/
theorem rel_mapM_of_perm {α β : Type} {f : α → Option β} {xs ys : List α} (h : xs.Perm ys) :
    Option.Rel List.Perm (xs.mapM f) (ys.mapM f) := by
  induction h with
  | nil => exact .some .nil
  | @cons x xs ys _ ih =>
    rw [List.mapM_cons, List.mapM_cons]
    generalize xs.mapM f = results, ys.mapM f = results' at ih
    cases f x with
    | none => exact .none
    | some y =>
      cases ih with
      | none => exact .none
      | some perm => exact .some (perm.cons y)
  | swap x y xs =>
    rw [List.mapM_cons, List.mapM_cons, List.mapM_cons, List.mapM_cons]
    cases f x with
    | none => cases f y <;> exact .none
    | some a =>
      cases f y with
      | none => exact .none
      | some b =>
        cases xs.mapM f with
        | none => exact .none
        | some later => exact .some (.swap a b later)
  | @trans xs ys zs _ _ ih ih' =>
    generalize xs.mapM f = first, ys.mapM f = second, zs.mapM f = third at ih ih'
    cases ih with
    | none => exact ih'
    | some perm =>
      cases ih' with
      | some perm' => exact .some (perm.trans perm')

/-- Lists in different order are both empty, or the same one item, or both have more than one. -/
theorem empty_or_single_or_more {α : Type} {xs ys : List α} (h : xs.Perm ys) :
    (xs = [] ∧ ys = []) ∨ (∃ x, xs = [x] ∧ ys = [x]) ∨
      ∃ x x' more y y' more', xs = x :: x' :: more ∧ ys = y :: y' :: more' := by
  cases xs with
  | nil => exact .inl ⟨rfl, List.nil_perm.mp h⟩
  | cons x xs =>
    cases xs with
    | nil => exact .inr (.inl ⟨x, rfl, (List.singleton_perm.mp h).symm⟩)
    | cons x' more =>
      have several := h.length_eq
      cases ys with
      | nil => cases several
      | cons y ys =>
        cases ys with
        | nil => cases several
        | cons y' more' => exact .inr (.inr ⟨x, x', more, y, y', more', rfl, rfl⟩)

theorem exists_mapM {α β : Type} {f : α → Option β} {xs : List α}
    (h : ∀ x ∈ xs, ∃ y, f x = some y) : ∃ ys, xs.mapM f = some ys := by
  induction xs with
  | nil => exact ⟨[], rfl⟩
  | cons x rest ih =>
    obtain ⟨y, first⟩ := h x List.mem_cons_self
    obtain ⟨ys, later⟩ := ih fun x' member => h x' (List.mem_cons_of_mem _ member)
    exact ⟨y :: ys, by rw [List.mapM_cons, first, later]; rfl⟩

theorem exists_of_mem_mapM {α β : Type} {f : α → Option β} {xs : List α} {ys : List β} {y : β}
    (h : xs.mapM f = some ys) (member : y ∈ ys) : ∃ x ∈ xs, f x = some y := by
  induction xs generalizing ys with
  | nil =>
    cases h
    exact absurd member List.not_mem_nil
  | cons x rest ih =>
    rw [List.mapM_cons] at h
    obtain ⟨first, own, h⟩ := Option.bind_eq_some_iff.mp h
    obtain ⟨more, later, h⟩ := Option.bind_eq_some_iff.mp h
    cases h
    rcases List.mem_cons.mp member with rfl | member
    · exact ⟨x, List.mem_cons_self, own⟩
    · obtain ⟨x', member', same⟩ := ih later member
      exact ⟨x', List.mem_cons_of_mem _ member', same⟩

namespace Tree

/-! ### Setting aside -/

/-- A member of a record as it is kept. -/
def holdMember (m : Tree × Tree) : Option (Tree × Tree) :=
  m.1.hold.bind fun key => m.2.hold.map fun value => (key, value)

theorem holdItems_cons (t : Tree) (rest : List Tree) :
    holdItems (t :: rest) = t.hold.bind fun held => (holdItems rest).map fun more =>
      held :: more := by
  rw [holdItems]
  cases t.hold with
  | none => rfl
  | some held => cases holdItems rest <;> rfl

theorem holdItems_eq_mapM (items : List Tree) : holdItems items = items.mapM hold := by
  induction items with
  | nil => rfl
  | cons t rest ih =>
    rw [holdItems_cons, ih, List.mapM_cons]
    cases t.hold with
    | none => rfl
    | some _ => cases rest.mapM hold <;> rfl

theorem holdMembers_cons (m : Tree × Tree) (rest : List (Tree × Tree)) :
    holdMembers (m :: rest) = (holdMember m).bind fun held => (holdMembers rest).map fun more =>
      held :: more := by
  rw [holdMembers, holdMember]
  cases m.1.hold with
  | none => rfl
  | some key =>
    cases m.2.hold with
    | none => rfl
    | some value => cases holdMembers rest <;> rfl

theorem holdMembers_eq_mapM (members : List (Tree × Tree)) :
    holdMembers members = members.mapM holdMember := by
  induction members with
  | nil => rfl
  | cons m rest ih =>
    rw [holdMembers_cons, ih, List.mapM_cons]
    cases holdMember m with
    | none => rfl
    | some _ => cases rest.mapM holdMember <;> rfl

mutual

/-- What was set aside stays as it is when it is set aside again. -/
theorem hold_of_hold : ∀ (t : Tree) {kept : Tree}, t.hold = some kept → kept.hold = some kept
  | .typed v, _, h => by
    obtain ⟨_, _, rfl⟩ := Option.map_eq_some_iff.mp h
    rfl
  | .plain _ v, _, h => by
    obtain ⟨_, _, rfl⟩ := Option.map_eq_some_iff.mp h
    rfl
  | .held v, _, h => by
    cases h
    rfl
  | .array items, _, h => by
    obtain ⟨_, same, rfl⟩ := Option.map_eq_some_iff.mp h
    rw [hold, holdItems_of_holdItems items same]
    rfl
  | .list items, _, h => by
    obtain ⟨_, same, rfl⟩ := Option.map_eq_some_iff.mp h
    rw [hold, holdItems_of_holdItems items same]
    rfl
  | .record members, _, h => by
    obtain ⟨_, same, rfl⟩ := Option.map_eq_some_iff.mp h
    rw [hold, holdMembers_of_holdMembers members same]
    rfl
  | .marked m, _, h => by
    obtain ⟨_, _, rfl⟩ := Option.map_eq_some_iff.mp h
    rfl
  | .variant _ _, _, h => by cases h
  | .unreadable, _, h => by cases h

theorem holdItems_of_holdItems : ∀ (items : List Tree) {kept : List Tree},
    holdItems items = some kept → holdItems kept = some kept
  | [], kept, h => by
    cases h
    rfl
  | t :: rest, kept, h => by
    rw [holdItems_cons, Option.bind_eq_some_iff] at h
    obtain ⟨held, first, h⟩ := h
    obtain ⟨more, later, rfl⟩ := Option.map_eq_some_iff.mp h
    rw [holdItems_cons, hold_of_hold t first, holdItems_of_holdItems rest later]
    rfl

theorem holdMembers_of_holdMembers : ∀ (members : List (Tree × Tree)) {kept : List (Tree × Tree)},
    holdMembers members = some kept → holdMembers kept = some kept
  | [], kept, h => by
    cases h
    rfl
  | (key, value) :: rest, kept, h => by
    rw [holdMembers_cons, Option.bind_eq_some_iff] at h
    obtain ⟨held, first, h⟩ := h
    obtain ⟨more, later, rfl⟩ := Option.map_eq_some_iff.mp h
    obtain ⟨heldKey, own, first⟩ := Option.bind_eq_some_iff.mp first
    obtain ⟨heldValue, content, rfl⟩ := Option.map_eq_some_iff.mp first
    rw [holdMembers_cons, holdMember, hold_of_hold key own, hold_of_hold value content,
      holdMembers_of_holdMembers rest later]
    rfl

end

/-- What is set aside of a record does not depend on the order either. -/
theorem rel_holdMembers_of_perm {members members' : List (Tree × Tree)}
    (h : members.Perm members') :
    Option.Rel List.Perm (holdMembers members) (holdMembers members') := by
  rw [holdMembers_eq_mapM, holdMembers_eq_mapM]
  exact rel_mapM_of_perm h

/-- A part in the middle of a sequence is set aside between what is around it. -/
theorem holdItems_middle (front back : List Tree) (t : Tree) :
    holdItems (front ++ t :: back) = (holdItems front).bind fun before =>
      t.hold.bind fun held => (holdItems back).map fun behind => before ++ held :: behind := by
  induction front with
  | nil => exact holdItems_cons t back
  | cons first front ih =>
    rw [List.cons_append, holdItems_cons, holdItems_cons, ih]
    cases first.hold with
    | none => rfl
    | some kept =>
      cases holdItems front with
      | none => rfl
      | some before =>
        cases t.hold with
        | none => rfl
        | some held => cases holdItems back <;> rfl

theorem length_of_holdItems {items kept : List Tree} (h : holdItems items = some kept) :
    kept.length = items.length := by
  induction items generalizing kept with
  | nil =>
    cases h
    rfl
  | cons t rest ih =>
    rw [holdItems_cons, Option.bind_eq_some_iff] at h
    obtain ⟨held, _, h⟩ := h
    obtain ⟨more, later, rfl⟩ := Option.map_eq_some_iff.mp h
    rw [List.length_cons, List.length_cons, ih later]

/-- Each member that was kept is a member that was set aside. -/
theorem exists_of_mem_holdMembers {members kept : List (Tree × Tree)} {k : Tree × Tree}
    (h : holdMembers members = some kept) (member : k ∈ kept) :
    ∃ m ∈ members, m.1.hold = some k.1 ∧ m.2.hold = some k.2 := by
  rw [holdMembers_eq_mapM] at h
  obtain ⟨m, member', held⟩ := exists_of_mem_mapM h member
  obtain ⟨key, own, held⟩ := Option.bind_eq_some_iff.mp held
  obtain ⟨value, content, rfl⟩ := Option.map_eq_some_iff.mp held
  exact ⟨m, member', own, content⟩

/-- A sequence or a record. -/
inductive IsCompound : Tree → Prop where
  | array (items : List Tree) : IsCompound (.array items)
  | record (members : List (Tree × Tree)) : IsCompound (.record members)

/-- No sequence or record stands for an absent part. -/
theorem IsCompound.optional?_eq {α : Type} {t : Tree} (h : t.IsCompound)
    (read : Tree → Option α) : t.optional? read = (read t).map some := by
  cases h <;> rfl

/-! ### Members and fields -/

/-- A key that is a text, as it is or set aside. -/
inductive IsName : Tree → String → Prop where
  | typed (s : String) : IsName (.typed (.text s)) s
  | held (s : String) : IsName (.held (.text s)) s

theorem IsName.key? {key : Tree} {s : String} (h : key.IsName s) : key.key? = some (.name s) := by
  cases h <;> rfl

theorem IsName.hold {key : Tree} {s : String} (h : key.IsName s) :
    key.hold = some (.held (.text s)) := by
  cases h <;> rfl

variable {members members' : List (Tree × Tree)} {fields : List Field} {field : Field}
  {key value : Tree} {name : String} {i : Nat}

theorem memberValue?_of_perm {keyed keyed' : List (Key × Tree)} (h : keyed.Perm keyed')
    (index : Nat) (field : Field) :
    memberValue? keyed index field = memberValue? keyed' index field := by
  have referring := h.filter fun m => m.1.refersTo index field
  rw [memberValue?, memberValue?]
  rcases empty_or_single_or_more referring with ⟨empty, empty'⟩ | ⟨m, one, one'⟩ |
    ⟨_, _, _, _, _, _, several, several'⟩
  · rw [empty, empty']
  · rw [one, one']
  · rw [several, several']

theorem memberValues?_of_perm {keyed keyed' : List (Key × Tree)} (h : keyed.Perm keyed')
    (index : Nat) (fields : List Field) :
    memberValues? keyed index fields = memberValues? keyed' index fields := by
  induction fields generalizing index with
  | nil => rfl
  | cons field rest ih => rw [memberValues?, memberValues?, memberValue?_of_perm h, ih]

/-- The values of fields do not depend on the order of the members. -/
theorem fieldValues?_of_perm (h : members.Perm members') (fields : List Field) :
    fieldValues? fields (.record members) = fieldValues? fields (.record members') :=
  bind_eq_of_rel (rel_mapM_of_perm h) fun _ _ perm => memberValues?_of_perm perm 0 fields

theorem fieldValues?_cons (named : key.IsName name) (value : Tree)
    (members : List (Tree × Tree)) (fields : List Field) :
    fieldValues? fields (.record ((key, value) :: members)) =
      (members.mapM fun m => (Tree.key? m.1).map fun k => (k, m.2)).bind fun keyed =>
        memberValues? ((.name name, value) :: keyed) 0 fields := by
  rw [fieldValues?, List.mapM_cons, named.key?]
  cases members.mapM fun m => (Tree.key? m.1).map fun k => (k, m.2) <;> rfl

/-- A member that no field accepts makes no difference. -/
theorem fieldValues?_cons_of_not_mem (named : key.IsName name) (value : Tree)
    (members : List (Tree × Tree)) (foreign : name ∉ fieldNames fields) :
    fieldValues? fields (.record ((key, value) :: members)) =
      fieldValues? fields (.record members) := by
  rw [fieldValues?_cons named]
  exact congrArg _ (funext fun keyed => memberValues?_cons_of_not_mem foreign keyed 0)

/-- The value of a member that a field accepts becomes the value of that field alone, if all fields
have names of their own. -/
theorem exists_memberValues?_cons (found : fields[i]? = some field)
    (named : name ∈ field.name :: field.aliases) (distinct : (fieldNames fields).Nodup)
    (keyed : List (Key × Tree)) (index : Nat) :
    ∃ values : Option (List (Option Tree)), ∀ value,
      memberValues? ((.name name, value) :: keyed) index fields =
        values.map fun vs => vs.set i (some value) := by
  induction fields generalizing i index with
  | nil => cases found
  | cons first rest ih =>
    obtain ⟨_, later, apart⟩ := List.nodup_append.mp distinct
    cases i with
    | zero =>
      obtain rfl : first = field := Option.some.inj found
      have away : name ∉ fieldNames rest := fun again => apart name named name again rfl
      have accepted : Key.refersTo index first (.name name) = true := by
        simpa [Key.refersTo] using named
      have referring (value : Tree) :
          ((Key.name name, value) :: keyed).filter (fun m => m.1.refersTo index first) =
            (Key.name name, value) :: keyed.filter fun m => m.1.refersTo index first :=
        List.filter_cons_of_pos accepted
      -- If another member refers to the field as well, there are no values at all.
      cases others : keyed.filter fun m => m.1.refersTo index first with
      | nil =>
        refine ⟨(memberValues? keyed (index + 1) rest).map (none :: ·), fun value => ?_⟩
        have given : memberValue? ((.name name, value) :: keyed) index first =
            some (some value) := by
          rw [memberValue?, referring, others]
        rw [memberValues?, given, memberValues?_cons_of_not_mem away]
        cases memberValues? keyed (index + 1) rest <;> rfl
      | cons other more =>
        refine ⟨none, fun value => ?_⟩
        have given : memberValue? ((.name name, value) :: keyed) index first = none := by
          rw [memberValue?, referring, others]
        rw [memberValues?, given]
        rfl
    | succ i =>
      have mine : name ∈ fieldNames rest :=
        List.mem_flatMap.mpr ⟨field, List.mem_of_getElem? found, named⟩
      have away : name ∉ first.name :: first.aliases := fun own => apart name own name mine rfl
      obtain ⟨values, same⟩ := ih found later (index + 1)
      refine ⟨(memberValue? keyed index first).bind fun v => values.map (v :: ·), fun value => ?_⟩
      rw [memberValues?, memberValue?_cons_of_not_mem away, same]
      cases memberValue? keyed index first with
      | none => rfl
      | some v => cases values <;> rfl

/-- An item of a record that is written as a sequence is the value of the field at its position. -/
theorem exists_positionalValues?_middle (front back : List Tree) (fields : List Field) :
    ∃ values : Option (List (Option Tree)), ∀ value,
      positionalValues? fields (front ++ value :: back) =
        values.map fun vs => vs.set front.length (some value) := by
  induction front generalizing fields with
  | nil =>
    cases fields with
    | nil => exact ⟨none, fun _ => rfl⟩
    | cons field rest =>
      refine ⟨(positionalValues? rest back).map (none :: ·), fun value => ?_⟩
      rw [List.nil_append, positionalValues?]
      cases positionalValues? rest back <;> rfl
  | cons first front ih =>
    cases fields with
    | nil => exact ⟨none, fun _ => rfl⟩
    | cons field rest =>
      obtain ⟨values, same⟩ := ih rest
      refine ⟨values.map (some first :: ·), fun value => ?_⟩
      rw [List.cons_append, positionalValues?, same]
      cases values <;> rfl

end Tree

/-! ### Choices -/

namespace Codec

open IsisTestbed.Tree

variable {α : Type} {variants : List (Variant α)} {v : Variant α} {name : String} {key tag : Tree}
  {members members' : List (Tree × Tree)}

theorem mem_of_variant? (h : variant? variants tag = some v) : v ∈ variants := by
  unfold variant? at h
  split at h
  · exact List.mem_of_getElem? h
  · obtain ⟨s, _, found⟩ := Option.bind_eq_some_iff.mp h
    exact List.mem_of_find?_eq_some found

theorem eq_of_isTag {tag : String} (h : isTag tag key = true) : key = .held (.text tag) := by
  unfold isTag at h
  split at h
  · rw [beq_iff_eq.mp h]
  · cases h

/-- A member with its key set aside. -/
def keyAside (m : Tree × Tree) : Option (Tree × Tree) :=
  m.1.hold.map fun key => (key, m.2)

/-- The tag among members with keys set aside, and the other members, set aside as a whole. -/
def splitKeyed? (tag : String) (keyed : List (Tree × Tree)) :
    Option (Tree × List (Tree × Tree)) :=
  match keyed.filter fun m => isTag tag m.1 with
  | [m] => (holdMembers (keyed.filter fun m => !isTag tag m.1)).map fun rest => (m.2, rest)
  | _ => none

/-- The tag of a record and its other members, set aside. -/
def splitMembers? (tag : String) (members : List (Tree × Tree)) :
    Option (Tree × List (Tree × Tree)) :=
  (members.mapM keyAside).bind (splitKeyed? tag)

theorem splitTag?_eq (tag : String) (members : List (Tree × Tree)) :
    splitTag? tag (.record members) =
      (splitMembers? tag members).map fun p => (p.1, .record p.2) := by
  have aside : splitTag? tag (.record members) = (members.mapM keyAside).bind fun keyed =>
      match keyed.filter fun m => isTag tag m.1 with
      | [m] => (holdMembers (keyed.filter fun m => !isTag tag m.1)).bind fun rest =>
        some (m.2, .record rest)
      | _ => none := rfl
  rw [aside, splitMembers?]
  cases members.mapM keyAside with
  | none => rfl
  | some keyed =>
    rw [Option.bind_some, Option.bind_some, splitKeyed?]
    cases keyed.filter fun m => isTag tag m.1 with
    | nil => rfl
    | cons m more =>
      cases more with
      | cons m' more => rfl
      | nil => cases holdMembers (keyed.filter fun m => !isTag tag m.1) <;> rfl

/-- What a choice reads from a record. -/
theorem read_choice_record (variants : List (Variant α)) (members : List (Tree × Tree)) :
    (choice variants).read (.record members) =
      (splitMembers? "choice" members).bind fun p => (variant? variants p.1).bind fun v =>
        v.read (.record p.2) := by
  have split : (choice variants).read (.record members) =
      (splitTag? "choice" (.record members)).bind fun p => (variant? variants p.1).bind fun v =>
        v.read p.2 := rfl
  rw [split, splitTag?_eq]
  cases splitMembers? "choice" members <;> rfl

/-- What a choice reads from a sequence, of which the tag is the first item. -/
theorem read_choice_array (variants : List (Variant α)) (tag : Tree) (items : List Tree) :
    (choice variants).read (.array (tag :: items)) =
      (holdItems items).bind fun rest => (variant? variants tag).bind fun v =>
        v.read (.array rest) := by
  have split : (choice variants).read (.array (tag :: items)) =
      ((holdItems items).map fun rest => (tag, Tree.array rest)).bind fun p =>
        (variant? variants p.1).bind fun v => v.read p.2 := rfl
  rw [split]
  cases holdItems items <;> rfl

/-- The tag does not depend on the order of the members, and of the rest only the order does. -/
theorem rel_splitMembers?_of_perm (h : members.Perm members') (tag : String) :
    Option.Rel (fun p p' => p.1 = p'.1 ∧ p.2.Perm p'.2)
      (splitMembers? tag members) (splitMembers? tag members') := by
  have keyed := rel_mapM_of_perm (f := keyAside) h
  rw [splitMembers?, splitMembers?]
  generalize members.mapM keyAside = k, members'.mapM keyAside = k' at keyed ⊢
  cases keyed with
  | none => exact .none
  | @some k k' keyed =>
    have tagged := keyed.filter fun m => isTag tag m.1
    have others := rel_holdMembers_of_perm (keyed.filter fun m => !isTag tag m.1)
    rw [Option.bind_some, Option.bind_some, splitKeyed?, splitKeyed?]
    rcases empty_or_single_or_more tagged with ⟨empty, empty'⟩ | ⟨m, one, one'⟩ |
      ⟨_, _, _, _, _, _, several, several'⟩
    · rw [empty, empty']
      exact .none
    · rw [one, one']
      generalize holdMembers (k.filter fun m => !isTag tag m.1) = rest,
        holdMembers (k'.filter fun m => !isTag tag m.1) = rest' at others ⊢
      cases others with
      | none => exact .none
      | some perm => exact .some ⟨rfl, perm⟩
    · rw [several, several']
      exact .none

theorem splitKeyed?_cons {tag : String} (untagged : name ≠ tag) (value : Tree)
    (keyed : List (Tree × Tree)) :
    splitKeyed? tag ((.held (.text name), value) :: keyed) =
      value.hold.bind fun held => (splitKeyed? tag keyed).map fun p =>
        (p.1, (.held (.text name), held) :: p.2) := by
  have plain : isTag tag (.held (.text name)) = false := beq_false_of_ne untagged
  have tags : (((Tree.held (.text name), value) :: keyed).filter fun m => isTag tag m.1) =
      keyed.filter fun m => isTag tag m.1 := List.filter_cons_of_neg (by simp [plain])
  have others : (((Tree.held (.text name), value) :: keyed).filter fun m => !isTag tag m.1) =
      (.held (.text name), value) :: keyed.filter fun m => !isTag tag m.1 :=
    List.filter_cons_of_pos (by simp [plain])
  have member : holdMember (.held (.text name), value) =
      value.hold.map fun held => (Tree.held (.text name), held) := rfl
  rw [splitKeyed?, splitKeyed?, tags, others, holdMembers_cons, member]
  generalize holdMembers (keyed.filter fun m => !isTag tag m.1) = rest
  cases value.hold with
  | none =>
    cases keyed.filter fun m => isTag tag m.1 with
    | nil => rfl
    | cons m more => cases more <;> rfl
  | some held =>
    cases keyed.filter fun m => isTag tag m.1 with
    | nil => rfl
    | cons m more =>
      cases more with
      | nil => cases rest <;> rfl
      | cons m' more => rfl

/-- A member that is not the tag is set aside in front of the rest. -/
theorem splitMembers?_cons {tag : String} (named : key.IsName name) (untagged : name ≠ tag)
    (value : Tree) (members : List (Tree × Tree)) :
    splitMembers? tag ((key, value) :: members) =
      value.hold.bind fun held => (splitMembers? tag members).map fun p =>
        (p.1, (.held (.text name), held) :: p.2) := by
  have own : keyAside (key, value) = some (.held (.text name), value) := by
    rw [keyAside, named.hold]
    rfl
  rw [splitMembers?, splitMembers?, List.mapM_cons, own]
  cases members.mapM keyAside with
  | none => cases value.hold <;> rfl
  | some keyed => exact splitKeyed?_cons untagged value keyed

/-- The tag is the value of a member under its name. -/
theorem exists_of_splitMembers? {p : Tree × List (Tree × Tree)}
    (h : splitMembers? "choice" members = some p) :
    ∃ m ∈ members, m.1.hold = some (.held (.text "choice")) ∧ m.2 = p.1 := by
  obtain ⟨keyed, aside, h⟩ := Option.bind_eq_some_iff.mp h
  rw [splitKeyed?] at h
  split at h
  · next k tags =>
    obtain ⟨rest, _, rfl⟩ := Option.map_eq_some_iff.mp h
    have found : k ∈ keyed.filter fun m => isTag "choice" m.1 := tags ▸ List.mem_cons_self
    obtain ⟨member, isOne⟩ := List.mem_filter.mp found
    obtain ⟨m, among, own⟩ := exists_of_mem_mapM aside member
    obtain ⟨key, held, rfl⟩ := Option.map_eq_some_iff.mp own
    exact ⟨m, among, held.trans (congrArg some (eq_of_isTag isOne)), rfl⟩
  · cases h

end Codec

end IsisTestbed
