import IsisTestbed.Proofs.Topology.Building
import Mathlib.Data.List.Nodup
import Mathlib.Data.List.Pairwise
import Mathlib.Data.Prod.Basic

/-!
The pairs of numbers that the links of a topology have. Every address and every MAC of a link is
derived from its pair, and tells it. No shape has an edge twice, and only a ring of two nodes has one
in both directions; the number that stands for attached devices is not that of a node.
-/

namespace IsisTestbed

/-! ### Edges of shapes -/

namespace Shape

variable {s : Shape} {pair : Nat × Nat} {index : Nat}

theorem fst_of_mem_edgesFrom (h : pair ∈ s.edgesFrom index) : pair.1 = index := by
  cases s with
  | grid rows cols =>
    rcases List.mem_append.mp h with right | below
    · split at right <;> simp_all
    · split at below <;> simp_all
  | ring nodes =>
    rw [List.mem_singleton.mp h]

theorem edgesFrom_nodup (large : s.IsLarge) (index : Nat) : (s.edgesFrom index).Nodup := by
  cases s with
  | grid rows cols =>
    obtain ⟨_, wide⟩ : 2 ≤ rows ∧ 2 ≤ cols := large
    simp only [edgesFrom]
    split
    · split
      · have different : (index, index + 1) ≠ (index, index + cols) := by
          rw [Ne, Prod.mk.injEq]
          omega
        simpa using different
      · exact List.nodup_singleton _
    · split
      · exact List.nodup_singleton _
      · exact List.nodup_nil
  | ring nodes => exact List.nodup_singleton _

/-- No edge occurs twice. -/
theorem edges_nodup (large : s.IsLarge) : s.edges.Nodup := by
  refine List.nodup_flatMap.mpr ⟨fun index _ => edgesFrom_nodup large index, ?_⟩
  refine (List.nodup_range (n := s.size)).imp ?_
  intro i j different pair fromI fromJ
  exact different ((fst_of_mem_edgesFrom fromI).symm.trans (fst_of_mem_edgesFrom fromJ))

/-- The edges of a grid lead from lower numbers to higher ones. -/
theorem lt_of_mem_edges_grid {rows cols : Nat} (large : (grid rows cols).IsLarge)
    (h : pair ∈ (grid rows cols).edges) : pair.1 < pair.2 := by
  obtain ⟨_, wide⟩ : 2 ≤ rows ∧ 2 ≤ cols := large
  obtain ⟨index, _, started⟩ := List.mem_flatMap.mp h
  rcases List.mem_append.mp started with right | below
  · split at right
    · rw [List.mem_singleton.mp right]
      exact Nat.lt_succ_self index
    · exact absurd right List.not_mem_nil
  · split at below
    · rw [List.mem_singleton.mp below]
      show index < index + cols
      omega
    · exact absurd below List.not_mem_nil

/-- An edge and its reverse both occur exactly in a ring of two nodes. -/
theorem exists_swap_mem_edges_iff (large : s.IsLarge) :
    (∃ pair ∈ s.edges, pair.swap ∈ s.edges) ↔ s = .ring 2 := by
  constructor
  · rintro ⟨pair, member, reverse⟩
    cases s with
    | grid rows cols =>
      have forth := lt_of_mem_edges_grid large member
      have back := lt_of_mem_edges_grid large reverse
      exact absurd forth (Nat.lt_asymm back)
    | ring nodes =>
      have two : 2 ≤ nodes := large
      obtain ⟨i, hi, started⟩ := List.mem_flatMap.mp member
      obtain ⟨j, hj, ended⟩ := List.mem_flatMap.mp reverse
      have hi : i < nodes := List.mem_range.mp hi
      have hj : j < nodes := List.mem_range.mp hj
      rw [List.mem_singleton.mp started, edgesFrom, List.mem_singleton,
        Prod.swap_prod_mk, Prod.mk.injEq] at ended
      obtain ⟨next, previous⟩ := ended
      congr 1
      -- Two steps around the ring lead back to the start.
      have around (k : Nat) (hk : k < nodes) :
          (k + 1) % nodes = k + 1 ∨ (k + 1) % nodes = 0 ∧ k + 1 = nodes := by
        rcases Nat.lt_or_ge (k + 1) nodes with inside | outside
        · exact .inl (Nat.mod_eq_of_lt inside)
        · have last : k + 1 = nodes := by omega
          exact .inr ⟨by rw [last, Nat.mod_self], last⟩
      have stepI := around i hi
      have stepJ := around j hj
      omega
  · rintro rfl
    exact ⟨(0, 1), by decide, by decide⟩

end Shape

/-! ### What a pair of numbers tells -/

namespace Topology

/-- A number of at most three digits is told by the group that its digits form. -/
theorem decimalGroup_inj {m n : Nat} (hm : m < 1000) (hn : n < 1000)
    (h : decimalGroup m = decimalGroup n) : m = n := by
  have digits {k : Nat} (hk : k < 1000) : k = k / 100 % 10 * 100 + k / 10 % 10 * 10 + k % 10 := by
    omega
  have group (k : Nat) :
      (decimalGroup k).toNat = k / 100 % 10 * 256 + k / 10 % 10 * 16 + k % 10 :=
    UInt16.toNat_ofNat_of_lt' (show _ < 65536 by omega)
  have same := congrArg UInt16.toNat h
  rw [group, group] at same
  rw [digits hm, digits hn]
  omega

/-- The number in an octet has at most three digits. -/
theorem octet_lt_thousand (x : UInt8) : x.toNat < 1000 :=
  Nat.lt_trans x.toNat_lt (by decide)

theorem decimalGroup_octet_inj {x y : UInt8} (h : decimalGroup x.toNat = decimalGroup y.toNat) :
    x = y :=
  UInt8.toNat_inj.mp (decimalGroup_inj (octet_lt_thousand x) (octet_lt_thousand y) h)

theorem linkV6Address_inj {first first' : UInt16} {a a' b b' : UInt8} {side side' : Nat}
    (hs : side < 1000) (hs' : side' < 1000)
    (h : linkV6Address first a b side = linkV6Address first' a' b' side') :
    first = first' ∧ a = a' ∧ b = b' ∧ side = side' := by
  have groups := congrArg (fun ip : Ipv6 => ip.groups.toList) h
  simp only [linkV6Address, Vector.toList_mk, List.cons.injEq, true_and, and_true] at groups
  obtain ⟨sameFirst, sameA, sameB, sameSide⟩ := groups
  exact ⟨sameFirst, decimalGroup_octet_inj sameA, decimalGroup_octet_inj sameB,
    decimalGroup_inj hs hs' sameSide⟩

theorem ipv4_text_inj {x y : Ipv4} (h : x.text = y.text) : x = y :=
  Option.some.inj ((Ipv4.ofText?_text x).symm.trans (h ▸ Ipv4.ofText?_text y))

theorem ipv6_text_inj {x y : Ipv6} (h : x.text = y.text) : x = y :=
  Option.some.inj ((Ipv6.ofText?_text x).symm.trans (h ▸ Ipv6.ofText?_text y))

theorem toList_linkMac (near far : UInt8) :
    (linkMac near far).toList = "00:00:dd:ee:".toList ++ ((Text.hexPadded 2 near.toNat).toList ++
      ':' :: (Text.hexPadded 2 far.toNat).toList) := by
  simp [linkMac]

theorem linkMac_inj {a a' b b' : UInt8} (h : linkMac a b = linkMac a' b') : a = a' ∧ b = b' := by
  have texts := congrArg String.toList h
  rw [toList_linkMac, toList_linkMac] at texts
  obtain ⟨near, rest⟩ := List.append_inj (List.append_cancel_left texts)
    (by rw [length_hexPadded_octet, length_hexPadded_octet])
  have far := (List.cons.inj rest).2
  have octet {x y : UInt8}
      (same : (Text.hexPadded 2 x.toNat).toList = (Text.hexPadded 2 y.toNat).toList) : x = y :=
    UInt8.toNat_inj.mp (Text.hexPadded_injective (String.toList_inj.mp same))
  exact ⟨octet near, octet far⟩

/-! ### Lists of pairs -/

/-- Two values for each entry of a list are distinct exactly if those of different places are. -/
theorem nodup_flatMap_pair_iff {α β : Type} {l : List α} {f g : α → β}
    (apart : ∀ x ∈ l, f x ≠ g x) :
    (l.flatMap fun x => [f x, g x]).Nodup ↔
      l.Pairwise fun x y => (f x ≠ f y ∧ f x ≠ g y) ∧ g x ≠ f y ∧ g x ≠ g y := by
  have disjoint (x y : α) : [f x, g x].Disjoint [f y, g y] ↔
      (f x ≠ f y ∧ f x ≠ g y) ∧ g x ≠ f y ∧ g x ≠ g y := by
    simp only [List.disjoint_cons_left, List.mem_cons, List.not_mem_nil, or_false, not_or,
      List.disjoint_nil_left, and_true]
  have single : ∀ x ∈ l, [f x, g x].Nodup := by
    intro x hx
    simpa using apart x hx
  rw [List.nodup_flatMap]
  constructor
  · intro all
    exact all.2.imp fun places => (disjoint _ _).mp places
  · intro places
    exact ⟨single, places.imp fun places => (disjoint _ _).mpr places⟩

/-- If both values tell the entry, and those of one kind are never those of the other, they are
distinct exactly if the entries are. -/
theorem nodup_flatMap_pair_iff_nodup {α β : Type} {l : List α} {f g : α → β}
    (first : ∀ x ∈ l, ∀ y ∈ l, f x = f y → x = y) (second : ∀ x ∈ l, ∀ y ∈ l, g x = g y → x = y)
    (cross : ∀ x ∈ l, ∀ y ∈ l, f x ≠ g y) :
    (l.flatMap fun x => [f x, g x]).Nodup ↔ l.Nodup := by
  rw [nodup_flatMap_pair_iff fun x hx => cross x hx x hx]
  constructor
  · intro places
    refine places.imp ?_
    rintro x y different rfl
    exact different.1.1 rfl
  · intro distinct
    refine List.Pairwise.imp_of_mem ?_ distinct
    intro x y hx hy different
    exact ⟨⟨mt (first x hx y hy) different, cross x hx y hy⟩, (cross y hy x hx).symm,
      mt (second x hx y hy) different⟩

/-- If the second value of a pair is the first one of its reverse, and that tells the pair, they are
distinct exactly if the pairs are, and none is the reverse of one. -/
theorem nodup_flatMap_swap_iff {α β : Type} {l : List (α × α)} {f : α × α → β}
    (tells : ∀ x y, x ∈ l ∨ x.swap ∈ l → y ∈ l ∨ y.swap ∈ l → f x = f y → x = y)
    (loopless : ∀ x ∈ l, x.1 ≠ x.2) :
    (l.flatMap fun x => [f x, f x.swap]).Nodup ↔ l.Nodup ∧ ∀ x ∈ l, x.swap ∉ l := by
  have turned {x : α × α} (hx : x ∈ l) : x.swap ≠ x :=
    fun same => loopless x hx (congrArg Prod.snd same)
  have reverse {x : α × α} (hx : x ∈ l) : x.swap ∈ l ∨ x.swap.swap ∈ l := .inr hx
  rw [nodup_flatMap_pair_iff fun x hx same =>
    turned hx (tells _ _ (.inl hx) (reverse hx) same).symm]
  constructor
  · intro places
    have distinct : l.Nodup := places.imp fun different same => different.1.1 (congrArg f same)
    refine ⟨distinct, fun x hx hswap => ?_⟩
    have symmetric : Std.Symm fun x y : α × α => x ≠ y.swap :=
      ⟨fun x y apart same => apart (by rw [same, Prod.swap_swap])⟩
    have places : l.Pairwise fun x y => x ≠ y.swap :=
      places.imp fun different same => different.1.2 (congrArg f same)
    exact places.forall hx hswap (turned hx).symm (Prod.swap_swap x).symm
  · rintro ⟨distinct, irreversible⟩
    refine List.Pairwise.imp_of_mem ?_ distinct
    intro x y hx hy different
    refine ⟨⟨fun same => ?_, fun same => ?_⟩, fun same => ?_, fun same => ?_⟩
    · exact different (tells _ _ (.inl hx) (.inl hy) same)
    · have swapped := tells _ _ (.inl hx) (reverse hy) same
      exact irreversible y hy (swapped ▸ hx)
    · have swapped := tells _ _ (reverse hx) (.inl hy) same
      exact irreversible x hx (swapped ▸ hy)
    · exact different (Prod.swap_injective (tells _ _ (reverse hx) (reverse hy) same))

/-! ### Links of topologies -/

/-- The pair of numbers of each link, those between nodes first. An attached device has the number
behind those of the nodes. -/
def linkNumbers (t : Topology) : List (Nat × Nat) :=
  t.edges.map (fun e => (e.a + 1, e.b + 1)) ++
    t.attachments.map fun x => (t.size + 1, x.node + 1)

/-- Whether a topology is linked as its shape has it, with devices attached to some nodes. -/
structure IsShaped (t : Topology) : Prop where
  large : t.shape.IsLarge
  size : t.size = t.shape.size
  few : t.size ≤ 254
  edges : t.edges.map (fun e => (e.a, e.b)) = t.shape.edges
  attachments : ∀ x ∈ t.attachments, x.node < t.size

namespace IsShaped

variable {t : Topology} {pair : Nat × Nat}

theorem linkNumbers_eq (h : t.IsShaped) : t.linkNumbers =
    t.shape.edges.map (Prod.map (· + 1) (· + 1)) ++
      t.attachments.map fun x => (t.size + 1, x.node + 1) := by
  rw [← h.edges, List.map_map]
  rfl

/-- A pair of numbers is that of an edge, or that of an attachment. -/
theorem cases_linkNumbers (h : t.IsShaped) (member : pair ∈ t.linkNumbers) :
    (∃ edge ∈ t.shape.edges, pair = Prod.map (· + 1) (· + 1) edge ∧ pair.1 ≤ t.size ∧
      pair.2 ≤ t.size ∧ pair.1 ≠ pair.2) ∨ (pair.1 = t.size + 1 ∧ pair.2 ≤ t.size) := by
  rw [h.linkNumbers_eq] at member
  rcases List.mem_append.mp member with between | attachment
  · obtain ⟨edge, isEdge, rfl⟩ := List.mem_map.mp between
    obtain ⟨boundA, boundB, different⟩ := Shape.mem_edges h.large isEdge
    rw [← h.size] at boundA boundB
    exact .inl ⟨edge, isEdge, rfl, boundA, boundB, fun same => different (Nat.succ.inj same)⟩
  · obtain ⟨x, attached, rfl⟩ := List.mem_map.mp attachment
    exact .inr ⟨rfl, h.attachments x attached⟩

theorem linkNumbers_lt (h : t.IsShaped) (member : pair ∈ t.linkNumbers) :
    pair.1 < 256 ∧ pair.2 < 256 ∧ pair.1 ≠ pair.2 := by
  have few := h.few
  rcases h.cases_linkNumbers member with ⟨_, _, _, boundA, boundB, different⟩ | ⟨last, bound⟩
  · exact ⟨by omega, by omega, different⟩
  · exact ⟨by omega, by omega, by omega⟩

/-- The pairs of numbers are distinct exactly if the nodes that devices are attached to are. -/
theorem nodup_linkNumbers_iff (h : t.IsShaped) :
    t.linkNumbers.Nodup ↔ (t.attachments.map (·.node)).Nodup := by
  have edges : (t.shape.edges.map (Prod.map (· + 1) (· + 1))).Nodup :=
    (Shape.edges_nodup h.large).map
      (Prod.map_injective.mpr ⟨fun _ _ => Nat.succ.inj, fun _ _ => Nat.succ.inj⟩)
  have attached : (t.attachments.map fun x => (t.size + 1, x.node + 1)) =
      (t.attachments.map (·.node)).map fun node => (t.size + 1, node + 1) := by
    rw [List.map_map]
    rfl
  have injective : Function.Injective fun node => (t.size + 1, node + 1) := by
    intro m n same
    exact Nat.succ.inj (congrArg Prod.snd same)
  have apart : ∀ a ∈ t.shape.edges.map (Prod.map (· + 1) (· + 1)),
      ∀ b ∈ t.attachments.map fun x => (t.size + 1, x.node + 1), a ≠ b := by
    intro a isEdge b isAttachment same
    obtain ⟨edge, member, rfl⟩ := List.mem_map.mp isEdge
    obtain ⟨x, _, rfl⟩ := List.mem_map.mp isAttachment
    have bound := (Shape.mem_edges h.large member).1
    have last : edge.1 + 1 = t.size + 1 := congrArg Prod.fst same
    rw [h.size] at last
    omega
  rw [h.linkNumbers_eq, List.nodup_append, attached, List.nodup_map_iff injective]
  rw [attached] at apart
  exact ⟨fun all => all.2.1, fun nodes => ⟨edges, nodes, apart⟩⟩

/-- A pair of numbers and its reverse both occur exactly in a ring of two nodes. -/
theorem exists_swap_mem_linkNumbers_iff (h : t.IsShaped) :
    (∃ pair ∈ t.linkNumbers, pair.swap ∈ t.linkNumbers) ↔ t.shape = .ring 2 := by
  rw [← Shape.exists_swap_mem_edges_iff h.large]
  constructor
  · rintro ⟨pair, member, reverse⟩
    rcases h.cases_linkNumbers member with ⟨edge, isEdge, rfl, boundA, boundB, _⟩ | ⟨last, bound⟩
    · rcases h.cases_linkNumbers reverse with ⟨back, isBack, same, _⟩ | ⟨last, _⟩
      · have swapped : back = edge.swap := by
          obtain ⟨a, b⟩ := edge
          obtain ⟨c, d⟩ := back
          simp only [Prod.map, Prod.swap_prod_mk, Prod.mk.injEq] at same ⊢
          omega
        exact ⟨edge, isEdge, swapped ▸ isBack⟩
      · rw [Prod.fst_swap] at last
        exact absurd boundB (by omega)
    · rcases h.cases_linkNumbers reverse with ⟨_, _, _, _, tooLarge, _⟩ | ⟨first, _⟩
      · exact absurd tooLarge (by rw [Prod.snd_swap]; omega)
      · exact absurd first (by rw [Prod.fst_swap]; omega)
  · rintro ⟨edge, isEdge, isBack⟩
    have shifted {e : Nat × Nat} (he : e ∈ t.shape.edges) :
        Prod.map (· + 1) (· + 1) e ∈ t.linkNumbers := by
      rw [h.linkNumbers_eq]
      exact List.mem_append_left _ (List.mem_map_of_mem he)
    exact ⟨_, shifted isEdge, shifted isBack⟩

end IsShaped

end Topology

end IsisTestbed
