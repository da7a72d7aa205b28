import IsisTestbed.Proofs.Topology.Connecting
import IsisTestbed.Proofs.Topology.Reachability
import Mathlib.Data.Nat.Dist

/-!
The graphs that topologies are. In a grid the nodes are numbered row by row, and the neighbours of a
node are those at distance one from it; in a ring they are the nodes before and after it. Links come
in the order of the nodes that they start at. Nothing of that depends on the configuration, or on what
is attached to the nodes.
-/

namespace IsisTestbed

namespace Shape

variable {s : Shape} {rows cols nodes i j : Nat}

/-! ### Grids -/

/-- The links of a grid, row by row: those from a node lead to its right neighbour and to the node
below. -/
def gridLinks (rows cols : Nat) : List (Nat × Nat) :=
  (List.range rows).flatMap fun row => (List.range cols).flatMap fun col =>
    (if col + 1 < cols then [(row * cols + col, row * cols + (col + 1))] else []) ++
      (if row + 1 < rows then [(row * cols + col, (row + 1) * cols + col)] else [])

/-- How many rows and columns lie between two nodes of a grid. -/
def gridDistance (cols i j : Nat) : Nat :=
  Nat.dist (i / cols) (j / cols) + Nat.dist (i % cols) (j % cols)

theorem range_mul (m n : Nat) :
    List.range (m * n) = (List.range m).flatMap fun i => (List.range n).map (i * n + ·) := by
  induction m with
  | zero => simp
  | succ m ih =>
    rw [Nat.succ_mul, List.range_add, ih, List.range_succ, List.flatMap_append]
    simp only [List.flatMap_cons, List.flatMap_nil, List.append_nil]

theorem edges_grid (rows cols : Nat) : (grid rows cols).edges = gridLinks rows cols := by
  rw [edges, size, range_mul, List.flatMap_assoc, gridLinks]
  apply List.flatMap_congr
  intro row hrow
  rw [List.flatMap_map]
  apply List.flatMap_congr
  intro col hcol
  have hcol : col < cols := List.mem_range.mp hcol
  have wide : 0 < cols := Nat.zero_lt_of_lt hcol
  have atCol : (row * cols + col) % cols = col := by
    rw [Nat.mul_add_mod_of_lt hcol]
  have atRow : (row * cols + col) / cols = row := by
    rw [Nat.mul_comm, Nat.mul_add_div wide, Nat.div_eq_of_lt hcol, Nat.add_zero]
  have below : row * cols + col + cols = (row + 1) * cols + col := by
    rw [Nat.succ_mul]
    omega
  simp only [edgesFrom, atCol, atRow, below, Nat.add_assoc]

/-- A list with a fixed number of entries for each number, and further ones unless it is the last
number. -/
theorem length_flatMap_range {α : Type} {f : Nat → List α} {n each further : Nat}
    (h : ∀ k < n, (f k).length = each + if k + 1 < n then further else 0) :
    ((List.range n).flatMap f).length = n * each + (n - 1) * further := by
  have upTo (m : Nat) (hm : m ≤ n) :
      ((List.range m).flatMap f).length = m * each + min m (n - 1) * further := by
    induction m with
    | zero => simp
    | succ m ih =>
      rw [List.range_succ, List.flatMap_append, List.length_append, ih (by omega),
        List.flatMap_cons, List.flatMap_nil, List.append_nil, h m (by omega), Nat.succ_mul]
      split
      · next inside =>
        have before : min m (n - 1) = m := by omega
        have after : min (m + 1) (n - 1) = m + 1 := by omega
        rw [before, after, Nat.succ_mul]
        omega
      · next last =>
        have same : min m (n - 1) = min (m + 1) (n - 1) := by omega
        rw [same]
        omega
  rw [upTo n (Nat.le_refl n), Nat.min_eq_right (Nat.sub_le n 1)]

theorem length_gridLinks (rows cols : Nat) :
    (gridLinks rows cols).length = rows * (cols - 1) + cols * (rows - 1) := by
  rw [Nat.mul_comm cols]
  apply length_flatMap_range
  intro row _
  rw [@length_flatMap_range _ _ cols (if row + 1 < rows then 1 else 0) 1]
  · split <;> omega
  · intro col _
    split <;> split <;> rfl

/-- One step to the right stays in the row. -/
theorem step_right_iff (wide : 0 < cols) :
    (i % cols + 1 < cols ∧ j = i + 1) ↔ j / cols = i / cols ∧ j % cols = i % cols + 1 := by
  have splitI : cols * (i / cols) + i % cols = i := Nat.div_add_mod i cols
  have splitJ : cols * (j / cols) + j % cols = j := Nat.div_add_mod j cols
  constructor
  · rintro ⟨inside, rfl⟩
    have next : i + 1 = cols * (i / cols) + (i % cols + 1) := by omega
    rw [next, Nat.mul_add_div wide, Nat.mul_add_mod, Nat.div_eq_of_lt inside,
      Nat.mod_eq_of_lt inside, Nat.add_zero]
    exact ⟨rfl, rfl⟩
  · rintro ⟨sameRow, nextCol⟩
    have inside : j % cols < cols := Nat.mod_lt j wide
    rw [sameRow] at splitJ
    omega

/-- One step down stays in the column. -/
theorem step_below_iff (wide : 0 < cols) :
    j = i + cols ↔ j / cols = i / cols + 1 ∧ j % cols = i % cols := by
  constructor
  · rintro rfl
    exact ⟨Nat.add_div_right i wide, Nat.add_mod_right i cols⟩
  · rintro ⟨nextRow, sameCol⟩
    have splitI : cols * (i / cols) + i % cols = i := Nat.div_add_mod i cols
    have splitJ : cols * (j / cols) + j % cols = j := Nat.div_add_mod j cols
    rw [nextRow, sameCol, Nat.mul_succ] at splitJ
    omega

theorem mem_edges_grid_iff (wide : 0 < cols) : (i, j) ∈ (grid rows cols).edges ↔
    (i < rows * cols ∧ j < rows * cols) ∧
      ((j / cols = i / cols ∧ j % cols = i % cols + 1) ∨
        (j / cols = i / cols + 1 ∧ j % cols = i % cols)) := by
  have rowBound (k : Nat) : k / cols < rows ↔ k < rows * cols := Nat.div_lt_iff_lt_mul wide
  have member : (i, j) ∈ (grid rows cols).edges ↔ i < rows * cols ∧
      ((i % cols + 1 < cols ∧ j = i + 1) ∨ (i / cols + 1 < rows ∧ j = i + cols)) := by
    simp only [edges, size, List.mem_flatMap, List.mem_range, edgesFrom, List.mem_append,
      List.mem_ite_nil_right, List.mem_singleton, Prod.mk.injEq]
    grind
  rw [member, step_right_iff wide]
  constructor
  · rintro ⟨bound, ⟨sameRow, nextCol⟩ | ⟨below, rfl⟩⟩
    · exact ⟨⟨bound, (rowBound j).mp (sameRow ▸ (rowBound i).mpr bound)⟩, .inl ⟨sameRow, nextCol⟩⟩
    · have step := (step_below_iff wide).mp (rfl : i + cols = i + cols)
      exact ⟨⟨bound, (rowBound _).mp (step.1 ▸ below)⟩, .inr step⟩
  · rintro ⟨⟨bound, bound'⟩, right | below⟩
    · exact ⟨bound, .inl right⟩
    · exact ⟨bound, .inr ⟨below.1 ▸ (rowBound j).mpr bound', (step_below_iff wide).mpr below⟩⟩

/-- Nodes of a grid are linked exactly if they are at distance one. -/
theorem touches_grid_iff (wide : 0 < cols) : (grid rows cols).Touches i j ↔
    (i < rows * cols ∧ j < rows * cols) ∧ gridDistance cols i j = 1 := by
  unfold Touches gridDistance Nat.dist
  rw [mem_edges_grid_iff wide, mem_edges_grid_iff wide]
  omega

/-! ### Rings -/

theorem mem_edges_ring_iff : (i, j) ∈ (ring nodes).edges ↔ i < nodes ∧ j = (i + 1) % nodes := by
  simp only [edges, size, List.mem_flatMap, List.mem_range, edgesFrom, List.mem_singleton,
    Prod.mk.injEq]
  constructor
  · rintro ⟨_, bound, rfl, next⟩
    exact ⟨bound, next⟩
  · rintro ⟨bound, next⟩
    exact ⟨i, bound, rfl, next⟩

theorem edges_ring (nodes : Nat) :
    (ring nodes).edges = (List.range nodes).map fun i => (i, (i + 1) % nodes) :=
  List.map_eq_flatMap.symm

/-- One step forward around a ring. -/
theorem succ_mod_eq (bound : i < nodes) :
    (i + 1) % nodes = if i + 1 = nodes then 0 else i + 1 := by
  split
  · next last => rw [last, Nat.mod_self]
  · next inside => exact Nat.mod_eq_of_lt (by omega)

/-- One step back around a ring. -/
theorem pred_mod_eq (bound : i < nodes) :
    (i + nodes - 1) % nodes = if i = 0 then nodes - 1 else i - 1 := by
  split
  · next first => rw [first, Nat.zero_add, Nat.mod_eq_of_lt (by omega)]
  · next later =>
    have around : i + nodes - 1 = i - 1 + nodes := by omega
    rw [around, Nat.add_mod_right, Nat.mod_eq_of_lt (by omega)]

/-- Nodes of a ring are linked exactly if one comes after the other. -/
theorem touches_ring_iff : (ring nodes).Touches i j ↔
    i < nodes ∧ (j = (i + nodes - 1) % nodes ∨ j = (i + 1) % nodes) := by
  unfold Touches
  rw [mem_edges_ring_iff, mem_edges_ring_iff]
  constructor
  · rintro (⟨bound, forth⟩ | ⟨bound, back⟩)
    · exact ⟨bound, .inr forth⟩
    · rw [succ_mod_eq bound] at back
      have bound' : i < nodes := by split at back <;> omega
      rw [pred_mod_eq bound']
      refine ⟨bound', .inl ?_⟩
      split at back <;> split <;> omega
  · rintro ⟨bound, back | forth⟩
    · right
      have bound' : j < nodes := back ▸ Nat.mod_lt _ (by omega)
      rw [pred_mod_eq bound] at back
      rw [succ_mod_eq bound']
      refine ⟨bound', ?_⟩
      split at back <;> split <;> omega
    · exact .inl ⟨bound, forth⟩

end Shape

namespace Topology

/-! ### Neighbours -/

section Neighbors

variable {t : Topology} {i j : Nat}

theorem mem_partners_iff : j ∈ t.partners i ↔
    (i, j) ∈ t.edges.map (fun e => (e.a, e.b)) ∨ (j, i) ∈ t.edges.map (fun e => (e.a, e.b)) := by
  simp only [partners, List.mem_flatMap, List.mem_append, List.mem_ite_nil_right,
    List.mem_singleton, List.mem_map, Prod.mk.injEq]
  constructor
  · rintro ⟨e, member, ⟨rfl, rfl⟩ | ⟨rfl, rfl⟩⟩
    · exact .inl ⟨e, member, rfl, rfl⟩
    · exact .inr ⟨e, member, rfl, rfl⟩
  · rintro (⟨e, member, rfl, rfl⟩ | ⟨e, member, rfl, rfl⟩)
    · exact ⟨e, member, .inl ⟨rfl, rfl⟩⟩
    · exact ⟨e, member, .inr ⟨rfl, rfl⟩⟩

/-- Removing repetitions removes no value. The induction is on what is left of the list, behind the
values that have been passed. -/
theorem mem_eraseRepsLoop {a : Nat} {rest passed : List Nat} :
    j ∈ List.eraseRepsBy.loop (· == ·) a rest passed ↔ j ∈ passed ∨ j = a ∨ j ∈ rest := by
  induction rest generalizing a passed with
  | nil => simp [List.eraseRepsBy.loop, or_comm]
  | cons b rest ih =>
    rw [List.eraseRepsBy.loop]
    cases repeated : a == b with
    | true =>
      have same : a = b := beq_iff_eq.mp repeated
      simp [ih, same]
    | false =>
      simp only [ih, List.mem_cons]
      tauto

theorem mem_eraseReps {l : List Nat} : j ∈ l.eraseReps ↔ j ∈ l := by
  cases l with
  | nil => rfl
  | cons a rest =>
    rw [List.eraseReps, List.eraseRepsBy, mem_eraseRepsLoop, List.mem_cons]
    exact or_iff_right List.not_mem_nil

/-- Without repetitions a sorted list increases strictly. What has been passed is in reverse. -/
theorem pairwise_eraseRepsLoop {a : Nat} {rest passed : List Nat}
    (before : (a :: passed).Pairwise (· > ·)) (sorted : (a :: rest).Pairwise (· ≤ ·)) :
    (List.eraseRepsBy.loop (· == ·) a rest passed).Pairwise (· < ·) := by
  induction rest generalizing a passed with
  | nil => exact List.pairwise_reverse.mpr before
  | cons b rest ih =>
    obtain ⟨least, later⟩ := List.pairwise_cons.mp sorted
    rw [List.eraseRepsBy.loop]
    cases repeated : a == b with
    | true =>
      have same : a = b := beq_iff_eq.mp repeated
      exact ih before (same ▸ later)
    | false =>
      have different : a ≠ b := beq_eq_false_iff_ne.mp repeated
      have next : a < b := Nat.lt_of_le_of_ne (least b List.mem_cons_self) different
      refine ih (List.pairwise_cons.mpr ⟨fun x member => ?_, before⟩) later
      rcases List.mem_cons.mp member with rfl | earlier
      · exact next
      · exact Nat.lt_trans (List.rel_of_pairwise_cons before earlier) next

theorem pairwise_eraseReps {l : List Nat} (sorted : l.Pairwise (· ≤ ·)) :
    l.eraseReps.Pairwise (· < ·) := by
  cases l with
  | nil => exact List.Pairwise.nil
  | cons a rest => exact pairwise_eraseRepsLoop (List.pairwise_singleton _ a) sorted

theorem mem_neighbors_iff : j ∈ t.neighbors i ↔ i < t.size ∧ j ∈ t.partners i := by
  unfold neighbors
  split
  · next inside => rw [mem_eraseReps, List.mem_mergeSort, and_iff_right inside]
  · next outside => exact iff_of_false List.not_mem_nil fun both => outside both.1

theorem pairwise_neighbors (t : Topology) (i : Nat) : (t.neighbors i).Pairwise (· < ·) := by
  have sorted : (t.partners i).mergeSort.Pairwise (· ≤ ·) := by
    refine (List.pairwise_mergeSort (fun x y z => ?_) (fun x y => ?_) _).imp of_decide_eq_true
    · simp only [decide_eq_true_eq]
      exact Nat.le_trans
    · simpa using Nat.le_total x y
  unfold neighbors
  split
  · exact pairwise_eraseReps sorted
  · exact List.Pairwise.nil

theorem IsShaped.bounds_of_touches (h : t.IsShaped) (touches : t.shape.Touches i j) :
    i < t.size ∧ j < t.size := by
  rw [h.size]
  rcases touches with forth | back
  · have inside := Shape.mem_edges h.large forth
    exact ⟨inside.1, inside.2.1⟩
  · have inside := Shape.mem_edges h.large back
    exact ⟨inside.2.1, inside.1⟩

/-- The neighbours of a node are the nodes that it is linked to in the shape. -/
theorem IsShaped.mem_neighbors_iff (h : t.IsShaped) :
    j ∈ t.neighbors i ↔ t.shape.Touches i j := by
  rw [Topology.mem_neighbors_iff, mem_partners_iff, h.edges]
  exact ⟨And.right, fun touches => ⟨(h.bounds_of_touches touches).1, touches⟩⟩

/-- Sorted and without repetitions, the partners of a node are the numbers among all nodes that are
partners of it. -/
theorem IsShaped.neighbors_eq (h : t.IsShaped) (inside : i < t.size) :
    t.neighbors i = (List.range t.size).filter (t.partners i).contains := by
  have strict : ((List.range t.size).filter (t.partners i).contains).Pairwise (· < ·) :=
    List.pairwise_lt_range.filter _
  have members (j : Nat) :
      j ∈ t.neighbors i ↔ j ∈ (List.range t.size).filter (t.partners i).contains := by
    rw [List.mem_filter, List.mem_range, List.contains_iff_mem, Topology.mem_neighbors_iff]
    refine and_congr_left fun partner => iff_of_true inside ?_
    have touches : t.shape.Touches i j := h.mem_neighbors_iff.mp
      (Topology.mem_neighbors_iff.mpr ⟨inside, partner⟩)
    exact (h.bounds_of_touches touches).2
  have distinct : (t.neighbors i).Nodup := (t.pairwise_neighbors i).imp Nat.ne_of_lt
  refine List.Perm.eq_of_pairwise (fun a b _ _ less more => ?_) (t.pairwise_neighbors i) strict
    ((List.perm_ext_iff_of_nodup distinct (strict.imp Nat.ne_of_lt)).mpr members)
  exact absurd more (Nat.lt_asymm less)

/-- In a ring each node has two neighbours, which are the same one in a ring of two. -/
theorem IsShaped.length_neighbors_ring {nodes : Nat} (h : t.IsShaped) (ring : t.shape = .ring nodes)
    (bound : i < nodes) : (t.neighbors i).length = if nodes = 2 then 1 else 2 := by
  have large : 2 ≤ nodes := by
    have large := h.large
    rw [ring] at large
    exact large
  have members (j : Nat) :
      j ∈ t.neighbors i ↔ j = (i + nodes - 1) % nodes ∨ j = (i + 1) % nodes := by
    rw [h.mem_neighbors_iff, ring, Shape.touches_ring_iff, and_iff_right bound]
  have distinct : (t.neighbors i).Nodup := (t.pairwise_neighbors i).imp Nat.ne_of_lt
  have apart : (i + nodes - 1) % nodes = (i + 1) % nodes ↔ nodes = 2 := by
    rw [Shape.pred_mod_eq bound, Shape.succ_mod_eq bound]
    split <;> split <;> omega
  split
  · next two =>
    have alone : (t.neighbors i).Perm [(i + 1) % nodes] := by
      refine (List.perm_ext_iff_of_nodup distinct (List.nodup_singleton _)).mpr ?_
      intro j
      rw [members, apart.mpr two, or_self, List.mem_singleton]
    exact alone.length_eq
  · next more =>
    have both : (t.neighbors i).Perm [(i + nodes - 1) % nodes, (i + 1) % nodes] := by
      refine (List.perm_ext_iff_of_nodup distinct ?_).mpr ?_
      · exact List.nodup_cons.mpr ⟨fun same => more (apart.mp (List.mem_singleton.mp same)),
          List.nodup_singleton _⟩
      · intro j
        rw [members, List.mem_pair]
    exact both.length_eq

end Neighbors

/-! ### Topologies as graphs -/

/-- Whether a topology is a grid: its nodes by their positions, its links in order, and the neighbours
of each node. -/
structure IsGrid (t : Topology) (rows cols : Nat) : Prop where
  size : t.size = rows * cols
  cells : ∀ row < rows, ∀ col < cols, t.nodeIndex row col = .ok (row * cols + col) ∧
    ∃ n, t.nodeAt (.cell row col) = .ok n ∧ n.position = .cell row col
  outside : ∀ row col, ¬ (row < rows ∧ col < cols) →
    t.nodeIndex row col = .error (.nodeNotFound (Position.cell row col).label) ∧
      t.nodeAt (.cell row col) = .error (.nodeNotFound (Position.cell row col).label)
  links : t.edges.map (fun e => (e.a, e.b)) = Shape.gridLinks rows cols
  linkCount : t.edges.length = rows * (cols - 1) + cols * (rows - 1)
  neighbors : ∀ i j, j ∈ t.neighbors i ↔
    (i < rows * cols ∧ j < rows * cols) ∧ Shape.gridDistance cols i j = 1

/-- Whether a topology is a ring. -/
structure IsRing (t : Topology) (nodes : Nat) : Prop where
  size : t.size = nodes
  links : t.edges.map (fun e => (e.a, e.b)) = (List.range nodes).map fun i => (i, (i + 1) % nodes)
  linkCount : t.edges.length = nodes
  neighbors : ∀ i < nodes, (∀ j, j ∈ t.neighbors i ↔
    j = (i + nodes - 1) % nodes ∨ j = (i + 1) % nodes) ∧
      (t.neighbors i).length = if nodes = 2 then 1 else 2

/-- Whether a topology has the graph of a shape. -/
def Draws (t : Topology) : Shape → Prop
  | .grid rows cols => t.IsGrid rows cols
  | .ring nodes => t.IsRing nodes

/-- Whether a topology becomes another one when some device is attached to it, in some
configuration. -/
def ConnectsTo (t t' : Topology) : Prop :=
  ∃ c device p c' x, t.connect c device p = .ok (c', t', x)

section Graphs

variable {t t' : Topology} {b : Builder} {c c' : Config}

/-- Devices that are attached leave the graph as it is. -/
theorem ConnectsTo.same_graph (h : t.ConnectsTo t') :
    t'.shape = t.shape ∧ t'.nodes = t.nodes ∧ t'.edges = t.edges := by
  obtain ⟨c, device, p, c', x, connected⟩ := h
  obtain ⟨_, _, attached⟩ := connect_eq_ok_iff.mp connected
  obtain ⟨_, _, _, _, rfl, _⟩ := linked_of_attach attached
  exact ⟨rfl, rfl, rfl⟩

theorem IsShaped.isRing {nodes : Nat} (h : t.IsShaped) (ring : t.shape = .ring nodes) :
    t.IsRing nodes where
  size := by rw [h.size, ring, Shape.size]
  links := by rw [h.edges, ring, Shape.edges_ring]
  linkCount := by
    have links := congrArg List.length h.edges
    rw [ring, Shape.edges_ring, List.length_map, List.length_map, List.length_range] at links
    exact links
  neighbors := by
    intro i bound
    refine ⟨?_, h.length_neighbors_ring ring bound⟩
    intro j
    rw [h.mem_neighbors_iff, ring, Shape.touches_ring_iff, and_iff_right bound]

/-- A grid is drawn if its nodes know their positions. -/
theorem IsShaped.isGrid {rows cols : Nat} (h : t.IsShaped) (grid : t.shape = .grid rows cols)
    (positions : ∀ index < t.size, ∃ n, t.nodes[index]? = some n ∧
      n.position = .cell (index / cols) (index % cols)) : t.IsGrid rows cols where
  size := by rw [h.size, grid, Shape.size]
  cells := by
    intro row hrow col hcol
    have resolved : t.nodeIndex row col = .ok (row * cols + col) := by
      rw [nodeIndex_grid grid, if_pos ⟨hrow, hcol⟩]
    refine ⟨resolved, ?_⟩
    have bound : row * cols + col < t.size := by
      have rowsBelow : (row + 1) * cols ≤ rows * cols := Nat.mul_le_mul_right cols hrow
      rw [h.size, grid, Shape.size]
      rw [Nat.succ_mul] at rowsBelow
      omega
    obtain ⟨n, atIndex, position⟩ := positions _ bound
    refine ⟨n, nodeAt_eq_ok_iff.mpr ⟨_, resolved, atIndex⟩, ?_⟩
    rw [position, Nat.mul_add_mod_of_lt hcol, Nat.mul_comm, Nat.mul_add_div (by omega),
      Nat.div_eq_of_lt hcol, Nat.add_zero]
  outside := by
    intro row col outside
    have missing : t.nodeIndex row col =
        .error (.nodeNotFound (Position.cell row col).label) := by
      rw [nodeIndex_grid grid, if_neg outside, Position.label]
    refine ⟨missing, ?_⟩
    rw [nodeAt, resolve, missing, error_bind]
  links := by rw [h.edges, grid, Shape.edges_grid]
  linkCount := by
    have links := congrArg List.length h.edges
    rw [grid, Shape.edges_grid, Shape.length_gridLinks, List.length_map] at links
    exact links
  neighbors := by
    intro i j
    have large := h.large
    rw [grid] at large
    obtain ⟨_, wide⟩ : 2 ≤ rows ∧ 2 ≤ cols := large
    rw [h.mem_neighbors_iff, grid, Shape.touches_grid_iff (Nat.zero_lt_of_lt wide)]

end Graphs

end Topology

namespace Builder

open IsisTestbed.Topology

variable {b : Builder} {c c' : Config} {t t₀ : Topology} {rows cols : Nat}

/-- Nodes know where they stand when they are built. -/
theorem position_of_build (built : b.build c = .ok (c', t)) {index : Nat} (bound : index < t.size) :
    ∃ n, t.nodes[index]? = some n ∧ n.position = b.shape.position index := by
  obtain ⟨octet, _, _, added⟩ := added_of_build built
  exact ⟨_, added.node_at (added.size_eq ▸ bound), rfl⟩

/-- A topology with the nodes of a grid as they were built is drawn as that grid. -/
theorem isGrid_of_build (built : b.build c = .ok (c', t₀)) (grid : b.shape = .grid rows cols)
    (shaped : t.IsShaped) (shape : t.shape = b.shape) (nodes : t.nodes = t₀.nodes) :
    t.IsGrid rows cols := by
  refine shaped.isGrid (shape.trans grid) fun index bound => ?_
  have positions := @position_of_build b c c' t₀ built index
  rw [Topology.size, ← nodes, grid] at positions
  exact positions bound

/-- The number that the table of a grid has at a cell is that of the node that was created there. -/
theorem nodeIndex_eq_ok_iff_of_build {row col index : Nat} (built : b.build c = .ok (c', t))
    (grid : b.shape = .grid rows cols) : t.nodeIndex row col = .ok index ↔
      ∃ n, t.nodes[index]? = some n ∧ n.position = .cell row col := by
  obtain ⟨octet, _, _, added⟩ := added_of_build built
  have drawn : t.IsGrid rows cols :=
    isGrid_of_build built grid (IsBuilt.build built).isShaped added.shape rfl
  constructor
  · intro found
    by_cases inside : row < rows ∧ col < cols
    · obtain ⟨resolved, n, stands, position⟩ := drawn.cells row inside.1 col inside.2
      obtain ⟨_, resolved', atIndex⟩ := nodeAt_eq_ok_iff.mp stands
      cases found.symm.trans resolved'
      exact ⟨n, atIndex, position⟩
    · have missing := (drawn.outside row col inside).1
      cases found.symm.trans missing
  · rintro ⟨n, atIndex, position⟩
    have bound : index < t.size := (List.getElem?_eq_some_iff.mp atIndex).1
    obtain ⟨n', atIndex', stands⟩ := position_of_build built bound
    cases atIndex.symm.trans atIndex'
    rw [grid] at stands
    obtain ⟨rfl, rfl⟩ : index / cols = row ∧ index % cols = col := by
      simpa only [Shape.position, Position.cell.injEq] using stands.symm.trans position
    rw [drawn.size] at bound
    have wide : 0 < cols := Nat.pos_of_ne_zero fun none => by simp [none] at bound
    rw [(drawn.cells _ ((Nat.div_lt_iff_lt_mul wide).mpr bound) _ (Nat.mod_lt index wide)).1,
      Nat.div_add_mod']

/-- Whatever is attached to a topology after it was built, and in whatever configurations, it is the
graph of its shape. Neighbours come in increasing order, without repetition and in both directions,
and outside of the topology there are none. -/
theorem graph_of_build (built : b.build c = .ok (c', t₀))
    (attached : Relation.ReflTransGen ConnectsTo t₀ t) :
    t.Draws b.shape ∧ (∀ i, (t.neighbors i).Pairwise (· < ·)) ∧
      (∀ i j, j ∈ t.neighbors i ↔ i ∈ t.neighbors j) ∧
      ∀ i, t.size ≤ i → t.neighbors i = [] := by
  obtain ⟨octet, _, _, added⟩ := added_of_build built
  have same : t.IsBuilt ∧ t.shape = t₀.shape ∧ t.nodes = t₀.nodes := by
    induction attached with
    | refl => exact ⟨.build built, rfl, rfl⟩
    | tail _ connects ih =>
      obtain ⟨shape, nodes, _⟩ := connects.same_graph
      obtain ⟨_, _, _, _, _, connected⟩ := connects
      exact ⟨.connect ih.1 connected, shape.trans ih.2.1, nodes.trans ih.2.2⟩
  obtain ⟨isBuilt, sameShape, nodes⟩ := same
  have shaped := isBuilt.isShaped
  have shape : t.shape = b.shape := sameShape.trans added.shape
  refine ⟨?_, t.pairwise_neighbors, ?_, ?_⟩
  · cases form : b.shape with
    | ring nodes => exact shaped.isRing (shape.trans form)
    | grid rows cols => exact isGrid_of_build built form shaped shape nodes
  · intro i j
    rw [shaped.mem_neighbors_iff, shaped.mem_neighbors_iff]
    exact Or.comm
  · intro i outside
    exact if_neg (Nat.not_lt.mpr outside)

/-- A grid that the tester is attached to, and a ring of two nodes, each of which has the other one as
its only neighbour although two links lead to it. -/
theorem graph_of_build_of_attached :
    (∃ c t₀ c' t x, Session.smallGrid.build Session.testerConfig = .ok (c, t₀) ∧
      t₀.connect c "tester" (.cell 1 1) = .ok (c', t, x) ∧ t.IsGrid 2 2 ∧
      t.neighbors 3 = [1, 2]) ∧
    ∃ c t, twoRing.build {} = .ok (c, t) ∧ t.IsRing 2 ∧ t.neighbors 0 = [1] := by
  constructor
  · have partners : ((Session.smallGrid.build Session.testerConfig).toOption.bind fun first =>
        (first.2.connect first.1 "tester" (.cell 1 1)).toOption.map fun second =>
          (List.range second.2.1.size).filter (second.2.1.partners 3).contains) =
        some [1, 2] := by
      decide +kernel
    cases built : Session.smallGrid.build Session.testerConfig with
    | error e => simp [built, Except.toOption] at partners
    | ok first =>
      obtain ⟨c, t₀⟩ := first
      cases connected : t₀.connect c "tester" (.cell 1 1) with
      | error e => simp [built, connected, Except.toOption] at partners
      | ok second =>
        obtain ⟨c', t, x⟩ := second
        simp only [built, connected, Except.toOption, Option.bind_some, Option.map_some,
          Option.some.injEq] at partners
        have drawn : t.IsGrid 2 2 :=
          (graph_of_build built (.single ⟨c, _, _, c', x, connected⟩)).1
        have inside : 3 < t.size := by
          rw [drawn.size]
          decide
        have shaped : t.IsShaped := (IsBuilt.connect (.build built) connected).isShaped
        exact ⟨c, t₀, c', t, x, rfl, connected, drawn, (shaped.neighbors_eq inside).trans partners⟩
  · have partners : ((twoRing.build {}).toOption.map fun result =>
        (List.range result.2.size).filter (result.2.partners 0).contains) = some [1] := by
      decide +kernel
    cases built : twoRing.build {} with
    | error e => simp [built, Except.toOption] at partners
    | ok result =>
      obtain ⟨c, t⟩ := result
      simp only [built, Except.toOption, Option.map_some, Option.some.injEq] at partners
      have drawn : t.IsRing 2 := (graph_of_build built .refl).1
      have inside : 0 < t.size := by
        rw [drawn.size]
        decide
      have shaped : t.IsShaped := (IsBuilt.build built).isShaped
      exact ⟨c, t, rfl, drawn, (shaped.neighbors_eq inside).trans partners⟩

end Builder

end IsisTestbed
