import IsisTestbed.Proofs.Topology.Connecting

/-!
Devices that are attached in either order. What attaching a device adds is computed from the two
devices that are linked and from the nodes of the topology, so it is the same in every configuration
that holds the same two devices at the same positions. Two connects that concern four different
devices therefore succeed in both orders or in none, and the outcome is the same; only the list of
attachments of a topology tells which of them came first.
-/

namespace IsisTestbed

/-- Changes at two different positions can be made in either order. -/
theorem Config.modifyDevice_comm {c : Config} {i j : Nat} {f g : Device → Device}
    (different : i ≠ j) :
    (c.modifyDevice i f).modifyDevice j g = (c.modifyDevice j g).modifyDevice i f := by
  simp only [modifyDevice, List.modify_modify_ne f g c.devices different]

namespace Topology

section Independence

variable {t t' u u₁ s : Topology} {c c' c₁ c₂ : Config} {device device' : String}
  {p p' : Position} {n : Node} {i j i' j' : Nat} {x y : Attachment} {endA endB : Ethernet}
  {attachments : List Attachment}

/-! ### Links of other devices -/

/-- Of four different positions, the first two are apart from the last two. -/
theorem ne_of_nodup (distinct : [i, j, i', j'].Nodup) :
    i ≠ i' ∧ i ≠ j' ∧ j ≠ i' ∧ j ≠ j' := by
  simp only [List.nodup_cons, List.mem_cons, not_or] at distinct
  obtain ⟨⟨_, firstThird, firstFourth, _⟩, ⟨secondThird, secondFourth, _⟩, _⟩ := distinct
  exact ⟨firstThird, firstFourth, secondThird, secondFourth⟩

theorem linkedConfig_comm {endA' endB' : Ethernet} (distinct : [i, j, i', j'].Nodup) :
    linkedConfig (linkedConfig c i j endA endB) i' j' endA' endB' =
      linkedConfig (linkedConfig c i' j' endA' endB') i j endA endB := by
  obtain ⟨i_ne_i', i_ne_j', j_ne_i', j_ne_j'⟩ := ne_of_nodup distinct
  simp only [linkedConfig]
  rw [Config.modifyDevice_comm j_ne_i', Config.modifyDevice_comm i_ne_i',
    Config.modifyDevice_comm j_ne_j', Config.modifyDevice_comm i_ne_j']

theorem getElem?_linkedConfig_of_ne {k : Nat} (apartA : i ≠ k) (apartB : j ≠ k) :
    (linkedConfig c i j endA endB).devices[k]? = c.devices[k]? := by
  rw [linkedConfig, Config.getElem?_modifyDevice_of_ne apartB,
    Config.getElem?_modifyDevice_of_ne apartA]

/-- After a link, devices are found where they were. -/
theorem finds_linkedConfig (found : t.Finds c device p n i j) :
    t.Finds (linkedConfig c i' j' endA endB) device p n i j := by
  have index (name : String) :
      (linkedConfig c i' j' endA endB).deviceIndex name = c.deviceIndex name := by
    rw [linkedConfig, Config.deviceIndex_modifyDevice fun _ _ => name_addEnd,
      Config.deviceIndex_modifyDevice fun _ _ => name_addEnd]
  exact ⟨found.node, (index _).trans found.emulated, (index _).trans found.simulated⟩

/-! ### Attaching is local -/

/-- A connect that succeeds does so in every configuration with the same two devices at the same
positions, and adds the same ends of a link there. -/
theorem Finds.connect_local (found : t.Finds c device p n i j)
    (connected : t.connect c device p = .ok (c', t', x)) :
    ∃ endA endB, c' = linkedConfig c i j endA endB ∧
      ∀ d : Config, t.Finds d device p n i j → d.devices[i]? = c.devices[i]? →
        d.devices[j]? = c.devices[j]? →
        t.connect d device p = .ok (linkedConfig d i j endA endB, t', x) := by
  obtain ⟨index, resolved, attached⟩ := connect_eq_ok_iff.mp connected
  obtain ⟨m, k, l, link, atIndex, emulated, simulated, linked, rfl, rfl⟩ :=
    attach_eq_ok_iff.mp attached
  -- What is looked up on the way is what was found.
  have node := nodeAt_eq_ok_iff.mpr ⟨index, resolved, atIndex⟩
  cases found.node.symm.trans node
  cases found.emulated.symm.trans emulated
  cases found.simulated.symm.trans simulated
  obtain ⟨addressed, sizeFits, indexFits, _⟩ := linkable_of_connectDevices linked
  obtain ⟨first, second, linkable, rfl, rfl⟩ := eq_of_connectDevices linked
  refine ⟨_, _, rfl, fun d foundThere atFirst atSecond => ?_⟩
  have linkableThere : Linkable d i j first second :=
    { linkable with
      atFirst := atFirst.trans linkable.atFirst
      atSecond := atSecond.trans linkable.atSecond }
  exact connect_eq_ok_iff.mpr ⟨index, resolved, attach_eq_ok_iff.mpr ⟨n, i, j, _, atIndex,
    foundThere.emulated, foundThere.simulated,
    connectDevices_eq addressed sizeFits indexFits linkableThere, rfl, rfl⟩⟩

/-- Earlier attachments make no difference. -/
theorem connect_withAttachments :
    { t with attachments }.connect c device p = .ok (c', t', x) ↔
      t' = { t with attachments := attachments ++ [x] } ∧
        t.connect c device p = .ok (c', { t with attachments := t.attachments ++ [x] }, x) := by
  have same (index : Nat) : { t with attachments }.attach c device index = .ok (c', t', x) ↔
      t' = { t with attachments := attachments ++ [x] } ∧
        t.attach c device index = .ok (c', { t with attachments := t.attachments ++ [x] }, x) := by
    rw [attach_eq_ok_iff, attach_eq_ok_iff]
    constructor
    · rintro ⟨n, i, j, link, atIndex, emulated, simulated, linked, rfl, rfl⟩
      exact ⟨rfl, n, i, j, link, atIndex, emulated, simulated, linked, rfl, rfl⟩
    · rintro ⟨rfl, n, i, j, link, atIndex, emulated, simulated, linked, rfl, _⟩
      exact ⟨n, i, j, link, atIndex, emulated, simulated, linked, rfl, rfl⟩
  constructor
  · intro connected
    obtain ⟨index, resolved, attached⟩ := connect_eq_ok_iff.mp connected
    obtain ⟨after, attached⟩ := (same index).mp attached
    exact ⟨after, connect_eq_ok_iff.mpr ⟨index, resolved, attached⟩⟩
  · rintro ⟨rfl, connected⟩
    obtain ⟨index, resolved, attached⟩ := connect_eq_ok_iff.mp connected
    exact connect_eq_ok_iff.mpr ⟨index, resolved, (same index).mpr ⟨rfl, attached⟩⟩

theorem attachments_of_connect (connected : t.connect c device p = .ok (c', t', x)) :
    t' = { t with attachments := t.attachments ++ [x] } :=
  (connects_of_connect connected).topology

/-! ### Attaching in either order -/

/-- Whether two devices, and the nodes to which they are to be attached, are found as four different
devices of a configuration. -/
def Independent (t u : Topology) (c : Config) (device device' : String) (p p' : Position) : Prop :=
  ∃ n i j n' i' j', t.Finds c device p n i j ∧ u.Finds c device' p' n' i' j' ∧
    [i, j, i', j'].Nodup

/-- The positions of a device and of the device of a node. -/
def positions? (t : Topology) (c : Config) (device : String) (p : Position) : Option (Nat × Nat) := do
  let n ← (t.nodeAt p).toOption
  return (← (c.deviceIndex device).toOption, ← (c.deviceIndex n.name).toOption)

theorem positions?_eq_some_iff :
    t.positions? c device p = some (i, j) ↔ ∃ n, t.Finds c device p n i j := by
  have given {ε α : Type} (r : Except ε α) (a : α) : r.toOption = some a ↔ r = .ok a := by
    cases r <;> simp [Except.toOption]
  simp only [positions?, Option.bind_eq_bind, Option.bind_eq_some_iff, Option.pure_def, given,
    Option.some.injEq, Prod.mk.injEq]
  constructor
  · rintro ⟨n, node, _, emulated, _, simulated, rfl, rfl⟩
    exact ⟨n, node, emulated, simulated⟩
  · rintro ⟨n, found⟩
    exact ⟨n, found.node, i, found.emulated, j, found.simulated, rfl, rfl⟩

theorem independent_of_positions? (h : t.positions? c device p = some (i, j))
    (h' : u.positions? c device' p' = some (i', j')) (distinct : [i, j, i', j'].Nodup) :
    Independent t u c device device' p p' := by
  obtain ⟨n, found⟩ := positions?_eq_some_iff.mp h
  obtain ⟨n', found'⟩ := positions?_eq_some_iff.mp h'
  exact ⟨n, i, j, n', i', j', found, found', distinct⟩

/-- A connect can be moved in front of another one that concerns other devices. -/
theorem Independent.swap (h : Independent t u c device device' p p')
    (first : t.connect c device p = .ok (c₁, t', x))
    (second : u.connect c₁ device' p' = .ok (c₂, u₁, y)) :
    ∃ d₁, u.connect c device' p' = .ok (d₁, u₁, y) ∧
      t.connect d₁ device p = .ok (c₂, t', x) := by
  obtain ⟨n, i, j, n', i', j', found, found', distinct⟩ := h
  obtain ⟨endA, endB, rfl, anywhere⟩ := found.connect_local first
  obtain ⟨endA', endB', rfl, anywhere'⟩ := (finds_linkedConfig found').connect_local second
  obtain ⟨i_ne_i', i_ne_j', j_ne_i', j_ne_j'⟩ := ne_of_nodup distinct
  have alone := anywhere' c found' (getElem?_linkedConfig_of_ne i_ne_i' j_ne_i').symm
    (getElem?_linkedConfig_of_ne i_ne_j' j_ne_j').symm
  have after := anywhere (linkedConfig c i' j' endA' endB') (finds_linkedConfig found)
    (getElem?_linkedConfig_of_ne i_ne_i'.symm i_ne_j'.symm)
    (getElem?_linkedConfig_of_ne j_ne_i'.symm j_ne_j'.symm)
  exact ⟨_, alone, linkedConfig_comm distinct ▸ after⟩

/-- Connects that concern four different devices commute, whether the nodes are of two topologies or
of the same one: if one of them succeeds after the other, both succeed in the other order too, with
the same attachments and the same configuration in the end. Of the two attachments of one topology,
only the order differs. -/
theorem connects_commute (c : Config) (device device' : String) (p p' : Position) :
    (∀ t u, Independent t u c device device' p p' → ∀ c₁ t₁ x c₂ u₁ y,
      t.connect c device p = .ok (c₁, t₁, x) → u.connect c₁ device' p' = .ok (c₂, u₁, y) →
      ∃ d₁, u.connect c device' p' = .ok (d₁, u₁, y) ∧
        t.connect d₁ device p = .ok (c₂, t₁, x)) ∧
    ∀ t, Independent t t c device device' p p' → ∀ c₁ t₁ x c₂ t₂ y,
      t.connect c device p = .ok (c₁, t₁, x) → t₁.connect c₁ device' p' = .ok (c₂, t₂, y) →
      t₂ = { t with attachments := t.attachments ++ [x, y] } ∧
      ∃ d₁ s₁, t.connect c device' p' = .ok (d₁, s₁, y) ∧
        s₁.connect d₁ device p =
          .ok (c₂, { t with attachments := t.attachments ++ [y, x] }, x) := by
  constructor
  · intro t u independent c₁ t₁ x c₂ u₁ y first second
    exact independent.swap first second
  · intro t independent c₁ t₁ x c₂ t₂ y first second
    cases attachments_of_connect first
    obtain ⟨both, second⟩ := connect_withAttachments.mp second
    obtain ⟨d₁, alone, after⟩ := independent.swap first second
    rw [List.append_assoc] at both
    refine ⟨both, d₁, _, alone, connect_withAttachments.mpr ⟨?_, after⟩⟩
    rw [List.append_assoc]
    rfl

end Independence

/-- The tester is attached to the grid, before or after a node of the grid is attached to the ring,
and before or after a node of the ring is attached to the grid. -/
theorem connects_commute_of_tester :
    ∃ b t c u c₁ t₁ x, Session.smallGrid.build Session.testerConfig = .ok (b, t) ∧
      Session.smallRing.build b = .ok (c, u) ∧
      t.connect c "tester" (.cell 1 1) = .ok (c₁, t₁, x) ∧
      (∃ c₂ d₁ u₁ y, u.connect c₁ "T01d1.sim.0.0" (.station 2) = .ok (c₂, u₁, y) ∧
        u.connect c "T01d1.sim.0.0" (.station 2) = .ok (d₁, u₁, y) ∧
        t.connect d₁ "tester" (.cell 1 1) = .ok (c₂, t₁, x)) ∧
      ∃ c₂ d₁ s₁ y, t₁.connect c₁ "T02d1.sim.0" (.cell 0 0) =
          .ok (c₂, { t with attachments := t.attachments ++ [x, y] }, y) ∧
        t.connect c "T02d1.sim.0" (.cell 0 0) = .ok (d₁, s₁, y) ∧
        s₁.connect d₁ "tester" (.cell 1 1) =
          .ok (c₂, { t with attachments := t.attachments ++ [y, x] }, x) := by
  have outcomes : (Session.smallGrid.build Session.testerConfig).toOption.bind (fun built =>
      (Session.smallRing.build built.1).toOption.map fun built' =>
        ([built.2.positions? built'.1 "tester" (.cell 1 1),
          built'.2.positions? built'.1 "T01d1.sim.0.0" (.station 2),
          built.2.positions? built'.1 "T02d1.sim.0" (.cell 0 0)],
        (built.2.connect built'.1 "tester" (.cell 1 1)).toOption.map fun connected =>
          ((built'.2.connect connected.1 "T01d1.sim.0.0" (.station 2)).toOption.isSome,
            (connected.2.1.connect connected.1 "T02d1.sim.0" (.cell 0 0)).toOption.isSome))) =
      some ([some (0, 4), some (1, 7), some (5, 1)], some (true, true)) := by decide +kernel
  cases builtGrid : Session.smallGrid.build Session.testerConfig with
  | error e => simp [builtGrid, Except.toOption] at outcomes
  | ok result =>
    obtain ⟨b, t⟩ := result
    cases builtRing : Session.smallRing.build b with
    | error e => simp [builtGrid, builtRing, Except.toOption] at outcomes
    | ok result =>
      obtain ⟨c, u⟩ := result
      simp only [builtGrid, builtRing, Except.toOption, Option.bind_some, Option.map_some,
        Option.some.injEq, Prod.mk.injEq, List.cons.injEq, and_true] at outcomes
      obtain ⟨⟨tester, onRing, onGrid⟩, succeed⟩ := outcomes
      cases first : t.connect c "tester" (.cell 1 1) with
      | error e => simp [first] at succeed
      | ok result =>
        obtain ⟨c₁, t₁, x⟩ := result
        simp only [first, Option.map_some, Option.some.injEq, Prod.mk.injEq] at succeed
        obtain ⟨ring, grid⟩ := succeed
        refine ⟨b, t, c, u, c₁, t₁, x, rfl, builtRing, first, ?_, ?_⟩
        · cases second : u.connect c₁ "T01d1.sim.0.0" (.station 2) with
          | error e => simp [second] at ring
          | ok result =>
            obtain ⟨c₂, u₁, y⟩ := result
            have independent := independent_of_positions? tester onRing (by decide)
            obtain ⟨d₁, alone, after⟩ := (connects_commute c "tester" "T01d1.sim.0.0" (.cell 1 1)
              (.station 2)).1 t u independent c₁ t₁ x c₂ u₁ y first second
            exact ⟨c₂, d₁, u₁, y, rfl, alone, after⟩
        · cases second : t₁.connect c₁ "T02d1.sim.0" (.cell 0 0) with
          | error e => simp [second] at grid
          | ok result =>
            obtain ⟨c₂, t₂, y⟩ := result
            have independent := independent_of_positions? tester onGrid (by decide)
            obtain ⟨rfl, d₁, s₁, alone, after⟩ := (connects_commute c "tester" "T02d1.sim.0"
              (.cell 1 1) (.cell 0 0)).2 t independent c₁ t₁ x c₂ t₂ y first second
            exact ⟨c₂, d₁, s₁, y, rfl, alone, after⟩

end Topology

end IsisTestbed
