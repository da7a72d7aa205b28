import IsisTestbed.Proofs.Topology.Agreement
import IsisTestbed.Proofs.Topology.Attaching

/-!
Builds do not depend on each other. Once a builder succeeds anywhere, it succeeds wherever none of
its nodes is there yet, and always adds the same devices for the same topology. Two builders that
succeed one after the other therefore do so in either order; only the order of what they add differs.
-/

namespace IsisTestbed

theorem Config.append_devices (c : Config) (devices : List Device) :
    c.append { devices } = { c with devices := c.devices ++ devices } := by
  simp [append]

namespace Builder

open IsisTestbed.Topology

variable {b b' : Builder} {c c' x x' : Config} {t t' : Topology}

/-- Building is putting what is built alone behind a configuration. -/
theorem build_eq_append (h : b.build c = .ok (c', t)) :
    b.build {} = .ok (b.created, t) ∧ c' = c.append b.created ∧
      ∀ n ∈ t.nodes, n.name ∉ c.devices.map (·.name) := by
  obtain ⟨alone, appended, free⟩ := buildInPlace_eq_append (build_eq_ok_iff.mp h)
  exact ⟨build_eq_ok_iff.mpr alone, appended, free⟩

/-- What is built alone are the devices of the nodes, in order. -/
theorem names_of_build_empty (alone : b.build {} = .ok (x, t)) :
    x = { devices := x.devices } ∧ x.devices.map (·.name) = t.nodes.map (·.name) := by
  obtain ⟨again, _⟩ := build_eq_append alone
  obtain ⟨rfl, _⟩ := Prod.mk.inj (Except.ok.inj (alone.symm.trans again))
  have built := build_eq_ok_iff.mp alone
  exact ⟨created_eq_devices built, (agrees_created built).2.2.1⟩

/-- A builder that succeeds on the empty configuration succeeds on those without its nodes. -/
theorem accepts_of_build_empty (alone : b.build {} = .ok (x, t))
    (free : ∀ n ∈ t.nodes, n.name ∉ c.devices.map (·.name)) : b.Accepts c := by
  obtain ⟨octet, set, accepts, added⟩ := added_of_build alone
  refine ⟨accepts.large, accepts.few, accepts.octet, accepts.addressed, ?_⟩
  intro octet' set' name member
  cases set.symm.trans set'
  have names : t.nodes.map (·.name) = b.nodeNames octet := by
    rw [added.nodes]
    exact names_plannedNodes (b.plan octet) b.sites
  rw [← names] at member
  obtain ⟨n, hn, rfl⟩ := List.mem_map.mp member
  exact free n hn

/-- What a builder does on any configuration, by what it does on the empty one. -/
theorem build_eq_ok_iff_append (alone : b.build {} = .ok (x, t)) :
    b.build c = .ok (c', t') ↔
      c' = c.append x ∧ t' = t ∧ ∀ n ∈ t.nodes, n.name ∉ c.devices.map (·.name) := by
  have sameAlone {y : Config} {u : Topology} (again : b.build {} = .ok (y, u)) : y = x ∧ u = t :=
    Prod.mk.inj (Except.ok.inj (again.symm.trans alone))
  constructor
  · intro built
    obtain ⟨again, appended, free⟩ := build_eq_append built
    obtain ⟨created, rfl⟩ := sameAlone again
    exact ⟨created ▸ appended, rfl, free⟩
  · rintro ⟨rfl, rfl, free⟩
    obtain ⟨⟨c', t'⟩, built⟩ := exists_build_iff.mpr (accepts_of_build_empty alone free)
    obtain ⟨again, rfl, _⟩ := build_eq_append built
    obtain ⟨created, rfl⟩ := sameAlone again
    exact created ▸ built

/-- Two builders succeed one after the other exactly if both succeed alone, and none of the nodes of
either is in the configuration or among those of the other one. -/
theorem build_twice_iff (alone : b.build {} = .ok (x, t)) (alone' : b'.build {} = .ok (x', t')) :
    (b.build c = .ok (c.append x, t) ∧
        b'.build (c.append x) = .ok ((c.append x).append x', t')) ↔
      (∀ n ∈ t.nodes, n.name ∉ c.devices.map (·.name)) ∧
        (∀ n ∈ t'.nodes, n.name ∉ c.devices.map (·.name)) ∧
        (t.nodes.map (·.name)).Disjoint (t'.nodes.map (·.name)) := by
  have apart : (∀ n ∈ t'.nodes, n.name ∉ (c.append x).devices.map (·.name)) ↔
      (∀ n ∈ t'.nodes, n.name ∉ c.devices.map (·.name)) ∧
        (t.nodes.map (·.name)).Disjoint (t'.nodes.map (·.name)) := by
    simp only [Config.names_append, (names_of_build_empty alone).2, List.mem_append, not_or,
      forall_and, List.disjoint_right, List.forall_mem_map]
  rw [build_eq_ok_iff_append alone, build_eq_ok_iff_append alone', apart]
  simp only [true_and]

/-- Building is local: wherever a builder succeeds, it returns the topology that it returns on the
empty configuration, and puts the devices that it creates there behind all that is there. Two builds
commute: if a builder succeeds after another one, the two succeed in the other order too, with the
same topologies, and the configurations differ in the order of what was added. -/
theorem builds_commute (b b' : Builder) (c : Config) :
    (∀ c₁ t, b.build c = .ok (c₁, t) → ∃ devices,
      b.build {} = .ok ({ devices }, t) ∧ c₁ = { c with devices := c.devices ++ devices }) ∧
    ∀ c₁ t c₂ t', b.build c = .ok (c₁, t) → b'.build c₁ = .ok (c₂, t') → ∃ first second,
      b.build {} = .ok ({ devices := first }, t) ∧
      b'.build {} = .ok ({ devices := second }, t') ∧
      c₂ = { c with devices := c.devices ++ first ++ second } ∧
      ∃ d₁, b'.build c = .ok (d₁, t') ∧
        b.build d₁ = .ok ({ c with devices := c.devices ++ second ++ first }, t) := by
  have locally {b : Builder} {c c₁ : Config} {t : Topology} (built : b.build c = .ok (c₁, t)) :
      ∃ devices, b.build {} = .ok ({ devices }, t) ∧ c₁ = c.append { devices } := by
    obtain ⟨alone, appended, _⟩ := build_eq_append built
    have devices := (names_of_build_empty alone).1
    exact ⟨b.created.devices, devices ▸ alone, devices ▸ appended⟩
  constructor
  · intro c₁ t built
    obtain ⟨devices, alone, rfl⟩ := locally built
    exact ⟨devices, alone, Config.append_devices c devices⟩
  · intro c₁ t c₂ t' built built'
    obtain ⟨first, alone, rfl⟩ := locally built
    obtain ⟨second, alone', rfl⟩ := locally built'
    obtain ⟨free, free', apart⟩ := (build_twice_iff alone alone').mp ⟨built, built'⟩
    obtain ⟨swapped, swapped'⟩ :=
      (build_twice_iff alone' alone).mpr ⟨free', free, List.disjoint_symm apart⟩
    simp only [Config.append_devices] at swapped swapped' ⊢
    exact ⟨first, second, alone, alone', rfl, _, swapped, swapped'⟩

/-- The tester and the grid, to which a ring is added in front of the grid or behind it. -/
theorem builds_commute_of_smallGrid :
    ∃ c₁ t c₂ t' first second d₁,
      Session.smallGrid.build Session.testerConfig = .ok (c₁, t) ∧
      Session.smallRing.build c₁ = .ok (c₂, t') ∧ t.size = 4 ∧ t'.size = 3 ∧
      c₂.devices = Session.testerConfig.devices ++ first ++ second ∧
      Session.smallRing.build Session.testerConfig = .ok (d₁, t') ∧
      Session.smallGrid.build d₁ = .ok ({ Session.testerConfig with
        devices := Session.testerConfig.devices ++ second ++ first }, t) := by
  have succeeds : (Session.smallGrid.build Session.testerConfig).toOption.bind (fun built =>
      (Session.smallRing.build built.1).toOption.map fun built' =>
        (built.2.size, built'.2.size)) = some (4, 3) := by decide +kernel
  cases built : Session.smallGrid.build Session.testerConfig with
  | error e => simp [built, Except.toOption] at succeeds
  | ok result =>
    obtain ⟨c₁, t⟩ := result
    cases built' : Session.smallRing.build c₁ with
    | error e => simp [built, built', Except.toOption] at succeeds
    | ok result =>
      obtain ⟨c₂, t'⟩ := result
      simp only [built, built', Except.toOption, Option.bind_some, Option.map_some,
        Option.some.injEq, Prod.mk.injEq] at succeeds
      obtain ⟨first, second, _, _, rfl, d₁, swapped, swapped'⟩ :=
        (builds_commute Session.smallGrid Session.smallRing Session.testerConfig).2 c₁ t c₂ t'
          built built'
      exact ⟨c₁, t, _, t', first, second, d₁, rfl, built', succeeds.1, succeeds.2, rfl, swapped,
        swapped'⟩

end Builder

end IsisTestbed
