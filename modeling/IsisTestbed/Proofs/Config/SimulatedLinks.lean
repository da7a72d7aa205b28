import IsisTestbed.Proofs.Config.Consistency

/-!
Where simulated links lead. The far end of a link is found by its name, among the ethernets of all
devices. In a configuration without violations it is the only ethernet of its name and it leads back,
so the ethernets on simulated links fall into pairs. The checks do not ask the two ends to be
different ones: an ethernet that is linked to itself is its own far end.
-/

namespace IsisTestbed.Config

/-- The ethernet at the far end of a simulated link: the one of the remote name, and the last one if
there are several, as in the checks. -/
def farEnd? (c : Config) (e : Ethernet) : Option Ethernet :=
  e.remote?.bind (lastEthernet? c.ethernets)

variable {c : Config} {e far : Ethernet}

theorem farEnd?_eq_some_iff : c.farEnd? e = some far ↔
    ∃ remote, e.connection = some (.simulatedLink remote) ∧
      lastEthernet? c.ethernets remote = some far := by
  simp only [farEnd?, Option.bind_eq_some_iff, remote?_eq_some_iff]

/-- If names are distinct, an ethernet is the far end of each link to its name, and of no other one.
-/
theorem farEnd?_eq_some_iff_of_nodup (distinct : (c.ethernets.map (·.name)).Nodup)
    (member : far ∈ c.ethernets) :
    c.farEnd? e = some far ↔ e.connection = some (.simulatedLink far.name) := by
  rw [farEnd?_eq_some_iff]
  constructor
  · rintro ⟨remote, connected, found⟩
    rw [(lastEthernet?_eq_some found).2]
    exact connected
  · intro connected
    exact ⟨far.name, connected, lastEthernet?_of_mem distinct member⟩

/-- Links of a consistent configuration can be followed forth and back. -/
theorem Consistent.exists_farEnd (h : c.Consistent) (member : e ∈ c.ethernets)
    (simulated : e.isSimulated = true) :
    ∃ far ∈ c.ethernets, c.farEnd? e = some far ∧ c.farEnd? far = some e := by
  obtain ⟨remote, leads⟩ := Option.isSome_iff_exists.mp simulated
  obtain ⟨far, hfar, rfl, back⟩ := h.links e member remote (remote?_eq_some_iff.mp leads)
  have distinct := nodup_ethernets h.names
  exact ⟨far, hfar, (farEnd?_eq_some_iff_of_nodup distinct hfar).mpr (remote?_eq_some_iff.mp leads),
    (farEnd?_eq_some_iff_of_nodup distinct member).mpr back⟩

/-- Without violations, going to the far end is an involution on the ethernets of simulated links.
The far end is the one ethernet of the remote name, it is on a simulated link itself, and its far end
is where the way began. It is another ethernet unless the first one is linked to itself. -/
theorem farEnd?_involutive (valid : c.violations = []) :
    ∀ e ∈ c.ethernets, e.isSimulated = true →
      ∃ far ∈ c.ethernets, c.farEnd? e = some far ∧
        (∀ other ∈ c.ethernets, e.remote? = some other.name ↔ other = far) ∧
        far.isSimulated = true ∧ far.remote? = some e.name ∧ c.farEnd? far = some e ∧
        (far ≠ e ↔ e.remote? ≠ some e.name) := by
  intro e member simulated
  have consistent := (violations_eq_nil_iff c).mp valid
  have distinct := nodup_ethernets consistent.names
  obtain ⟨far, hfar, forth, back⟩ := consistent.exists_farEnd member simulated
  have leadsTo (other : Ethernet) (hother : other ∈ c.ethernets) :
      e.remote? = some other.name ↔ other = far := by
    rw [remote?_eq_some_iff, ← farEnd?_eq_some_iff_of_nodup distinct hother, forth,
      Option.some.injEq, eq_comm]
  have leadsBack : far.remote? = some e.name :=
    remote?_eq_some_iff.mpr ((farEnd?_eq_some_iff_of_nodup distinct member).mp back)
  refine ⟨far, hfar, forth, leadsTo, ?_, leadsBack, back, ?_⟩
  · rw [Ethernet.isSimulated, leadsBack]
    rfl
  · rw [Ne, Ne, leadsTo e member, eq_comm]

/-- Two linked devices, one of which has a further ethernet that is linked to itself. -/
def loopedConfig : Config where
  devices :=
    [{ name := "left"
       ethernets := [⟨"left.1", "00:00:00:00:00:01", none, some (.simulatedLink "right.1"), [], []⟩] },
     { name := "right"
       ethernets :=
        [⟨"right.1", "00:00:00:00:00:02", none, some (.simulatedLink "left.1"), [], []⟩,
         ⟨"right.2", "00:00:00:00:00:03", none, some (.simulatedLink "right.2"), [], []⟩] }]

theorem farEnd?_involutive_of_loopedConfig :
    loopedConfig.violations = [] ∧
      ∃ near far, loopedConfig.ethernets.head? = some near ∧ near.isSimulated = true ∧
        loopedConfig.farEnd? near = some far ∧ far.name = "right.1" ∧ far ≠ near ∧
        loopedConfig.farEnd? far = some near := by
  have valid : loopedConfig.violations = [] := by decide
  obtain ⟨near, first, simulated, remote, name⟩ : ∃ near, loopedConfig.ethernets.head? = some near ∧
      near.isSimulated = true ∧ near.remote? = some "right.1" ∧ near.name = "left.1" :=
    ⟨_, rfl, by decide, by decide, rfl⟩
  obtain ⟨far, hfar, forth, leadsTo, _, _, back, other⟩ :=
    farEnd?_involutive valid near (List.mem_of_head? first) simulated
  have farName : far.name = "right.1" := by
    have leads := (leadsTo far hfar).mpr rfl
    rw [remote] at leads
    exact (Option.some.inj leads).symm
  refine ⟨valid, near, far, first, simulated, forth, farName, other.mpr ?_, back⟩
  rw [remote, name]
  decide

/-- That the far end is always another ethernet is not so: the checks accept one that is linked to
itself. -/
theorem not_farEnd?_ne_of_violations_eq_nil :
    ¬ ∀ c : Config, c.violations = [] → ∀ e ∈ c.ethernets, e.isSimulated = true →
      ∃ far ∈ c.ethernets, c.farEnd? e = some far ∧ far ≠ e ∧ far.isSimulated = true ∧
        c.farEnd? far = some e := by
  intro paired
  obtain ⟨loop, member, simulated, itself⟩ : ∃ loop ∈ loopedConfig.ethernets,
      loop.isSimulated = true ∧ loopedConfig.farEnd? loop = some loop := by decide
  obtain ⟨far, _, forth, different, _⟩ :=
    paired loopedConfig (by decide) loop member simulated
  exact different (Option.some.inj (forth.symm.trans itself))

end IsisTestbed.Config
