import IsisTestbed.Proofs.Topology.LinkConsistency
import IsisTestbed.Proofs.Topology.Naming

/-!
Names stay distinct while nodes and links are added. A derived name is either one of a node, and
then it tells the octet and the number of the node, or it is numbered on its device. Numbers on a
device never exceed its counts of ethernets and interfaces, so the names for the next end of a link
are new; the invariant `Named` carries this along.
-/

namespace IsisTestbed.Topology

/-! ### Numbered names -/

/-- The names that are numbered on a device, up to its counts of ethernets and interfaces. -/
inductive IsNumbered (d : Device) : String → Prop where
  | ethernet {n : Nat} (h : n ≤ d.ethernets.length) : IsNumbered d (ethernetName d.name n)
  | v4 {n : Nat} (h : n ≤ d.ethernets.length) : IsNumbered d (v4Name (ethernetName d.name n))
  | v6 {n : Nat} (h : n ≤ d.ethernets.length) : IsNumbered d (v6Name (ethernetName d.name n))
  | isisInterface {r : Router} {n : Nat} (runs : d.isis = some r) (h : n ≤ r.interfaces.length) :
      IsNumbered d (interfaceName d.name n)

/-- The names for the next end of a link on a device. -/
def nextNames (d : Device) (r : Router) : List String :=
  [nextEthernet d, v4Name (nextEthernet d), v6Name (nextEthernet d),
    interfaceName d.name (r.interfaces.length + 1)]

/-- Whether a name starts with the name of a device, `eth` or `Isisinf`, and a digit. -/
def LooksNumbered (device name : String) : Prop :=
  ∃ word ∈ ["eth", "Isisinf"], ∃ digit rest, digit.isDigit = true ∧
    name.toList = device.toList ++ word.toList ++ digit :: rest

section Numbers

variable {d d' : Device} {r : Router} {name : String}

/-- The last letters of numbered names are not those of the names of nodes. -/
theorem IsNumbered.not_isNodeName (h : IsNumbered d name) (octet : UInt8) (index : Nat) :
    ¬ IsNodeName octet index name := by
  rintro ⟨_, letter⟩
  cases h <;> simp at letter

theorem not_isNodeName_of_mem_nextNames (h : name ∈ nextNames d r) (octet : UInt8) (index : Nat) :
    ¬ IsNodeName octet index name := by
  rintro ⟨_, letter⟩
  simp only [nextNames, List.mem_cons, List.not_mem_nil, or_false] at h
  rcases h with rfl | rfl | rfl | rfl <;> simp [nextEthernet] at letter

theorem lastLetter?_ne {s t : String} (h : lastLetter? s ≠ lastLetter? t) : s ≠ t :=
  fun same => h (congrArg lastLetter? same)

theorem nextNames_nodup (d : Device) (r : Router) : (nextNames d r).Nodup := by
  have v4v6 : v4Name (nextEthernet d) ≠ v6Name (nextEthernet d) := v4Name_ne_v6Name
  have letters {s t : String} (h : lastLetter? s ≠ lastLetter? t) : s ≠ t := lastLetter?_ne h
  simp only [nextNames, List.nodup_cons, List.mem_cons, List.not_mem_nil, or_false, not_or,
    not_false_eq_true, List.nodup_nil, and_true]
  refine ⟨⟨letters ?_, letters ?_, letters ?_⟩, ⟨v4v6, letters ?_⟩, letters ?_⟩ <;>
    simp [nextEthernet]

/-- A numbered name of the same device has a smaller number than the next names. -/
theorem IsNumbered.not_mem_nextNames (h : IsNumbered d' name) (runs : d.isis = some r)
    (same : d'.name = d.name → d' = d) : name ∉ nextNames d r := by
  intro next
  simp only [nextNames, List.mem_cons, List.not_mem_nil, or_false] at next
  cases h with
  | ethernet bound =>
    rcases next with eq | eq | eq | eq
    · obtain ⟨names, numbers⟩ := ethernetName_inj eq
      rw [same names] at bound
      omega
    all_goals exact absurd eq (lastLetter?_ne (by simp))
  | v4 bound =>
    rcases next with eq | eq | eq | eq
    · exact absurd eq (lastLetter?_ne (by simp [nextEthernet]))
    · obtain ⟨names, numbers⟩ := ethernetName_inj (v4Name_inj eq)
      rw [same names] at bound
      omega
    · exact absurd eq v4Name_ne_v6Name
    · exact absurd eq (lastLetter?_ne (by simp))
  | v6 bound =>
    rcases next with eq | eq | eq | eq
    · exact absurd eq (lastLetter?_ne (by simp [nextEthernet]))
    · exact absurd eq.symm v4Name_ne_v6Name
    · obtain ⟨names, numbers⟩ := ethernetName_inj (v6Name_inj eq)
      rw [same names] at bound
      omega
    · exact absurd eq (lastLetter?_ne (by simp))
  | isisInterface runs' bound =>
    rcases next with eq | eq | eq | eq
    · exact absurd eq (lastLetter?_ne (by simp [nextEthernet]))
    · exact absurd eq (lastLetter?_ne (by simp))
    · exact absurd eq (lastLetter?_ne (by simp))
    · obtain ⟨names, numbers⟩ := interfaceName_inj eq
      rw [same names, runs] at runs'
      cases runs'
      omega

/-- All next names on a device look numbered. -/
theorem looksNumbered_of_mem_nextNames (h : name ∈ nextNames d r) : LooksNumbered d.name name := by
  have first (n : Nat) : ∃ digit rest, digit.isDigit = true ∧ Text.decimal n = digit :: rest := by
    obtain ⟨digit, rest, digits⟩ := List.exists_cons_of_ne_nil (Text.decimal_ne_nil n)
    exact ⟨digit, rest, Text.isDigit_of_mem_decimal (n := n) (by simp [digits]), digits⟩
  obtain ⟨digit, rest, isDigit, digits⟩ := first (d.ethernets.length + 1)
  simp only [nextNames, List.mem_cons, List.not_mem_nil, or_false] at h
  rcases h with rfl | rfl | rfl | rfl
  · exact ⟨"eth", by simp, digit, rest, isDigit, by simp [nextEthernet, ethernetName, digits]⟩
  · exact ⟨"eth", by simp, digit, rest ++ "ip4".toList, isDigit,
      by simp [nextEthernet, ethernetName, v4Name, digits]⟩
  · exact ⟨"eth", by simp, digit, rest ++ "ip6".toList, isDigit,
      by simp [nextEthernet, ethernetName, v6Name, digits]⟩
  · obtain ⟨digit, rest, isDigit, digits⟩ := first (r.interfaces.length + 1)
    exact ⟨"Isisinf", by simp, digit, rest, isDigit, by simp [interfaceName, digits]⟩

theorem LooksNumbered.isNodeLike {device : String} (h : LooksNumbered device name)
    (node : IsNodeLike device) : IsNodeLike name := by
  obtain ⟨word, _, digit, rest, _, text⟩ := h
  obtain ⟨high, low, tail, hhigh, hlow, start⟩ := node
  exact ⟨high, low, tail ++ word.toList ++ digit :: rest, hhigh, hlow, by simp [text, start]⟩

/-- What is numbered on a device is still numbered on it after an end of a link is added. -/
theorem IsNumbered.addEnd (h : IsNumbered d name) (e : Ethernet) : IsNumbered (addEnd e d) name := by
  have count : d.ethernets.length ≤ (Topology.addEnd e d).ethernets.length := by simp
  cases h with
  | ethernet bound => exact IsNumbered.ethernet (d := Topology.addEnd e d) (Nat.le_trans bound count)
  | v4 bound => exact IsNumbered.v4 (d := Topology.addEnd e d) (Nat.le_trans bound count)
  | v6 bound => exact IsNumbered.v6 (d := Topology.addEnd e d) (Nat.le_trans bound count)
  | @isisInterface r n runs bound =>
    refine IsNumbered.isisInterface (d := Topology.addEnd e d)
      (r := r.addInterface (linkInterface d.name e.name r)) (by simp [runs]) ?_
    simp [Router.addInterface]
    omega

/-- After an end of a link is added, the names it was for are numbered on the device. -/
theorem isNumbered_of_mem_nextNames (h : name ∈ nextNames d r) (runs : d.isis = some r)
    (e : Ethernet) : IsNumbered (addEnd e d) name := by
  have count : d.ethernets.length + 1 ≤ (Topology.addEnd e d).ethernets.length := by simp
  simp only [nextNames, List.mem_cons, List.not_mem_nil, or_false] at h
  rcases h with rfl | rfl | rfl | rfl
  · exact IsNumbered.ethernet (d := addEnd e d) count
  · exact IsNumbered.v4 (d := addEnd e d) count
  · exact IsNumbered.v6 (d := addEnd e d) count
  · refine IsNumbered.isisInterface (d := addEnd e d)
      (r := r.addInterface (linkInterface d.name e.name r)) (by simp [runs]) ?_
    simp [Router.addInterface]

end Numbers

/-! ### The invariant -/

/-- Whether the names of a configuration stay clear of all names that may be derived: none starts
like the name of a node, and none looks as if it were numbered on one of the devices. -/
structure LeavesRoom (c : Config) : Prop where
  nodes : ∀ name ∈ c.objectNames, ¬ IsNodeLike name
  numbers : ∀ d ∈ c.devices, ∀ name ∈ c.objectNames, ¬ LooksNumbered d.name name

/-- Where the names of a configuration come from, after nodes and links were added to another one.
Each is from the beginning, belongs to one of the nodes in `taken`, or is numbered on its device; and
each device is from the beginning or one of these nodes. No name is there twice. -/
structure Named (c₀ : Config) (taken : List (UInt8 × Nat)) (c : Config) : Prop where
  distinct : c.objectNames.Nodup
  origin : ∀ name ∈ c.objectNames, name ∈ c₀.objectNames ∨
    (∃ n ∈ taken, IsNodeName n.1 n.2 name) ∨ ∃ d ∈ c.devices, IsNumbered d name
  devices : ∀ d ∈ c.devices, d.name ∈ c₀.devices.map (·.name) ∨
    ∃ n ∈ taken, IsNodeName n.1 n.2 d.name

namespace Named

variable {c₀ c : Config} {taken : List (UInt8 × Nat)} {i : Nat} {d : Device} {r : Router}

theorem start (h : c.objectNames.Nodup) : Named c [] c where
  distinct := h
  origin := fun _ member => .inl member
  devices := fun d member => .inl (List.mem_map.mpr ⟨d, member, rfl⟩)

/-- The names for the next end of a link on a device are new. -/
theorem fresh (h : Named c₀ taken c) (room : LeavesRoom c₀) (member : d ∈ c.devices)
    (runs : d.isis = some r) : ∀ name ∈ nextNames d r, name ∉ c.objectNames := by
  intro name next used
  have looks : LooksNumbered d.name name := looksNumbered_of_mem_nextNames next
  rcases h.origin name used with old | ⟨n, _, node⟩ | ⟨d', member', numbered⟩
  · rcases h.devices d member with first | ⟨n, _, node⟩
    · obtain ⟨d', member', same⟩ := List.mem_map.mp first
      exact room.numbers d' member' name old (same ▸ looks)
    · exact room.nodes name old (looks.isNodeLike node.isNodeLike)
  · exact not_isNodeName_of_mem_nextNames next n.1 n.2 node
  · refine numbered.not_mem_nextNames runs ?_ next
    exact fun same =>
      List.inj_on_of_nodup_map (Config.nodup_deviceNames h.distinct) member' member same

/-- Adding an end of a link on a device keeps the names distinct. -/
theorem nodup_endNames (h : Named c₀ taken c) (room : LeavesRoom c₀) (member : d ∈ c.devices)
    (runs : d.isis = some r) {e : Ethernet} (next : (endNames e d r).Sublist (nextNames d r)) :
    (endNames e d r ++ c.objectNames).Nodup := by
  rw [List.nodup_append]
  refine ⟨next.nodup (nextNames_nodup d r), h.distinct, ?_⟩
  rintro name new _ old rfl
  exact h.fresh room member runs name (next.subset new) old

/-- The invariant is kept when an end of a link is added. -/
theorem addEnd (h : Named c₀ taken c) (room : LeavesRoom c₀) (found : c.devices[i]? = some d)
    (runs : d.isis = some r) {e : Ethernet} (next : (endNames e d r).Sublist (nextNames d r)) :
    Named c₀ taken (c.modifyDevice i (addEnd e)) := by
  have member := List.mem_of_getElem? found
  have names := objectNames_modifyDevice_addEnd (e := e) found runs
  have added : Topology.addEnd e d ∈ (c.modifyDevice i (Topology.addEnd e)).devices :=
    List.mem_of_getElem? (Config.getElem?_modifyDevice_self found)
  refine ⟨names.nodup_iff.mpr (h.nodup_endNames room member runs next), ?_, ?_⟩
  · intro name used
    rcases List.mem_append.mp (names.mem_iff.mp used) with new | old
    · exact .inr (.inr ⟨_, added, isNumbered_of_mem_nextNames (next.subset new) runs e⟩)
    · rcases h.origin name old with first | node | ⟨d', member', numbered⟩
      · exact .inl first
      · exact .inr (.inl node)
      · -- The device of an old name is the changed one or stands at another position.
        obtain ⟨k, hk⟩ := List.mem_iff_getElem?.mp member'
        by_cases same : i = k
        · rw [same, hk] at found
          cases found
          exact .inr (.inr ⟨_, added, numbered.addEnd e⟩)
        · refine .inr (.inr ⟨d', ?_, numbered⟩)
          exact List.mem_of_getElem? ((Config.getElem?_modifyDevice_of_ne same).trans hk)
  · intro d' member'
    rcases Config.mem_modify member' with old | ⟨d, hd, rfl⟩
    · exact h.devices d' old
    · exact h.devices d (List.mem_of_getElem? hd)

/-- The invariant is kept when a device is added whose names all belong to a new node. -/
theorem addDevice (h : Named c₀ taken c) (room : LeavesRoom c₀) {octet : UInt8} {index : Nat}
    (new : (octet, index) ∉ taken) (distinct : d.objectNames.Nodup)
    (names : ∀ name ∈ d.objectNames, IsNodeName octet index name) :
    Named c₀ ((octet, index) :: taken) (c.addDevice d) ∧
      ∀ name ∈ c.objectNames, name ∉ d.objectNames := by
  have apart : ∀ name ∈ c.objectNames, name ∉ d.objectNames := by
    intro name old added
    have node := names name added
    rcases h.origin name old with first | ⟨n, member, other⟩ | ⟨d', _, numbered⟩
    · exact room.nodes name first node.isNodeLike
    · obtain ⟨octets, indices⟩ := node.inj other
      subst octets indices
      exact new member
    · exact numbered.not_isNodeName octet index node
  have all := c.objectNames_addDevice d
  refine ⟨⟨all.nodup_iff.mpr (List.nodup_append.mpr ⟨h.distinct, distinct, ?_⟩), ?_, ?_⟩, apart⟩
  · rintro name old _ added rfl
    exact apart name old added
  · intro name used
    rcases List.mem_append.mp (all.mem_iff.mp used) with old | added
    · rcases h.origin name old with first | ⟨n, member, node⟩ | ⟨d', member, numbered⟩
      · exact .inl first
      · exact .inr (.inl ⟨n, List.mem_cons_of_mem _ member, node⟩)
      · exact .inr (.inr ⟨d', List.mem_append_left _ member, numbered⟩)
    · exact .inr (.inl ⟨(octet, index), List.mem_cons_self, names name added⟩)
  · intro d' member
    rcases List.mem_append.mp member with old | added
    · rcases h.devices d' old with first | ⟨n, member, node⟩
      · exact .inl first
      · exact .inr ⟨n, List.mem_cons_of_mem _ member, node⟩
    · rw [List.mem_singleton.mp added]
      exact .inr ⟨(octet, index), List.mem_cons_self,
        names d.name (by simp [Device.objectNames, Device.named])⟩

end Named

end IsisTestbed.Topology
