import IsisTestbed.Proofs.Topology.LinkConsistency
import IsisTestbed.Proofs.Topology.Locality
import IsisTestbed.Proofs.Topology.Naming

/-!
Where the ends of links are. An end is named for its device and its place on it, and devices are
only linked where their names are found. So no other ethernet has the name of an end, even if
devices share their names, as long as the other ethernets are not named like ends.
-/

namespace IsisTestbed.Topology

/-- Whether an ethernet, given with its place on a device and the position of the device, is named
for its place, on a device that is found by its name, or is no end of a link and not named like one.
-/
inductive IsPlaced (c : Config) (i : Nat) (d : Device) (k : Nat) (e : Ethernet) : Prop where
  | named (name : e.name = ethernetName d.name (k + 1)) (found : c.deviceIndex d.name = .ok i)
  | apart (free : ∀ remote, e.connection ≠ some (.simulatedLink remote))
      (unlike : ∀ device n, e.name ≠ ethernetName device n)

/-- Whether all ethernets of a configuration are placed. -/
def EndsArePlaced (c : Config) : Prop :=
  ∀ i d k e, c.devices[i]? = some d → d.ethernets[k]? = some e → IsPlaced c i d k e

variable {c x : Config} {i j k : Nat} {d first second : Device} {e endA endB : Ethernet}
  {name nameA nameB : String}

/-- The place of an end is all that there is to its name. -/
theorem EndsArePlaced.unique (h : EndsArePlaced c) : c.EndsAreUnique := by
  intro far hfar remote connected other hother same
  obtain ⟨d, hd, hfar⟩ := List.mem_flatMap.mp hfar
  obtain ⟨d', hd', hother⟩ := List.mem_flatMap.mp hother
  obtain ⟨i, atI⟩ := List.mem_iff_getElem?.mp hd
  obtain ⟨i', atI'⟩ := List.mem_iff_getElem?.mp hd'
  obtain ⟨k, atK⟩ := List.mem_iff_getElem?.mp hfar
  obtain ⟨k', atK'⟩ := List.mem_iff_getElem?.mp hother
  cases h i d k far atI atK with
  | apart free unlike => exact absurd connected (free remote)
  | named name found =>
    cases h i' d' k' other atI' atK' with
    | apart free unlike => exact absurd (same.trans name) (unlike _ _)
    | named name' found' =>
      obtain ⟨device, number⟩ := ethernetName_inj (name'.symm.trans (same.trans name))
      rw [device, found] at found'
      cases found'
      cases Option.some.inj (atI.symm.trans atI')
      rw [Nat.succ.inj number] at atK'
      exact Option.some.inj (atK'.symm.trans atK)

/-- A place stays a place when names are found where they were. -/
theorem IsPlaced.mono {c' : Config} {i' : Nat} {d' : Device} (h : IsPlaced c i d k e)
    (name : d'.name = d.name)
    (found : c.deviceIndex d.name = .ok i → c'.deviceIndex d.name = .ok i') :
    IsPlaced c' i' d' k e := by
  cases h with
  | named same index => exact .named (name ▸ same) (name ▸ found index)
  | apart free unlike => exact .apart free unlike

theorem EndsArePlaced.append (h : EndsArePlaced c) (h' : EndsArePlaced x)
    (free : ∀ d ∈ x.devices, d.name ∉ c.devices.map (·.name)) : EndsArePlaced (c.append x) := by
  intro i d k e atI atK
  rcases Nat.lt_or_ge i c.devices.length with before | behind
  · rw [Config.append, List.getElem?_append_left before] at atI
    exact (h i d k e atI atK).mono rfl Config.deviceIndex_append_of_ok
  · obtain ⟨i, rfl⟩ := Nat.exists_eq_add_of_le behind
    rw [Config.getElem?_append_length_add] at atI
    exact (h' i d k e atI atK).mono rfl
      (Config.deviceIndex_append (free d (List.mem_of_getElem? atI)))

/-- A change that keeps the names of devices keeps all places if it keeps those on the changed
device. -/
theorem EndsArePlaced.modifyDevice {f : Device → Device} (h : EndsArePlaced c)
    (names : ∀ d ∈ c.devices, (f d).name = d.name)
    (changed : ∀ d, c.devices[i]? = some d → ∀ k e, (f d).ethernets[k]? = some e →
      IsPlaced c i (f d) k e) : EndsArePlaced (c.modifyDevice i f) := by
  intro m d k e atM atK
  have index {name : String} : (c.modifyDevice i f).deviceIndex name = c.deviceIndex name :=
    Config.deviceIndex_modifyDevice names i
  by_cases here : i = m
  · subst here
    rw [Config.devices_modifyDevice, List.getElem?_modify_eq] at atM
    obtain ⟨old, atOld, rfl⟩ := Option.map_eq_some_iff.mp atM
    exact (changed old atOld k e atK).mono rfl fun found => index.trans found
  · rw [Config.getElem?_modifyDevice_of_ne here] at atM
    exact (h m d k e atM atK).mono rfl fun found => index.trans found

/-- An end with the next name of a device that is found by its name is placed. -/
theorem EndsArePlaced.addEnd (h : EndsArePlaced c) (found : c.deviceIndex name = .ok i)
    (atI : c.devices[i]? = some d) (next : e.name = nextEthernet d) :
    EndsArePlaced (c.modifyDevice i (addEnd e)) := by
  refine h.modifyDevice (fun _ _ => name_addEnd) ?_
  intro d' atI' k e' atK
  cases Option.some.inj (atI.symm.trans atI')
  have own := Config.name_of_deviceIndex found atI
  rcases Nat.lt_or_ge k d.ethernets.length with before | last
  · rw [ethernets_addEnd, List.getElem?_append_left before] at atK
    exact (h i d k e' atI atK).mono rfl fun index => index
  · obtain ⟨bound, _⟩ := List.getElem?_eq_some_iff.mp atK
    have length : k = d.ethernets.length := by
      simp at bound
      omega
    subst length
    rw [ethernets_addEnd, List.getElem?_concat_length] at atK
    cases atK
    exact .named next (own ▸ found)

theorem EndsArePlaced.linkedConfig (h : EndsArePlaced c) (linkable : Linkable c i j first second)
    (indexA : c.deviceIndex nameA = .ok i) (indexB : c.deviceIndex nameB = .ok j)
    (nextA : endA.name = nextEthernet first) (nextB : endB.name = nextEthernet second) :
    EndsArePlaced (linkedConfig c i j endA endB) := by
  have found : (c.modifyDevice i (Topology.addEnd endA)).deviceIndex nameB = .ok j := by
    rw [Config.deviceIndex_modifyDevice fun _ _ => name_addEnd, indexB]
  exact (h.addEnd indexA linkable.atFirst nextA).addEnd found linkable.atSecond_modifyDevice nextB

/-- A name that does not end in a digit is not the name of an end. -/
theorem ne_ethernetName {suffix : String} {front : List Char} {last : Char}
    (text : suffix.toList = front ++ [last]) (letter : last.isDigit = false) (device : String)
    (n : Nat) : name ++ suffix ≠ ethernetName device n := by
  intro same
  have texts := congrArg String.toList same
  rw [String.toList_append, text, toList_ethernetName, ← List.append_assoc] at texts
  obtain ⟨_, _, digits⟩ := append_digits_inj letter (by decide) (by simp)
    (fun _ => Text.isDigit_of_mem_decimal) texts
  exact Text.decimal_ne_nil n digits.symm

end IsisTestbed.Topology
