import IsisTestbed.Config.Assembly

/-!
Finding devices and changing them in place. What a look-up by name finds depends on the names of the
devices alone, so it survives every change of a device that keeps its name. A change at the position
that a name is found at is a change of the device of that name, and of no other one.
-/

namespace IsisTestbed

/-- A computation of two parts succeeds exactly if both do. -/
theorem bind_eq_ok_iff {ε α β : Type} {x : Except ε α} {f : α → Except ε β} {b : β} :
    (x >>= f) = .ok b ↔ ∃ a, x = .ok a ∧ f a = .ok b := by
  cases x with
  | error e =>
    constructor
    · intro h
      cases h
    · rintro ⟨_, h, _⟩
      cases h
  | ok a =>
    constructor
    · intro h
      exact ⟨a, rfl, h⟩
    · rintro ⟨_, h, rest⟩
      cases h
      exact rest

theorem ok_bind {ε α β : Type} (a : α) (f : α → Except ε β) :
    ((.ok a : Except ε α) >>= f) = f a :=
  rfl

theorem error_bind {ε α β : Type} (e : ε) (f : α → Except ε β) :
    ((.error e : Except ε α) >>= f) = .error e :=
  rfl

@[simp]
theorem Device.name_withRouter (d : Device) (r : Option Router) : (d.withRouter r).name = d.name :=
  rfl

@[simp]
theorem Device.ethernets_withRouter (d : Device) (r : Option Router) :
    (d.withRouter r).ethernets = d.ethernets :=
  rfl

namespace Config

variable {c : Config} {name : String} {i j : Nat} {d e : Device} {f : Device → Device}

/-! ### Finding -/

theorem deviceAt_eq_ok_iff : c.deviceAt i = .ok d ↔ c.devices[i]? = some d := by
  unfold deviceAt
  cases c.devices[i]? <;> simp

theorem deviceIndex_eq_ok_iff :
    c.deviceIndex name = .ok i ↔ c.devices.findIdx? (·.name == name) = some i := by
  unfold deviceIndex
  cases c.devices.findIdx? (·.name == name) <;> simp

/-- What is found by name has that name. -/
theorem exists_of_deviceIndex (h : c.deviceIndex name = .ok i) :
    ∃ d, c.devices[i]? = some d ∧ d.name = name := by
  obtain ⟨hi, same, _⟩ := List.findIdx?_eq_some_iff_getElem.mp (deviceIndex_eq_ok_iff.mp h)
  exact ⟨c.devices[i], List.getElem?_eq_getElem hi, by simpa using same⟩

theorem name_of_deviceIndex (h : c.deviceIndex name = .ok i) (found : c.devices[i]? = some d) :
    d.name = name := by
  obtain ⟨e, atI, same⟩ := exists_of_deviceIndex h
  cases found.symm.trans atI
  exact same

/-- A device is found by name exactly if there is one of that name. -/
theorem exists_deviceIndex_iff :
    (∃ i, c.deviceIndex name = .ok i) ↔ name ∈ c.devices.map (·.name) := by
  have found : (∃ i, c.deviceIndex name = .ok i) ↔
      (c.devices.findIdx? (·.name == name)).isSome = true := by
    simp only [deviceIndex_eq_ok_iff, Option.isSome_iff_exists]
  rw [found]
  simp

theorem deviceIndex_of_not_mem (missing : name ∉ c.devices.map (·.name)) :
    c.deviceIndex name = .error (.deviceNotFound name) := by
  have unused : c.devices.findIdx? (·.name == name) = none := by simpa using missing
  rw [deviceIndex, unused]

theorem devicePair_eq_ok_iff :
    c.devicePair i j = .ok (d, e) ↔
      i ≠ j ∧ c.devices[i]? = some d ∧ c.devices[j]? = some e := by
  unfold devicePair
  split
  · next same =>
    constructor
    · intro h
      obtain ⟨_, _, h⟩ := bind_eq_ok_iff.mp h
      exact nomatch h
    · rintro ⟨different, _⟩
      exact absurd same different
  · next different =>
    simp only [bind_eq_ok_iff, deviceAt_eq_ok_iff]
    constructor
    · rintro ⟨x, hx, y, hy, h⟩
      obtain ⟨rfl, rfl⟩ := Prod.mk.inj (Except.ok.inj h)
      exact ⟨different, hx, hy⟩
    · rintro ⟨_, hd, he⟩
      exact ⟨d, hd, e, he, rfl⟩

theorem updatePair_eq {g : Device → Device} (different : i ≠ j) (hd : c.devices[i]? = some d)
    (he : c.devices[j]? = some e) :
    c.updatePair i j f g = .ok ((c.modifyDevice i f).modifyDevice j g) := by
  unfold updatePair
  rw [devicePair_eq_ok_iff.mpr ⟨different, hd, he⟩]
  rfl

/-! ### Changing in place -/

theorem devices_modifyDevice : (c.modifyDevice i f).devices = c.devices.modify i f :=
  rfl

theorem getElem?_modifyDevice_self (h : c.devices[i]? = some d) :
    (c.modifyDevice i f).devices[i]? = some (f d) := by
  simp [devices_modifyDevice, h]

theorem getElem?_modifyDevice_of_ne (different : i ≠ j) :
    (c.modifyDevice i f).devices[j]? = c.devices[j]? := by
  simp [devices_modifyDevice, different]

/-- A list of what is the same before and after a change of one entry stays the same. -/
theorem map_modify_eq {α β : Type} {l : List α} {g : α → α} {p : α → β}
    (h : ∀ x ∈ l, p (g x) = p x) (i : Nat) : (l.modify i g).map p = l.map p := by
  apply List.ext_getElem?
  intro k
  simp only [List.getElem?_map, List.getElem?_modify]
  cases hk : l[k]? with
  | none => rfl
  | some x =>
    have same := h x (List.mem_of_getElem? hk)
    by_cases hik : i = k <;> simp [hik, same]

/-- An entry of a list with one entry changed is an old one or the changed one. -/
theorem mem_modify {α : Type} {l : List α} {g : α → α} {i : Nat} {x : α} (h : x ∈ l.modify i g) :
    x ∈ l ∨ ∃ y, l[i]? = some y ∧ x = g y := by
  obtain ⟨k, hk⟩ := List.mem_iff_getElem?.mp h
  rw [List.getElem?_modify] at hk
  cases found : l[k]? with
  | none => simp [found] at hk
  | some y =>
    by_cases same : i = k
    · simp only [found, same, if_true, Option.map_eq_map, Option.map_some, Option.some.injEq] at hk
      exact .inr ⟨y, same ▸ found, hk.symm⟩
    · simp only [found, same, if_false, Option.map_eq_map, Option.map_some,
        Option.some.injEq] at hk
      exact .inl (hk ▸ List.mem_of_getElem? found)

/-- A change that keeps the name of each device keeps the names of all. -/
theorem names_modifyDevice (h : ∀ d ∈ c.devices, (f d).name = d.name) (i : Nat) :
    (c.modifyDevice i f).devices.map (·.name) = c.devices.map (·.name) :=
  map_modify_eq h i

/-- A change that keeps the ethernets of each device keeps all of them. -/
theorem ethernets_modifyDevice (h : ∀ d ∈ c.devices, (f d).ethernets = d.ethernets) :
    (c.modifyDevice i f).ethernets = c.ethernets := by
  rw [ethernets, ethernets, List.flatMap_def, List.flatMap_def, devices_modifyDevice,
    map_modify_eq h]

theorem deviceIndex_modifyDevice (h : ∀ d ∈ c.devices, (f d).name = d.name) (i : Nat) :
    (c.modifyDevice i f).deviceIndex name = c.deviceIndex name := by
  have names : (c.devices.modify i f).map (·.name) = c.devices.map (·.name) := names_modifyDevice h i
  have index (l : List Device) :
      l.findIdx? (·.name == name) = (l.map (·.name)).findIdx? (· == name) := by
    rw [List.findIdx?_map]
    rfl
  unfold deviceIndex
  rw [index, index, devices_modifyDevice, names]

/-! ### The device of a name -/

theorem device_eq_ok_iff :
    c.device name = .ok d ↔ ∃ i, c.deviceIndex name = .ok i ∧ c.devices[i]? = some d := by
  simp only [device, bind_eq_ok_iff, deviceAt_eq_ok_iff]

/-- Looking a device up is finding the first one of its name. -/
theorem device_eq_ok_iff_find? :
    c.device name = .ok d ↔ c.devices.find? (·.name == name) = some d := by
  simp only [device_eq_ok_iff, deviceIndex_eq_ok_iff, List.find?_eq_bind_findIdx?_getElem?,
    Option.bind_eq_some_iff]

theorem name_of_device (h : c.device name = .ok d) : d.name = name := by
  have same := List.find?_some (device_eq_ok_iff_find?.mp h)
  simpa using same

theorem mem_of_device (h : c.device name = .ok d) : d ∈ c.devices :=
  List.mem_of_find?_eq_some (device_eq_ok_iff_find?.mp h)

theorem exists_device_iff : (∃ d, c.device name = .ok d) ↔ name ∈ c.devices.map (·.name) := by
  rw [← exists_deviceIndex_iff]
  constructor
  · rintro ⟨d, found⟩
    obtain ⟨i, index, _⟩ := device_eq_ok_iff.mp found
    exact ⟨i, index⟩
  · rintro ⟨i, index⟩
    obtain ⟨d, found, _⟩ := exists_of_deviceIndex index
    exact ⟨d, device_eq_ok_iff.mpr ⟨i, index, found⟩⟩

/-- The device of a name is changed where the name is found. -/
theorem device_modifyDevice_self (h : ∀ d ∈ c.devices, (f d).name = d.name)
    (index : c.deviceIndex name = .ok i) (found : c.devices[i]? = some d) :
    (c.modifyDevice i f).device name = .ok (f d) :=
  device_eq_ok_iff.mpr
    ⟨i, (deviceIndex_modifyDevice h i).trans index, getElem?_modifyDevice_self found⟩

/-- A change of a device does not touch the devices of other names. -/
theorem device_modifyDevice_of_ne (h : ∀ d ∈ c.devices, (f d).name = d.name)
    (found : c.devices[i]? = some e) (other : e.name ≠ name) :
    (c.modifyDevice i f).device name = c.device name := by
  unfold device
  rw [deviceIndex_modifyDevice h]
  cases index : c.deviceIndex name with
  | error cause => rfl
  | ok k =>
    have apart : i ≠ k := by
      rintro rfl
      exact other (name_of_deviceIndex index found)
    rw [ok_bind, ok_bind, deviceAt, deviceAt, getElem?_modifyDevice_of_ne apart]

end Config

end IsisTestbed
