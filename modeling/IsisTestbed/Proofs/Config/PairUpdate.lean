import IsisTestbed.Proofs.Config.Lookup

/-!
Changing two devices at once. To take both out of the list it is divided at the greater of their
positions: the device there is the first one of the second part, and the other one stands in the
first part, whichever of them was asked for first. Main statement: the two are replaced at their
positions, everything else stays, and what is refused leaves the configuration as it was.
-/

namespace IsisTestbed

/-- Two devices that are taken out of a configuration together, and the configuration with others in
their places. -/
structure BorrowedPair where
  first : Device
  second : Device
  putBack : Device → Device → Config

namespace Config

/-! ### Taking two devices out -/

/-- The device at a place of a part of the list; in the whole list it is at the position `index`. -/
def deviceIn (part : List Device) (place index : Nat) : Except ConfigError Device :=
  part[place]?.elim (.error (.noDeviceAt index)) .ok

/-- Two devices at different positions, each taken out of its own part of the divided list. -/
def borrowPair (c : Config) (a b : Nat) : Except ConfigError BorrowedPair := do
  if a = b then
    .error (.sameDevice (← c.deviceAt a).name)
  else if a < b then
    let (head, tail) := c.devices.splitAt b
    let first ← deviceIn head a a
    let second ← deviceIn tail 0 b
    return ⟨first, second, fun x y => { c with devices := head.set a x ++ tail.set 0 y }⟩
  else
    let (head, tail) := c.devices.splitAt a
    let first ← deviceIn tail 0 a
    let second ← deviceIn head b b
    return ⟨first, second, fun x y => { c with devices := head.set b y ++ tail.set 0 x }⟩

/-- Changes two devices in place. Gives the configuration that is left behind, after a refusal
too. -/
def changePair (c : Config) (a b : Nat) (f g : Device → Device) :
    Config × Except ConfigError Unit :=
  match c.borrowPair a b with
  | .ok pair => (pair.putBack (f pair.first) (g pair.second), .ok ())
  | .error cause => (c, .error cause)

section Parts

variable {c : Config} {a b : Nat} {x y : Device} {l : List Device}

theorem deviceIn_take (h : a < b) : deviceIn (c.devices.take b) a a = c.deviceAt a := by
  rw [deviceIn, deviceAt, List.getElem?_take_of_lt h]
  cases c.devices[a]? <;> rfl

theorem deviceIn_drop (c : Config) (b : Nat) :
    deviceIn (c.devices.drop b) 0 b = c.deviceAt b := by
  rw [deviceIn, deviceAt, List.getElem?_drop, Nat.add_zero]
  cases c.devices[b]? <;> rfl

/-- What is changed in the two parts is changed in the whole list. -/
theorem set_take_append_set_drop (h : a < b) (inside : b < l.length) :
    (l.take b).set a x ++ (l.drop b).set 0 y = (l.set a x).set b y := by
  have front : (l.take b).length = b := List.length_take_of_le (Nat.le_of_lt inside)
  have behind : ((l.take b).set a x).length ≤ b :=
    Nat.le_of_eq (List.length_set.trans front)
  calc (l.take b).set a x ++ (l.drop b).set 0 y
      = (l.take b).set a x ++ (l.drop b).set (b - ((l.take b).set a x).length) y := by
        rw [List.length_set, front, Nat.sub_self]
    _ = ((l.take b).set a x ++ l.drop b).set b y := (List.set_append_right b y behind).symm
    _ = ((l.take b ++ l.drop b).set a x).set b y := by
        rw [List.set_append_left a x (front.symm ▸ h)]
    _ = (l.set a x).set b y := by rw [List.take_append_drop]

/-- Two devices are taken out exactly if they are at different positions of the list, and others are
put in their places. -/
theorem borrowPair_eq (c : Config) (a b : Nat) :
    c.borrowPair a b = (c.devicePair a b).map fun pair =>
      ⟨pair.1, pair.2, fun x y => { c with devices := (c.devices.set a x).set b y }⟩ := by
  unfold borrowPair devicePair
  by_cases same : a = b
  · rw [if_pos same, if_pos same]
    cases c.deviceAt a <;> rfl
  · rw [if_neg same, if_neg same]
    rcases Nat.lt_or_gt_of_ne same with less | greater
    · rw [if_pos less, List.splitAt_eq]
      dsimp only
      rw [deviceIn_take less, deviceIn_drop]
      cases atA : c.deviceAt a with
      | error cause => rfl
      | ok first =>
        cases atB : c.deviceAt b with
        | error cause => rfl
        | ok second =>
          have inside : b < c.devices.length :=
            (List.getElem?_eq_some_iff.mp (deviceAt_eq_ok_iff.mp atB)).1
          simp only [ok_bind, set_take_append_set_drop less inside]
          rfl
    · rw [if_neg (Nat.lt_asymm greater), List.splitAt_eq]
      dsimp only
      rw [deviceIn_drop, deviceIn_take greater]
      cases atA : c.deviceAt a with
      | error cause => rfl
      | ok first =>
        cases atB : c.deviceAt b with
        | error cause => rfl
        | ok second =>
          have inside : a < c.devices.length :=
            (List.getElem?_eq_some_iff.mp (deviceAt_eq_ok_iff.mp atA)).1
          simp only [ok_bind, set_take_append_set_drop greater inside,
            List.set_comm _ _ (Ne.symm same)]
          rfl

end Parts

section Whole

variable {c : Config} {a b : Nat} {x y : Device} {f g : Device → Device} {cause : ConfigError}

theorem devicePair_eq_borrowPair (c : Config) (a b : Nat) :
    c.devicePair a b = (c.borrowPair a b).map fun pair => (pair.first, pair.second) := by
  rw [borrowPair_eq]
  cases c.devicePair a b <;> rfl

theorem updatePair_eq_borrowPair (c : Config) (a b : Nat) (f g : Device → Device) :
    c.updatePair a b f g =
      (c.borrowPair a b).map fun pair => pair.putBack (f pair.first) (g pair.second) := by
  rw [borrowPair_eq]
  cases found : c.devicePair a b with
  | error cause =>
    rw [updatePair, found]
    rfl
  | ok pair =>
    obtain ⟨first, second⟩ := pair
    obtain ⟨different, atA, atB⟩ := devicePair_eq_ok_iff.mp found
    have changed : (c.devices.modify a f).modify b g =
        (c.devices.set a (f first)).set b (g second) := by
      rw [List.modify_eq_set, List.modify_eq_set, List.getElem?_set_ne different, atA, atB]
      rfl
    rw [updatePair_eq different atA atB]
    exact congrArg (fun devices => Except.ok { c with devices }) changed

/-! ### What is changed -/

/-- Whether a configuration becomes another one by having two of its devices replaced. -/
structure ReplacesPair (c : Config) (a b : Nat) (x y : Device) (c' : Config) : Prop where
  first : c'.devices[a]? = some x
  second : c'.devices[b]? = some y
  others : ∀ k, k ≠ a → k ≠ b → c'.devices[k]? = c.devices[k]?
  ports : c'.ports = c.ports
  flows : c'.flows = c.flows

theorem replacesPair_set (different : a ≠ b) (insideA : a < c.devices.length)
    (insideB : b < c.devices.length) :
    c.ReplacesPair a b x y { c with devices := (c.devices.set a x).set b y } where
  first := by
    rw [List.getElem?_set_ne different.symm, List.getElem?_set_self insideA]
  second := List.getElem?_set_self (by rwa [List.length_set])
  others k atA atB := by
    rw [List.getElem?_set_ne (Ne.symm atB), List.getElem?_set_ne (Ne.symm atA)]
  ports := rfl
  flows := rfl

theorem changePair_of_ne (different : a ≠ b) (atA : c.devices[a]? = some x)
    (atB : c.devices[b]? = some y) :
    c.changePair a b f g =
      ({ c with devices := (c.devices.set a (f x)).set b (g y) }, .ok ()) := by
  rw [changePair, borrowPair_eq, devicePair_eq_ok_iff.mpr ⟨different, atA, atB⟩]
  rfl

/-! ### What is refused -/

theorem changePair_of_error (refused : c.devicePair a b = .error cause) :
    c.changePair a b f g = (c, .error cause) := by
  rw [changePair, borrowPair_eq, refused]
  rfl

theorem devicePair_self (found : c.devices[a]? = some x) :
    c.devicePair a a = .error (.sameDevice x.name) := by
  rw [devicePair, if_pos rfl, deviceAt_eq_ok_iff.mpr found]
  rfl

theorem deviceAt_of_le (outside : c.devices.length ≤ a) :
    c.deviceAt a = .error (.noDeviceAt a) := by
  rw [deviceAt, List.getElem?_eq_none outside]

/-- The first position is looked at before the second one. -/
theorem devicePair_of_le_first (outside : c.devices.length ≤ a) :
    c.devicePair a b = .error (.noDeviceAt a) := by
  rw [devicePair, deviceAt_of_le outside]
  split <;> rfl

theorem devicePair_of_le_second (atA : c.devices[a]? = some x)
    (outside : c.devices.length ≤ b) : c.devicePair a b = .error (.noDeviceAt b) := by
  have inside : a < c.devices.length := (List.getElem?_eq_some_iff.mp atA).1
  rw [devicePair, if_neg (by omega), deviceAt_eq_ok_iff.mpr atA, deviceAt_of_le outside]
  rfl

/-- A position outside the list is the only reason for a refusal that names no device. -/
theorem exists_noDeviceAt_iff :
    (∃ index, c.devicePair a b = .error (.noDeviceAt index)) ↔
      c.devices.length ≤ a ∨ c.devices.length ≤ b := by
  rcases Nat.lt_or_ge a c.devices.length with insideA | outsideA
  · have atA := List.getElem?_eq_getElem insideA
    rcases Nat.lt_or_ge b c.devices.length with insideB | outsideB
    · have atB := List.getElem?_eq_getElem insideB
      by_cases same : a = b
      · subst same
        simp [devicePair_self atA, insideA]
      · simp [devicePair_eq_ok_iff.mpr ⟨same, atA, atB⟩, insideA, insideB]
    · simp [devicePair_of_le_second atA outsideB, outsideB]
  · simp [devicePair_of_le_first outsideA, outsideA]

/-! ### Both together -/

/-- What taking two devices out and changing them does, for any two positions. -/
theorem pair_update (c : Config) (a b : Nat) (f g : Device → Device) :
    c.devicePair a b = (c.borrowPair a b).map (fun pair => (pair.first, pair.second)) ∧
      c.updatePair a b f g =
        (c.borrowPair a b).map (fun pair => pair.putBack (f pair.first) (g pair.second)) ∧
      (∀ x y, a ≠ b → c.devices[a]? = some x → c.devices[b]? = some y →
        c.devicePair a b = .ok (x, y) ∧
          ∃ c', c.ReplacesPair a b (f x) (g y) c' ∧ c.changePair a b f g = (c', .ok ()) ∧
            c.changePair b a g f = (c', .ok ())) ∧
      (∀ x, a = b → c.devices[a]? = some x →
        c.devicePair a b = .error (.sameDevice x.name) ∧
          c.changePair a b f g = (c, .error (.sameDevice x.name))) ∧
      ((∃ index, c.devicePair a b = .error (.noDeviceAt index)) ↔
        c.devices.length ≤ a ∨ c.devices.length ≤ b) := by
  refine ⟨devicePair_eq_borrowPair c a b, updatePair_eq_borrowPair c a b f g, ?_, ?_,
    exists_noDeviceAt_iff⟩
  · intro x y different atA atB
    have insideA : a < c.devices.length := (List.getElem?_eq_some_iff.mp atA).1
    have insideB : b < c.devices.length := (List.getElem?_eq_some_iff.mp atB).1
    refine ⟨devicePair_eq_ok_iff.mpr ⟨different, atA, atB⟩, _,
      replacesPair_set different insideA insideB, changePair_of_ne different atA atB, ?_⟩
    rw [changePair_of_ne different.symm atB atA, List.set_comm _ _ different]
  · rintro x rfl found
    have refused := devicePair_self found
    exact ⟨refused, changePair_of_error refused⟩

/-- Three devices. -/
def threeDevices : Config where
  devices := [{ name := "left" }, { name := "middle" }, { name := "right" }]

/-- The last device and the first one are changed, in either order, and the one between is not. The
device in the middle is not taken out twice. -/
theorem pair_update_of_threeDevices :
    (∃ c', threeDevices.changePair 2 0 (fun d => { d with name := d.name ++ "most" })
          (·.addEthernet { name := "left.1", mac := "00:00:00:00:00:01" }) = (c', .ok ()) ∧
        threeDevices.changePair 0 2 (·.addEthernet { name := "left.1", mac := "00:00:00:00:00:01" })
          (fun d => { d with name := d.name ++ "most" }) = (c', .ok ()) ∧
        c'.devices[2]? = some { name := "rightmost" } ∧
        c'.devices[1]? = some { name := "middle" }) ∧
      threeDevices.changePair 1 1 id id = (threeDevices, .error (.sameDevice "middle")) ∧
      threeDevices.devicePair 3 0 = .error (.noDeviceAt 3) := by
  obtain ⟨-, -, changes, -, -⟩ := pair_update threeDevices 2 0
    (fun d => { d with name := d.name ++ "most" })
    (·.addEthernet { name := "left.1", mac := "00:00:00:00:00:01" })
  obtain ⟨-, c', replaces, forth, back⟩ := changes _ _ (by decide) rfl rfl
  obtain ⟨-, -, -, refuses, -⟩ := pair_update threeDevices 1 1 id id
  refine ⟨⟨c', forth, back, replaces.first, replaces.others 1 (by decide) (by decide)⟩, ?_, rfl⟩
  exact (refuses _ rfl rfl).2

end Whole

end Config

end IsisTestbed
