import IsisTestbed.Proofs.Topology.Validity

/-!
The names that are derived for the objects of nodes and links. Main statement: a derived name tells
what it is derived for, whatever the devices are called, so two of them are never the same; and
adding a node or making a link gives no other names.
-/

namespace IsisTestbed.Topology

/-! ### Families of names -/

/-- The objects that are numbered on a device. -/
inductive NumberedFamily where
  | ethernet
  | v4
  | v6
  | isisInterface

/-- The objects that a node consists of. -/
inductive NodeFamily where
  | device
  | router
  | v4Routes
  | v6Routes

/-- The name of the object with a number on a device. -/
def NumberedFamily.name (device : String) (n : Nat) : NumberedFamily → String
  | .ethernet => ethernetName device n
  | .v4 => v4Name (ethernetName device n)
  | .v6 => v6Name (ethernetName device n)
  | .isisInterface => interfaceName device n

/-- The name of an object of the node with a name. -/
def NodeFamily.name (node : String) : NodeFamily → String
  | .device => node
  | .router => node ++ ".isis"
  | .v4Routes => node ++ ".isis" ++ ".isis.v4routes"
  | .v6Routes => node ++ ".isis" ++ ".isis.v6routes"

/-- What a name is derived for: an object with a number on a device, or an object of the node with
an octet, a number and a position. -/
inductive DerivedName where
  | numbered (family : NumberedFamily) (device : String) (n : Nat)
  | ofNode (family : NodeFamily) (octet : UInt8) (index : Nat) (p : Position)

/-- The name that is derived. -/
def DerivedName.text : DerivedName → String
  | .numbered family device n => family.name device n
  | .ofNode family octet index p => family.name (nodeName octet index p)

/-! ### Numbered names -/

section Numbered

variable {f f' : NumberedFamily} {device device' name : String} {m n : Nat} {d : Device}
  {r : Router}

theorem NumberedFamily.lastLetter?_name (f : NumberedFamily) (device : String) (n : Nat) :
    lastLetter? (f.name device n) = some 'h' ∨ lastLetter? (f.name device n) = some 'p' ∨
      lastLetter? (f.name device n) = some 'f' := by
  cases f <;> simp [NumberedFamily.name]

/-- Only the two kinds of addresses share a last letter, and they differ in the digit behind it. -/
theorem NumberedFamily.name_inj (h : f.name device m = f'.name device' n) :
    f = f' ∧ device = device' ∧ m = n := by
  have letters := congrArg lastLetter? h
  cases f <;> cases f' <;> simp [NumberedFamily.name] at letters
  case ethernet.ethernet => exact ⟨rfl, ethernetName_inj h⟩
  case v4.v4 => exact ⟨rfl, ethernetName_inj (v4Name_inj h)⟩
  case v4.v6 => exact absurd h v4Name_ne_v6Name
  case v6.v4 => exact absurd h.symm v4Name_ne_v6Name
  case v6.v6 => exact ⟨rfl, ethernetName_inj (v6Name_inj h)⟩
  case isisInterface.isisInterface => exact ⟨rfl, interfaceName_inj h⟩

/-- The next end on a device has numbered names, with numbers from one on. -/
theorem exists_numbered_of_mem_nextNames (h : name ∈ nextNames d r) :
    ∃ family n, 1 ≤ n ∧ name = (DerivedName.numbered family d.name n).text := by
  simp only [nextNames, nextEthernet, List.mem_cons, List.not_mem_nil, or_false] at h
  rcases h with rfl | rfl | rfl | rfl
  · exact ⟨.ethernet, _, Nat.succ_pos _, rfl⟩
  · exact ⟨.v4, _, Nat.succ_pos _, rfl⟩
  · exact ⟨.v6, _, Nat.succ_pos _, rfl⟩
  · exact ⟨.isisInterface, _, Nat.succ_pos _, rfl⟩

end Numbered

/-! ### Names of nodes -/

section NodeNames

variable {f f' : NodeFamily} {octet octet' : UInt8} {index index' : Nat} {p p' : Position}
  {plan : RouterPlan} {name : String}

theorem NodeFamily.lastLetter?_name (f : NodeFamily) (octet : UInt8) (index : Nat)
    (p : Position) :
    lastLetter? (f.name (nodeName octet index p)) = some '.' ∨
      lastLetter? (f.name (nodeName octet index p)) = some 's' := by
  cases f <;> simp [NodeFamily.name]

/-- The name of a node itself has a last letter of its own. The other three families have suffixes
none of which is the end of another. -/
theorem NodeFamily.name_inj (h : f.name (nodeName octet index p) =
    f'.name (nodeName octet' index' p')) :
    f = f' ∧ nodeName octet index p = nodeName octet' index' p' := by
  have letters := congrArg lastLetter? h
  have ends := congrArg (fun s => s.toList.reverse) h
  cases f <;> cases f' <;> simp [NodeFamily.name] at letters ends
  case device.device => exact ⟨rfl, h⟩
  case router.router => exact ⟨rfl, String.toList_inj.mp ends⟩
  case v4Routes.v4Routes => exact ⟨rfl, String.toList_inj.mp ends⟩
  case v6Routes.v6Routes => exact ⟨rfl, String.toList_inj.mp ends⟩

theorem exists_ofNode_of_mem_plannedDevice (h : name ∈ (plannedDevice plan index p).objectNames) :
    ∃ family, name = (DerivedName.ofNode family plan.systemIdOctet index p).text := by
  have listed := (objectNames_plannedDevice plan index p).subset h
  simp only [List.mem_cons, List.not_mem_nil, or_false] at listed
  rcases listed with rfl | rfl | rfl | rfl
  · exact ⟨.device, rfl⟩
  · exact ⟨.router, rfl⟩
  · exact ⟨.v4Routes, rfl⟩
  · exact ⟨.v6Routes, rfl⟩

end NodeNames

/-! ### All names -/

namespace DerivedName

theorem text_numbered_ne_text_ofNode (family : NumberedFamily) (device : String) (n : Nat)
    (nodeFamily : NodeFamily) (octet : UInt8) (index : Nat) (p : Position) :
    (numbered family device n).text ≠ (ofNode nodeFamily octet index p).text := by
  apply lastLetter?_ne
  simp only [text]
  rcases family.lastLetter?_name device n with letter | letter | letter <;>
    rcases nodeFamily.lastLetter?_name octet index p with other | other <;>
    simp [letter, other]

/-- A derived name tells what it is derived for. -/
theorem text_inj {x y : DerivedName} (h : x.text = y.text) : x = y := by
  cases x with
  | numbered family device n =>
    cases y with
    | numbered family' device' n' =>
      obtain ⟨rfl, rfl, rfl⟩ := NumberedFamily.name_inj h
      rfl
    | ofNode family' octet index p =>
      exact absurd h (text_numbered_ne_text_ofNode family device n family' octet index p)
  | ofNode family octet index p =>
    cases y with
    | numbered family' device n =>
      exact absurd h.symm (text_numbered_ne_text_ofNode family' device n family octet index p)
    | ofNode family' octet' index' p' =>
      obtain ⟨rfl, names⟩ := NodeFamily.name_inj h
      obtain ⟨rfl, rfl, rfl⟩ := nodeName_inj names
      rfl

end DerivedName

/-! ### Where names are derived -/

section Changes

variable {c c' : Config} {plan : RouterPlan} {index i j a b : Nat} {p : Position} {node : Node}
  {addressing : LinkAddressing} {link : Link} {name : String}

/-- A node brings names of its own, also those of its router and of its route ranges. -/
theorem names_of_addNode (added : addNode plan c index p = .ok (c', node))
    (used : name ∈ c'.objectNames) :
    name ∈ c.objectNames ∨
      ∃ family, name = (DerivedName.ofNode family plan.systemIdOctet index p).text := by
  obtain ⟨-, -, rfl⟩ := eq_of_addNode added
  rcases List.mem_append.mp ((c.objectNames_addDevice _).mem_iff.mp used) with old | new
  · exact .inl old
  · exact .inr (exists_ofNode_of_mem_plannedDevice new)

/-- A link brings names that are numbered on its two devices. -/
theorem names_of_connectDevices (linked : connectDevices c i j a b addressing = .ok (c', link))
    (used : name ∈ c'.objectNames) :
    name ∈ c.objectNames ∨ ∃ d family n, (c.devices[i]? = some d ∨ c.devices[j]? = some d) ∧
      1 ≤ n ∧ name = (DerivedName.numbered family d.name n).text := by
  obtain ⟨first, second, linkable, rfl, -⟩ := eq_of_connectDevices linked
  obtain ⟨ra, runsA⟩ := Option.isSome_iff_exists.mp linkable.firstRuns
  obtain ⟨rb, runsB⟩ := Option.isSome_iff_exists.mp linkable.secondRuns
  have listed := (objectNames_linkedConfig linkable runsA runsB).mem_iff.mp used
  rcases List.mem_append.mp listed with atSecond | rest
  · have next := (endNames_linkEthernet_sublist second rb _ _ _ _).subset atSecond
    obtain ⟨family, n, positive, same⟩ := exists_numbered_of_mem_nextNames next
    exact .inr ⟨second, family, n, .inr linkable.atSecond, positive, same⟩
  rcases List.mem_append.mp rest with atFirst | old
  · have next := (endNames_linkEthernet_sublist first ra _ _ _ _).subset atFirst
    obtain ⟨family, n, positive, same⟩ := exists_numbered_of_mem_nextNames next
    exact .inr ⟨first, family, n, .inl linkable.atFirst, positive, same⟩
  · exact .inl old

end Changes

/-- Names are derived without clashes: equal ones are derived for the same object of the same node,
or for the same number of the same family on devices of the same name. All new names of a node and
of a link are derived ones, the latter with numbers from one on. -/
theorem derived_names :
    (∀ x y : DerivedName, x.text = y.text ↔ x = y) ∧
    (∀ plan c index p c' node, addNode plan c index p = .ok (c', node) →
      ∀ name ∈ c'.objectNames, name ∈ c.objectNames ∨
        ∃ family, name = (DerivedName.ofNode family plan.systemIdOctet index p).text) ∧
    ∀ c i j a b addressing c' link, connectDevices c i j a b addressing = .ok (c', link) →
      ∀ name ∈ c'.objectNames, name ∈ c.objectNames ∨
        ∃ d family n, (c.devices[i]? = some d ∨ c.devices[j]? = some d) ∧ 1 ≤ n ∧
          name = (DerivedName.numbered family d.name n).text := by
  refine ⟨fun x y => ⟨DerivedName.text_inj, congrArg DerivedName.text⟩, ?_, ?_⟩
  · intro plan c index p c' node added name used
    exact names_of_addNode added used
  · intro c i j a b addressing c' link linked name used
    exact names_of_connectDevices linked used

/-- Two devices that run ISIS, one of them called like an ethernet of the other. -/
def lookalikes : Config where
  devices :=
    [{ name := "d1", isis := some { name := "d1.isis", systemId := "000000000001" } },
      { name := "d1eth1", isis := some { name := "d1eth1.isis", systemId := "000000000002" } }]

/-- What looks like the name of an ethernet can be one of a device, and what is numbered on it still
has names of its own. -/
theorem derived_names_of_lookalikes :
    (DerivedName.numbered .ethernet "d1" 1).text = "d1eth1" ∧
      (DerivedName.numbered .ethernet "d1eth1" 1).text ≠
        (DerivedName.numbered .ethernet "d1" 11).text ∧
      (∃ c' link, connectDevices lookalikes 0 1 0 1 { v6Group := some 0 } = .ok (c', link) ∧
        ∀ name ∈ c'.objectNames, name ∈ lookalikes.objectNames ∨
          ∃ d family n, (lookalikes.devices[0]? = some d ∨ lookalikes.devices[1]? = some d) ∧
            1 ≤ n ∧ name = (DerivedName.numbered family d.name n).text) ∧
      ∃ c' node, addNode ⟨2, none, some { firstGroup := 0 }⟩ lookalikes 9 (.station 10) =
          .ok (c', node) ∧
        ∀ name ∈ c'.objectNames, name ∈ lookalikes.objectNames ∨
          ∃ family, name = (DerivedName.ofNode family 2 9 (.station 10)).text := by
  obtain ⟨distinct, nodeNames, linkNames⟩ := derived_names
  refine ⟨by decide +kernel, ?_, ?_, ?_⟩
  · intro same
    have devices := (distinct _ _).mp same
    simp at devices
  · have linkable : Linkable lookalikes 0 1 _ _ := ⟨by decide, rfl, rfl, rfl, rfl⟩
    have linked : connectDevices lookalikes 0 1 0 1 { v6Group := some 0 } = _ :=
      connectDevices_eq rfl (by decide) (by decide) linkable
    exact ⟨_, _, linked, linkNames _ _ _ _ _ _ _ _ linked⟩
  · have added : addNode ⟨2, none, some { firstGroup := 0 }⟩ lookalikes 9 (.station 10) = _ :=
      addNode_eq (by decide +kernel) (show 9 < 254 by decide) (show 10 < 254 by decide)
    have names := nodeNames _ _ _ _ _ _ added
    exact ⟨_, _, added, names⟩

end IsisTestbed.Topology
