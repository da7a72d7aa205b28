import IsisTestbed.Proofs.Config.Soundness
import Mathlib.Data.Finset.Card

/-!
How repeated names and system ids are reported. Each check goes through its entries in the order of
the document and keeps the first user of every key, so an entry is reported exactly if an earlier
one has its key, once, and together with the first of these. Routers with malformed system ids take
no part in the search for duplicates.
-/

namespace IsisTestbed

/-! ### Repeated keys -/

/-- An entry of a list whose key an earlier entry has. -/
structure Repeat (α : Type) where
  /-- The first entry of the key. -/
  first : α
  /-- The entry that has the key again. -/
  again : α
  deriving DecidableEq, Repr

section Repeats

variable {α β γ κ : Type} [BEq κ]

/-- The entries of a list whose key an earlier entry has, each with the first entry of its key. -/
def repeats (key : α → κ) (l : List α) : List (Repeat α) :=
  l.zipIdx.filterMap fun entry =>
    ((l.take entry.2).find? fun earlier => key earlier == key entry.1).map fun first =>
      ⟨first, entry.1⟩

/-- What is reported of the repeated keys, from a value of the first entry and the repeating one. -/
def reports (key : α → κ) (value : α → β) (report : β → α → γ) (l : List α) : List γ :=
  (repeats key l).map fun r => report (value r.first) r.again

/-- Whether what was seen gives the value of the first entry for each key that entries have, and
nothing for any other key. -/
def KeepsFirst (key : α → κ) (value : α → β) (seen : List (κ × β)) (entries : List α) : Prop :=
  ∀ k, (seen.find? fun s => s.1 == k).map Prod.snd = (entries.find? fun x => key x == k).map value

variable {key : α → κ} {value : α → β} {report : β → α → γ} {seen : List (κ × β)}
  {entries : List α} {x : α} {first : κ × β}

theorem repeats_concat (key : α → κ) (l : List α) (x : α) :
    repeats key (l ++ [x]) =
      repeats key l ++ ((l.find? fun earlier => key earlier == key x).map fun first =>
        ⟨first, x⟩).toList := by
  have before : (l.zipIdx.filterMap fun entry =>
      (((l ++ [x]).take entry.2).find? fun earlier => key earlier == key entry.1).map fun first =>
        (⟨first, entry.1⟩ : Repeat α)) = repeats key l := by
    refine List.filterMap_congr fun entry member => ?_
    rw [List.take_append_of_le_length (List.mem_zipIdx' member).1.le]
  rw [repeats, List.zipIdx_append, List.filterMap_append, before]
  cases used : l.find? fun earlier => key earlier == key x <;> simp [used]

/-- An entry with a key that was seen is reported with the value that was kept. -/
theorem reports_concat_of_seen (h : KeepsFirst key value seen entries)
    (found : (seen.find? fun s => s.1 == key x) = some first) :
    reports key value report (entries ++ [x]) =
      reports key value report entries ++ [report first.2 x] := by
  have kept := h (key x)
  rw [found] at kept
  obtain ⟨y, earliest, same⟩ := Option.map_eq_some_iff.mp kept.symm
  simp [reports, repeats_concat, earliest, same]

/-- An entry with a new key is not reported. -/
theorem reports_concat_of_new (h : KeepsFirst key value seen entries)
    (unused : (seen.find? fun s => s.1 == key x) = none) :
    reports key value report (entries ++ [x]) = reports key value report entries := by
  have none := h (key x)
  rw [unused] at none
  simp [reports, repeats_concat, Option.map_eq_none_iff.mp none.symm]

variable [LawfulBEq κ]

/-- An entry with a key that was seen leaves the first ones as they are. -/
theorem KeepsFirst.concat_of_seen (h : KeepsFirst key value seen entries)
    (found : (seen.find? fun s => s.1 == key x) = some first) :
    KeepsFirst key value seen (entries ++ [x]) := by
  intro k
  rw [List.find?_append, h k]
  cases earlier : entries.find? fun y => key y == k with
  | some y => rfl
  | none =>
    have other : key x ≠ k := by
      rintro rfl
      have kept := h (key x)
      rw [found, earlier] at kept
      cases kept
    simp [other]

/-- An entry with a new key is the first one of its key. -/
theorem KeepsFirst.concat_of_new (h : KeepsFirst key value seen entries)
    (unused : (seen.find? fun s => s.1 == key x) = none) :
    KeepsFirst key value ((key x, value x) :: seen) (entries ++ [x]) := by
  intro k
  rw [List.find?_append, List.find?_cons]
  cases same : key x == k with
  | true =>
    have none := h (key x)
    rw [unused, eq_of_beq same] at none
    simp [Option.map_eq_none_iff.mp none.symm, same]
  | false =>
    simp [h k, same]

/-- Every entry of a list has a key of its own, or is one of the repeats. -/
theorem length_repeats_add_card [DecidableEq κ] (key : α → κ) (l : List α) :
    (repeats key l).length + (l.map key).toFinset.card = l.length := by
  induction l using List.reverseRecOn with
  | nil => rfl
  | append_singleton l x ih =>
    rw [repeats_concat, List.map_append, List.toFinset_append, List.length_append,
      List.length_append]
    have last : ([x].map key).toFinset = {key x} := rfl
    rw [last, Finset.union_comm, ← Finset.insert_eq]
    cases used : l.find? fun earlier => key earlier == key x with
    | some first =>
      have again : key x ∈ (l.map key).toFinset := by
        have same := List.find?_some used
        rw [List.mem_toFinset, List.mem_map]
        exact ⟨first, List.mem_of_find?_eq_some used, by simpa using same⟩
      rw [Finset.insert_eq_of_mem again]
      simp only [Option.map_some, Option.toList_some, List.length_singleton]
      omega
    | none =>
      have new : key x ∉ (l.map key).toFinset := by
        simpa using used
      rw [Finset.card_insert_of_notMem new]
      simp only [Option.map_none, Option.toList_none, List.length_nil, List.length_singleton]
      omega

/-- Each further use is a repeat of the first one. -/
example : repeats Prod.fst [("a", 1), ("b", 2), ("a", 3), ("a", 4)] =
    [⟨("a", 1), ("a", 3)⟩, ⟨("a", 1), ("a", 4)⟩] := by
  decide

end Repeats

/-! ### Kinds of violations -/

/-- The kinds of violations. -/
inductive ViolationKind where
  | duplicateName
  | unknownPort
  | unknownRemoteLink
  | asymmetricLink
  | unknownIsisEthernet
  | invalidMac
  | invalidSystemId
  | duplicateSystemId
  | invalidAddress
  | unknownFlowEndpoint
  | emptyFlowEndpoints
  deriving DecidableEq, Repr

/-- The kind of a violation. -/
def Violation.kind : Violation → ViolationKind
  | .duplicateName _ _ _ => .duplicateName
  | .unknownPort _ _ => .unknownPort
  | .unknownRemoteLink _ _ => .unknownRemoteLink
  | .asymmetricLink _ _ => .asymmetricLink
  | .unknownIsisEthernet _ _ _ => .unknownIsisEthernet
  | .invalidMac _ _ => .invalidMac
  | .invalidSystemId _ _ => .invalidSystemId
  | .duplicateSystemId _ _ _ => .duplicateSystemId
  | .invalidAddress _ _ _ => .invalidAddress
  | .unknownFlowEndpoint _ _ => .unknownFlowEndpoint
  | .emptyFlowEndpoints _ => .emptyFlowEndpoints

/-- The violations of a kind, in order. -/
def ofKind (kind : ViolationKind) (vs : List Violation) : List Violation :=
  vs.filter fun v => v.kind = kind

section Kinds

variable {v : Violation} {vs : List Violation} {kind : ViolationKind} {kinds : List ViolationKind}

/-- A check does not report other kinds than its own. -/
theorem ofKind_eq_nil (own : ∀ v ∈ vs, v.kind ∈ kinds) (other : kind ∉ kinds) :
    ofKind kind vs = [] := by
  rw [ofKind, List.filter_eq_nil_iff]
  intro v member same
  exact other (of_decide_eq_true same ▸ own v member)

theorem ofKind_flatMap_eq_nil {α : Type} {l : List α} {f : α → List Violation}
    (own : ∀ x, ∀ v ∈ f x, v.kind ∈ kinds) (other : kind ∉ kinds) :
    ofKind kind (l.flatMap f) = [] := by
  refine ofKind_eq_nil (fun v member => ?_) other
  obtain ⟨x, _, reported⟩ := List.mem_flatMap.mp member
  exact own x v reported

theorem ofKind_append (kind : ViolationKind) (vs vs' : List Violation) :
    ofKind kind (vs ++ vs') = ofKind kind vs ++ ofKind kind vs' :=
  List.filter_append ..

theorem ofKind_cons_of_eq (own : v.kind = kind) (vs : List Violation) :
    ofKind kind (v :: vs) = v :: ofKind kind vs :=
  List.filter_cons_of_pos (decide_eq_true own)

theorem ofKind_cons_of_ne (other : v.kind ≠ kind) (vs : List Violation) :
    ofKind kind (v :: vs) = ofKind kind vs :=
  List.filter_cons_of_neg (by simpa using other)

theorem kind_of_mem_duplicateNames {seen objects : List (String × ObjectKind)}
    (h : v ∈ duplicateNames seen objects) : v.kind ∈ [.duplicateName] := by
  obtain ⟨name, first, second, rfl⟩ := Config.exists_of_mem_duplicateNames h
  simp [Violation.kind]

theorem kind_of_mem_ethernetViolations {ports : List String} {ethernets : List Ethernet}
    {e : Ethernet} (h : v ∈ ethernetViolations ports ethernets e) :
    v.kind ∈ [.invalidMac, .unknownPort, .unknownRemoteLink, .asymmetricLink] := by
  unfold ethernetViolations connectionViolations at h
  rcases List.mem_append.mp h with mac | connection
  · split at mac
    · cases mac
    · cases List.mem_singleton.mp mac
      simp [Violation.kind]
  · split at connection
    · cases connection
    · split at connection
      · cases connection
      · cases List.mem_singleton.mp connection
        simp [Violation.kind]
    · split at connection
      · cases List.mem_singleton.mp connection
        simp [Violation.kind]
      · split at connection
        · cases connection
        · cases List.mem_singleton.mp connection
          simp [Violation.kind]

theorem kind_of_mem_routerViolations {d : Device} {r : Router} (h : v ∈ routerViolations d r) :
    v.kind ∈ [.unknownIsisEthernet, .invalidAddress] := by
  simp only [routerViolations, List.mem_append, List.mem_map, List.mem_flatMap] at h
  rcases h with (⟨_, _, rfl⟩ | ⟨_, _, _, _, own⟩) | ⟨_, _, _, _, own⟩
  · simp [Violation.kind]
  · rw [(Config.mem_routeAddressViolations own).2]
    simp [Violation.kind]
  · rw [(Config.mem_routeAddressViolations own).2]
    simp [Violation.kind]

/-- The induction is on the devices that are left to be checked. -/
theorem kind_of_mem_isisViolations {seen : List (List Char × String)} {devices : List Device}
    (h : v ∈ isisViolations seen devices) :
    v.kind ∈ [.invalidSystemId, .duplicateSystemId, .unknownIsisEthernet, .invalidAddress] := by
  induction devices generalizing seen with
  | nil => cases h
  | cons d rest ih =>
    have own {r : Router} (h : v ∈ routerViolations d r) : v.kind ∈ [.invalidSystemId,
        .duplicateSystemId, .unknownIsisEthernet, .invalidAddress] :=
      List.mem_cons_of_mem _ (List.mem_cons_of_mem _ (kind_of_mem_routerViolations h))
    unfold isisViolations at h
    split at h
    · exact ih h
    · split at h
      · split at h
        · rcases List.mem_append.mp h with front | later
          · rcases List.mem_cons.mp front with rfl | routes
            · simp [Violation.kind]
            · exact own routes
          · exact ih later
        · rcases List.mem_append.mp h with routes | later
          · exact own routes
          · exact ih later
      · rcases List.mem_append.mp h with front | later
        · rcases List.mem_cons.mp front with rfl | routes
          · simp [Violation.kind]
          · exact own routes
        · exact ih later

theorem kind_of_mem_addressViolations {e : Ethernet} (h : v ∈ addressViolations e) :
    v.kind ∈ [.invalidAddress] := by
  have own {isAddress : String → Bool} {longest : UInt8} {a : InterfaceAddress}
      (h : v ∈ interfaceAddressViolations isAddress longest a) : v.kind ∈ [.invalidAddress] := by
    unfold interfaceAddressViolations at h
    split at h
    · cases h
    · cases List.mem_singleton.mp h
      simp [Violation.kind]
  rcases List.mem_append.mp h with v4 | v6
  · obtain ⟨a, _, h⟩ := List.mem_flatMap.mp v4
    exact own h
  · obtain ⟨a, _, h⟩ := List.mem_flatMap.mp v6
    exact own h

theorem kind_of_mem_flowViolations {ports endpoints : List String} {f : Flow}
    (h : v ∈ flowViolations ports endpoints f) :
    v.kind ∈ [.emptyFlowEndpoints, .unknownFlowEndpoint] := by
  rcases List.mem_append.mp h with empty | unknown
  · split at empty
    · cases List.mem_singleton.mp empty
      simp [Violation.kind]
    · cases empty
  · obtain ⟨_, _, rfl⟩ := List.mem_map.mp unknown
    simp [Violation.kind]

end Kinds

/-! ### Names -/

/-- What is reported of names that are used again: the kind of their first user, and of the other
one. -/
def nameReports (objects : List (String × ObjectKind)) : List Violation :=
  reports Prod.fst Prod.snd (fun first o => .duplicateName o.1 first o.2) objects

/-- The induction is on the objects that are left to be checked. -/
theorem nameReports_append {seen before objects : List (String × ObjectKind)}
    (h : KeepsFirst Prod.fst Prod.snd seen before) :
    nameReports (before ++ objects) = nameReports before ++ duplicateNames seen objects := by
  induction objects generalizing seen before with
  | nil => simp [duplicateNames]
  | cons o rest ih =>
    obtain ⟨name, kind⟩ := o
    rw [List.append_cons, duplicateNames]
    split
    · next first found =>
      rw [ih (h.concat_of_seen found), nameReports, reports_concat_of_seen h found,
        List.append_assoc]
      rfl
    · next unused =>
      rw [ih (h.concat_of_new unused), nameReports, reports_concat_of_new h unused]
      rfl

theorem duplicateNames_eq (objects : List (String × ObjectKind)) :
    duplicateNames [] objects = nameReports objects := by
  have nothing : KeepsFirst Prod.fst Prod.snd [] ([] : List (String × ObjectKind)) := fun _ => rfl
  exact (nameReports_append nothing).symm

namespace Config

/-- The names of all objects of a kind. -/
def namesOf (c : Config) : ObjectKind → List String
  | .port => c.ports.map (·.name)
  | .device => c.devices.map (·.name)
  | .ethernet => c.ethernets.map (·.name)
  | .ipv4 => (c.ethernets.flatMap (·.ipv4)).map (·.name)
  | .ipv6 => (c.ethernets.flatMap (·.ipv6)).map (·.name)
  | .router => c.routers.map (·.name)
  | .isisInterface => (c.routers.flatMap (·.interfaces)).map (·.name)
  | .routeRange => (c.routers.flatMap (·.routes)).map (·.name)
  | .flow => c.flows.map (·.name)

/-- The objects of the document that have a kind. -/
theorem map_filter_named (c : Config) (kind : ObjectKind) :
    (c.named.filter fun o => o.2 = kind).map Prod.fst = c.namesOf kind := by
  have none {α β : Type} (l : List α) : l.flatMap (fun _ => ([] : List β)) = [] :=
    List.flatMap_eq_nil_iff.mpr fun _ _ => rfl
  cases kind <;>
    simp [named, namesOf, Device.named, Ethernet.named, Router.named, ethernets, routers, none,
      List.filter_flatMap, List.flatMap_assoc, List.filterMap_eq_flatMap_toList,
      List.map_eq_flatMap]

end Config

/-! ### System ids -/

instance (s : String) : Decidable (IsSystemId s) :=
  decidable_of_iff _ isSystemId_iff

/-- What is reported of system ids that are used again: the router that has it first, and the other
one. -/
def idReports (routers : List Router) : List Violation :=
  reports (fun r => foldCase r.systemId) (·.name)
    (fun first r => .duplicateSystemId r.systemId first r.name) routers

/-- The induction is on the devices that are left to be checked. Routers with malformed ids are
passed over, and what else is wrong with a router is of another kind. -/
theorem idReports_append {seen : List (List Char × String)} {before : List Router}
    {devices : List Device} (h : KeepsFirst (fun r => foldCase r.systemId) (·.name) seen before) :
    idReports (before ++ (devices.filterMap (·.isis)).filter fun r => IsSystemId r.systemId) =
      idReports before ++ ofKind .duplicateSystemId (isisViolations seen devices) := by
  induction devices generalizing seen before with
  | nil => simp [isisViolations, ofKind]
  | cons d rest ih =>
    unfold isisViolations
    cases runs : d.isis with
    | none =>
      rw [List.filterMap_cons_none runs]
      exact ih h
    | some r =>
      have own : ofKind .duplicateSystemId (routerViolations d r) = [] :=
        ofKind_eq_nil (fun v => kind_of_mem_routerViolations) (by decide)
      rw [List.filterMap_cons_some runs]
      dsimp only
      by_cases wellFormed : IsSystemId r.systemId
      · rw [List.filter_cons_of_pos (by simpa using wellFormed), List.append_cons,
          if_pos (isSystemId_iff.mpr wellFormed)]
        cases found : seen.find? fun s => s.1 == foldCase r.systemId with
        | some first =>
          rw [ih (h.concat_of_seen found), idReports, reports_concat_of_seen h found, ofKind_append,
            ofKind_cons_of_eq (by rfl), own, List.append_assoc]
          rfl
        | none =>
          rw [ih (h.concat_of_new found), idReports, reports_concat_of_new h found, ofKind_append,
            own]
          rfl
      · rw [List.filter_cons_of_neg (by simpa using wellFormed),
          if_neg fun accepted => wellFormed (isSystemId_iff.mp accepted), ih h, ofKind_append,
          ofKind_cons_of_ne (by simp [Violation.kind]), own]
        rfl

/-- A malformed system id is reported once, whatever was seen before. -/
theorem ofKind_invalidSystemId (seen : List (List Char × String)) (devices : List Device) :
    ofKind .invalidSystemId (isisViolations seen devices) =
      ((devices.filterMap (·.isis)).filter fun r => ¬ IsSystemId r.systemId).map
        fun r => .invalidSystemId r.name r.systemId := by
  induction devices generalizing seen with
  | nil => rfl
  | cons d rest ih =>
    unfold isisViolations
    cases runs : d.isis with
    | none =>
      rw [List.filterMap_cons_none runs]
      exact ih seen
    | some r =>
      have own : ofKind .invalidSystemId (routerViolations d r) = [] :=
        ofKind_eq_nil (fun v => kind_of_mem_routerViolations) (by decide)
      rw [List.filterMap_cons_some runs]
      dsimp only
      by_cases wellFormed : IsSystemId r.systemId
      · rw [List.filter_cons_of_neg (by simpa using wellFormed),
          if_pos (isSystemId_iff.mpr wellFormed)]
        split
        · rw [ofKind_append, ofKind_cons_of_ne (by simp [Violation.kind]), own, ih]
          rfl
        · rw [ofKind_append, own, ih]
          rfl
      · rw [List.filter_cons_of_pos (by simpa using wellFormed),
          if_neg fun accepted => wellFormed (isSystemId_iff.mp accepted), ofKind_append,
          ofKind_cons_of_eq (by rfl), own, ih]
        rfl

/-! ### Whole configurations -/

namespace Config

/-- Repeated names are reported by the first check alone. -/
theorem ofKind_duplicateName (c : Config) :
    ofKind .duplicateName c.violations = nameReports c.named := by
  have names : ofKind .duplicateName (duplicateNames [] c.named) = duplicateNames [] c.named :=
    List.filter_eq_self.mpr fun v member =>
      decide_eq_true (List.mem_singleton.mp (kind_of_mem_duplicateNames member))
  rw [violations, ofKind_append, ofKind_append, ofKind_append, ofKind_append, names,
    ofKind_flatMap_eq_nil (fun e v => kind_of_mem_ethernetViolations) (by decide),
    ofKind_eq_nil (fun v => kind_of_mem_isisViolations) (by decide),
    ofKind_flatMap_eq_nil (fun e v => kind_of_mem_addressViolations) (by decide),
    ofKind_flatMap_eq_nil (fun f v => kind_of_mem_flowViolations) (by decide), duplicateNames_eq]
  simp only [List.append_nil]

/-- What is wrong with system ids is reported by the check of the routers alone. -/
theorem ofKind_violations_of_systemId {kind : ViolationKind}
    (about : kind ∈ [.invalidSystemId, .duplicateSystemId]) (c : Config) :
    ofKind kind c.violations = ofKind kind (isisViolations [] c.devices) := by
  have other {kinds : List ViolationKind}
      (apart : ∀ k ∈ [.invalidSystemId, .duplicateSystemId], k ∉ kinds) : kind ∉ kinds :=
    apart kind about
  rw [violations, ofKind_append, ofKind_append, ofKind_append, ofKind_append,
    ofKind_eq_nil (fun v => kind_of_mem_duplicateNames) (other (by decide)),
    ofKind_flatMap_eq_nil (fun e v => kind_of_mem_ethernetViolations) (other (by decide)),
    ofKind_flatMap_eq_nil (fun e v => kind_of_mem_addressViolations) (other (by decide)),
    ofKind_flatMap_eq_nil (fun f v => kind_of_mem_flowViolations) (other (by decide))]
  simp only [List.append_nil, List.nil_append]

/-- Each object whose name an earlier object has is reported once, in the order of the document,
with the kind of the first user of the name; these are all objects but one for each name. Each
router whose well-formed system id an earlier router has, in whatever case, is reported once, in the
order of the devices, with the first such router. Routers with malformed system ids are reported as
such instead, and count for no other router. -/
theorem reports_of_duplicates (c : Config) :
    ofKind .duplicateName c.violations = (repeats Prod.fst c.named).map
      (fun r => .duplicateName r.again.1 r.first.2 r.again.2) ∧
    (∀ kind, (c.named.filter fun o => o.2 = kind).map Prod.fst = c.namesOf kind) ∧
    (ofKind .duplicateName c.violations).length + c.objectNames.toFinset.card =
      c.objectNames.length ∧
    ofKind .duplicateSystemId c.violations =
      (repeats (fun r => foldCase r.systemId) (c.routers.filter fun r => IsSystemId r.systemId)).map
        (fun r => .duplicateSystemId r.again.systemId r.first.name r.again.name) ∧
    ofKind .invalidSystemId c.violations =
      (c.routers.filter fun r => ¬ IsSystemId r.systemId).map
        fun r => .invalidSystemId r.name r.systemId := by
  have names := ofKind_duplicateName c
  refine ⟨names, c.map_filter_named, ?_, ?_, ?_⟩
  · have all := length_repeats_add_card Prod.fst c.named
    rw [List.toFinset_eq_of_perm _ _ c.map_named] at all
    have objects : c.objectNames.length = c.named.length := by
      rw [← c.map_named.length_eq, List.length_map]
    rw [names, nameReports, reports, List.length_map]
    omega
  · have ids : KeepsFirst (fun r : Router => foldCase r.systemId) (·.name) [] [] := fun _ => rfl
    rw [ofKind_violations_of_systemId (by decide)]
    have reported : idReports ([] ++ c.routers.filter fun r => IsSystemId r.systemId) =
        idReports [] ++ ofKind .duplicateSystemId (isisViolations [] c.devices) :=
      idReports_append ids
    exact reported.symm
  · rw [ofKind_violations_of_systemId (by decide), ofKind_invalidSystemId]
    rfl

end Config

end IsisTestbed
