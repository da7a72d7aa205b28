import IsisTestbed.Proofs.Topology.Validity

/-!
Runs of builds and connects on one configuration. A session holds the configuration and the
topologies that were generated on it so far; each call changes it, or fails and leaves behind what it
leaves behind. Runs start from a configuration that stays clear of the derived names and system ids,
and then it is consistent after every call.
-/

namespace IsisTestbed

open IsisTestbed.Topology

/-- A configuration and the topologies that were generated on it, in the order of their creation. -/
structure Session where
  config : Config
  topologies : List Topology := []

/-- What can be asked of a session. -/
inductive Call where
  /-- Generates a topology. -/
  | build (b : Builder)
  /-- Attaches a device to the node at a position of one of the topologies. -/
  | connect (topology : Nat) (device : String) (p : Position)

namespace Session

/-- The session after a builder was asked to generate its topology. -/
def build (s : Session) (b : Builder) : Session :=
  let (c, outcome) := b.buildInPlace s.config
  ⟨c, s.topologies ++ outcome.toOption.toList⟩

/-- The session after a device was asked to be attached. Without a topology of the number nothing is
asked. -/
def connect (s : Session) (k : Nat) (device : String) (p : Position) : Session :=
  match s.topologies[k]? with
  | none => s
  | some t =>
    match t.connect s.config device p with
    | .ok (c, t, _) => ⟨c, s.topologies.set k t⟩
    | .error _ => s

/-- The session after a call. -/
def step (s : Session) : Call → Session
  | .build b => s.build b
  | .connect k device p => s.connect k device p

/-- The session after a sequence of calls. -/
def run (s : Session) (calls : List Call) : Session :=
  calls.foldl step s

/-- What a call makes of a session: a topology is added, or a device is attached to one, or the call
fails and nothing has changed. -/
inductive Becomes (s : Session) (call : Call) : Session → Prop where
  | same : Becomes s call s
  | built {b : Builder} {c : Config} {t : Topology} (asked : call = .build b)
      (built : b.buildInPlace s.config = (c, .ok t)) : Becomes s call ⟨c, s.topologies ++ [t]⟩
  | connected {k : Nat} {device : String} {p : Position} {t t' : Topology} {c : Config}
      {x : Attachment} (asked : call = .connect k device p) (atK : s.topologies[k]? = some t)
      (connected : t.connect s.config device p = .ok (c, t', x)) :
      Becomes s call ⟨c, s.topologies.set k t'⟩

theorem becomes_step (s : Session) (call : Call) : s.Becomes call (s.step call) := by
  cases call with
  | build b =>
    rcases built : b.buildInPlace s.config with ⟨c, e | t⟩
    · have same : s.step (.build b) = s := by
        have left := (Builder.buildInPlace_eq_error_iff.mp built).1
        simp [step, build, built, Except.toOption, left]
      rw [same]
      exact .same
    · have after : s.step (.build b) = ⟨c, s.topologies ++ [t]⟩ := by
        simp [step, build, built, Except.toOption]
      rw [after]
      exact .built rfl built
  | connect k device p =>
    simp only [step, connect]
    split
    · exact .same
    · next t atK =>
      split
      · next connected => exact .connected rfl atK connected
      · exact .same

/-- The builder whose topology a call generates, unless the call fails. -/
def builder? (s : Session) : Call → Option Builder
  | .build b => (b.buildInPlace s.config).2.toOption.map fun _ => b
  | .connect _ _ _ => none

/-- The builders of all topologies that a sequence of calls generates. -/
def builders (s : Session) : List Call → List Builder
  | [] => []
  | call :: rest => (s.builder? call).toList ++ (s.step call).builders rest

/-- The builders of a shorter run are among those of a longer one. -/
theorem builders_take_sublist (s : Session) (calls : List Call) (k : Nat) :
    (s.builders (calls.take k)).Sublist (s.builders calls) := by
  induction calls generalizing s k with
  | nil => simp
  | cons call rest ih =>
    cases k with
    | zero => simp [builders]
    | succ k => exact (List.Sublist.refl _).append (ih (s.step call) k)

theorem builder?_eq_some_iff {s : Session} {call : Call} {b : Builder} :
    s.builder? call = some b ↔
      call = .build b ∧ ∃ c t, b.buildInPlace s.config = (c, .ok t) := by
  cases call with
  | connect k device p => simp [builder?]
  | build b' =>
    unfold builder?
    rcases built : b'.buildInPlace s.config with ⟨c, e | t⟩
    · simp only [built, Except.toOption, Option.map_none, reduceCtorEq, Call.build.injEq, false_iff,
        not_and, not_exists]
      rintro rfl c' t' other
      rw [built] at other
      cases other
    · simp only [built, Except.toOption, Option.map_some, Option.some.injEq, Call.build.injEq]
      constructor
      · rintro rfl
        exact ⟨rfl, c, t, built⟩
      · rintro ⟨rfl, _⟩
        rfl

/-- A call that generates no topology is a connect or a build that fails. -/
theorem builder?_eq_none_iff {s : Session} {call : Call} :
    s.builder? call = none ↔ ∀ b, call = .build b → ∃ c e, b.buildInPlace s.config = (c, .error e) := by
  cases call with
  | connect k device p => simp [builder?]
  | build b =>
    unfold builder?
    rcases built : b.buildInPlace s.config with ⟨c, e | t⟩
    · simp [Except.toOption, built]
    · simp [Except.toOption, built]

section Run

variable {c₀ : Config} {taken : List (UInt8 × Nat)} {s : Session}

/-- A call that generates no topology keeps the invariant. -/
theorem grown_step_of_none {call : Call} (h : Grown c₀ taken s.config) (room : LeavesRoom c₀)
    (none : s.builder? call = none) : Grown c₀ taken (s.step call).config := by
  have becomes := s.becomes_step call
  generalize s.step call = after at becomes ⊢
  cases becomes with
  | same => exact h
  | built asked built =>
    obtain ⟨c, e, failed⟩ := builder?_eq_none_iff.mp none _ asked
    rw [built] at failed
    cases failed
  | connected _ _ connected => exact h.connect room connected

/-- A run keeps the invariant if its topologies get new octets. The induction is on the calls; the
nodes of each generated topology become taken for the rest of the run. -/
theorem grown_run {calls : List Call} (h : Grown c₀ taken s.config) (room : LeavesRoom c₀)
    (octets : ((s.builders calls).map (·.systemIdOctet)).Nodup)
    (new : ∀ b ∈ s.builders calls, ∀ n ∈ taken, b.systemIdOctet ≠ some n.1)
    (other : ∀ b ∈ s.builders calls, ∀ octet, b.systemIdOctet = some octet →
      ∀ r ∈ c₀.routers, firstOctet? r.systemId ≠ some octet.toNat)
    (fits : ∀ b ∈ s.builders calls, PrefixesFit b.v4Routes b.v6Routes) :
    ∃ taken', Grown c₀ taken' (s.run calls).config := by
  induction calls generalizing s taken with
  | nil => exact ⟨taken, h⟩
  | cons call rest ih =>
    cases found : s.builder? call with
    | none =>
      have later : s.builders (call :: rest) = (s.step call).builders rest := by
        simp [builders, found]
      rw [later] at octets new other fits
      exact ih (grown_step_of_none h room found) octets new other fits
    | some b =>
      have first : s.builders (call :: rest) = b :: (s.step call).builders rest := by
        simp [builders, found]
      rw [first] at octets new other fits
      obtain ⟨once, others⟩ := List.nodup_cons.mp octets
      obtain ⟨rfl, c, t, built⟩ := builder?_eq_some_iff.mp found
      obtain ⟨octet, checked⟩ := Builder.exists_buildInPlace_iff.mp ⟨c, t, built⟩
      have set := (Builder.check_eq_ok_iff.mp checked).1
      obtain ⟨added, ofOctet, grown⟩ := h.build room built set
        (fun n member same => new b List.mem_cons_self n member (same ▸ set))
        (other b List.mem_cons_self octet set) (fits b List.mem_cons_self)
      have after : (s.step (.build b)).config = c := congrArg Prod.fst built
      refine ih (after ▸ grown) others ?_
        (fun b' member => other b' (List.mem_cons_of_mem _ member))
        (fun b' member => fits b' (List.mem_cons_of_mem _ member))
      intro b' member n hn
      rcases List.mem_append.mp hn with fresh | old
      · rw [ofOctet n fresh]
        intro same
        exact once (List.mem_map.mpr ⟨b', member, same.trans set.symm⟩)
      · exact new b' (List.mem_cons_of_mem _ member) n old

end Run

/-- The session of a configuration on which nothing was generated yet. -/
def start (c : Config) : Session :=
  { config := c }

/-- A configuration without violations has none after any number of builds and connects, whichever of
them succeed, if its names leave room for derived ones, the generated topologies have octets of their
own, and their routes have possible prefixes. -/
theorem run_keeps_validity (c₀ : Config) (calls : List Call) (valid : c₀.violations = [])
    (nodes : ∀ name ∈ c₀.objectNames, ¬ IsNodeLike name)
    (numbers : ∀ d ∈ c₀.devices, ∀ name ∈ c₀.objectNames, ¬ LooksNumbered d.name name)
    (octets : (((start c₀).builders calls).map (·.systemIdOctet)).Nodup)
    (other : ∀ b ∈ (start c₀).builders calls, ∀ octet, b.systemIdOctet = some octet →
      ∀ r ∈ c₀.routers, firstOctet? r.systemId ≠ some octet.toNat)
    (fits : ∀ b ∈ (start c₀).builders calls, PrefixesFit b.v4Routes b.v6Routes) (k : Nat) :
    ((start c₀).run (calls.take k)).config.violations = [] := by
  have shorter := (start c₀).builders_take_sublist calls k
  have begins : Grown c₀ [] (start c₀).config :=
    .start ((Config.violations_eq_nil_iff c₀).mp valid)
  have none : ∀ b ∈ (start c₀).builders (calls.take k), ∀ n ∈ ([] : List (UInt8 × Nat)),
      b.systemIdOctet ≠ some n.1 := by
    intro b _ n member
    cases member
  obtain ⟨taken, grown⟩ := grown_run begins ⟨nodes, numbers⟩ ((shorter.map _).nodup octets) none
    (fun b member => other b (shorter.subset member))
    (fun b member => fits b (shorter.subset member))
  exact (Config.violations_eq_nil_iff _).mpr grown.consistent

/-- A tester on one port that runs ISIS. -/
def testerConfig : Config where
  ports := [{ name := "p1" }]
  devices :=
    [{ name := "tester"
       ethernets :=
        [{ name := "tester.port", mac := "00:11:22:33:44:55", connection := some (.port "p1") }]
       isis := some { name := "tester.isis", systemId := "AA0000000001" } }]

/-- A grid of four routers. -/
def smallGrid : Builder where
  shape := .grid 2 2
  systemIdOctet := some 1
  addressing := { v4Octet := some 20 }

/-- A ring of three routers that advertise routes. -/
def smallRing : Builder where
  shape := .ring 3
  systemIdOctet := some 2
  addressing := { v6Group := some 0x20 }
  v6Routes := some {}

/-- A grid to which the tester is attached, a second grid with the names of the first one, and a ring
to which a node of the grid is attached. -/
def testerCalls : List Call :=
  [.build smallGrid, .connect 0 "tester" (.cell 1 1), .build smallGrid, .build smallRing,
    .connect 1 "T01d4.sim.1.1" (.station 2)]

theorem run_keeps_validity_of_tester :
    (start testerConfig).builders testerCalls = [smallGrid, smallRing] ∧
      ((start testerConfig).run (testerCalls.take 5)).config.violations = [] := by
  have built : (start testerConfig).builders testerCalls = [smallGrid, smallRing] := by
    decide +kernel
  refine ⟨built, run_keeps_validity testerConfig testerCalls (by decide) ?_ ?_ ?_ ?_ ?_ 5⟩
  · have heads : ∀ name ∈ testerConfig.objectNames, name.toList.head? ≠ some 'T' := by decide
    rintro name member ⟨high, low, rest, _, _, text⟩
    exact heads name member (by simp [text])
  · have seventh : ∀ name ∈ testerConfig.objectNames,
        name.toList[6]? ≠ some 'e' ∧ name.toList[6]? ≠ some 'I' := by decide
    rintro d hd name member ⟨word, hword, digit, rest, _, text⟩
    have device : d.name = "tester" := by
      rw [List.mem_singleton.mp hd]
    rw [device] at text
    obtain ⟨noE, noI⟩ := seventh name member
    rcases List.mem_cons.mp hword with rfl | hword
    · exact noE (by simp [text])
    · rw [List.mem_singleton.mp hword] at text
      exact noI (by simp [text])
  · rw [built]
    decide
  · rw [built]
    intro b member octet set r hr
    rw [List.mem_singleton.mp hr]
    have first : firstOctet? "AA0000000001" = some 170 := by decide
    rw [first]
    simp only [List.mem_cons, List.not_mem_nil, or_false] at member
    rcases member with rfl | rfl <;> cases set <;> decide
  · rw [built]
    intro b member
    simp only [List.mem_cons, List.not_mem_nil, or_false] at member
    rcases member with rfl | rfl
    · constructor <;> intro routes set <;> cases set
    · constructor
      · intro routes set
        cases set
      · intro routes set
        cases set
        decide

end Session

end IsisTestbed
