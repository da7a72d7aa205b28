import IsisTestbed.Proofs.Config.Lookup
import IsisTestbed.Proofs.Config.YamlRoundTrip
import IsisTestbed.Store.Files

/-!
What writing a file leaves. A write changes the content at the place where its path leads and nothing
else. Directories only appear, so the path still leads to that place, and reading it gives back what
was written; in particular a configuration in the format of the path's extension.
-/

namespace IsisTestbed.FileStore

variable {s s' : FileStore} {place other rest steps : List String} {path content : String}

/-! ### Putting a file -/

/-- The places with a file are as before, with the new one. -/
theorem places_put (s : FileStore) (place : List String) (content : String) :
    (s.put place content).files.map (·.1) =
      if (s.content? place).isSome then s.files.map (·.1) else s.files.map (·.1) ++ [place] := by
  unfold put
  by_cases old : (s.content? place).isSome
  · rw [if_pos old, if_pos old, List.map_map]
    apply List.map_congr_left
    intro f _
    by_cases same : f.1 = place
    · simp [same]
    · simp [same]
  · rw [if_neg old, if_neg old, List.map_append, List.map_singleton]

theorem place_of_find? {files : List (List String × String)} {f : List String × String}
    (h : files.find? (fun f => f.1 == place) = some f) : f.1 = place := by
  simpa using List.find?_some h

theorem content?_put (s : FileStore) (place other : List String) (content : String) :
    (s.put place content).content? other =
      if other = place then some content else s.content? other := by
  unfold put
  by_cases old : (s.content? place).isSome
  · rw [if_pos old]
    -- Each entry keeps its place, so the same one is found.
    have found : ((fun f : List String × String => f.1 == other) ∘
        fun f => if f.1 == place then (place, content) else f) = fun f => f.1 == other := by
      funext f
      by_cases same : f.1 = place
      · simp [same]
      · simp [same]
    simp only [content?, List.find?_map, found]
    simp only [content?, Option.isSome_map] at old
    by_cases same : other = place
    · subst same
      obtain ⟨f, hf⟩ := Option.isSome_iff_exists.mp old
      simp [hf, place_of_find? hf]
    · rw [if_neg same]
      cases hf : s.files.find? fun f => f.1 == other with
      | none => rfl
      | some f =>
        simp [place_of_find? hf, same]
  · rw [if_neg old]
    simp only [content?, List.find?_append]
    by_cases same : other = place
    · subst same
      have free : s.files.find? (fun f => f.1 == other) = none := by
        rw [content?, Option.isSome_map, Option.not_isSome_iff_eq_none] at old
        exact old
      simp [free]
    · have unlike : (place == other) = false := beq_false_of_ne fun h => same h.symm
      simp [unlike, same]

/-- Directories stay. -/
theorem hasDirectory_put (h : s.hasDirectory steps = true) :
    (s.put place content).hasDirectory steps = true := by
  have listed : (s.put place content).directories = s.directories := by
    unfold put
    split <;> rfl
  have kept : ∀ p ∈ s.files.map (·.1), p ∈ (s.put place content).files.map (·.1) := by
    intro p member
    rw [places_put]
    split
    · exact member
    · exact List.mem_append_left _ member
  simp only [hasDirectory, Bool.or_eq_true, listed] at h ⊢
  rcases h with h | above
  · exact .inl h
  · obtain ⟨f, member, isAbove⟩ := List.any_eq_true.mp above
    obtain ⟨f', member', same⟩ := List.mem_map.mp (kept f.1 (List.mem_map_of_mem member))
    refine .inr (List.any_eq_true.mpr ⟨f', member', ?_⟩)
    rw [same]
    exact isAbove

/-! ### Following paths -/

/-- Where a path leads depends on directories that exist, so more of them make no difference. -/
theorem follow?_mono (more : ∀ steps, s.hasDirectory steps = true → s'.hasDirectory steps = true)
    {last : List String} (h : s.follow? place rest = some last) :
    s'.follow? place rest = some last := by
  induction place, rest using follow?.induct s with
  | case1 place =>
    rw [follow?] at h ⊢
    exact h
  | case2 place rest blocked =>
    rw [follow?, if_pos blocked] at h
    cases h
  | case3 place rest clear ih =>
    rw [follow?, if_neg clear] at h
    simp only [Bool.or_eq_true, not_or, Bool.not_eq_true', Bool.not_eq_false] at clear
    rw [follow?, if_neg (by simp [clear.1, more place clear.2])]
    exact ih h
  | case4 place step rest down ih =>
    rw [follow?.eq_3 _ _ _ _ down] at h ⊢
    exact ih h

theorem place?_put (h : s.place? path = some other) :
    (s.put place content).place? path = some other := by
  have start : (s.put place content).start path = s.start path := by
    unfold put
    split <;> rfl
  unfold place? at h ⊢
  split
  · rename_i usable
    rw [if_pos usable] at h
    rw [start]
    exact follow?_mono (fun _ => hasDirectory_put) h
  · rename_i unusable
    rw [if_neg unusable] at h
    exact h

/-! ### Writing -/

/-- The store after a write to a path: the content is read from there, and no other place has
changed. -/
structure Wrote (s : FileStore) (path content : String) (s' : FileStore) : Prop where
  read : s'.read? path = some content
  others : ∃ place, s.place? path = some place ∧
    ∀ other, other ≠ place → s'.content? other = s.content? other
  directories : s'.directories = s.directories
  current : s'.current = s.current

theorem wrote_of_write? (h : s.write? path content = some s') : s.Wrote path content s' := by
  simp only [write?, Option.bind_eq_bind, Option.bind_eq_some_iff] at h
  obtain ⟨place, leads, written⟩ := h
  split at written
  · cases written
  · rename_i possible
    cases written
    simp only [Bool.or_eq_true, not_or, Bool.not_eq_true] at possible
    refine ⟨?_, ⟨place, leads, ?_⟩, ?_, ?_⟩
    · simp [read?, place?_put leads, possible.1.1, content?_put]
    · intro other apart
      rw [content?_put, if_neg apart]
    · unfold put
      split <;> rfl
    · unfold put
      split <;> rfl

/-! ### Exporting configurations -/

variable {c : Config} {format : ConfigFormat} {e : ConfigError}

theorem validate_eq_ok_iff {u : Unit} : c.validate = .ok u ↔ c.violations = [] := by
  unfold Config.validate
  split <;> simp_all

theorem writeConfig_eq_ok_iff : s.writeConfig path c = .ok s' ↔
    ∃ format, ConfigFormat.ofPath path = .ok format ∧
      s.write? path (configText format c) = some s' := by
  unfold writeConfig writeConfigInPlace
  cases ConfigFormat.ofPath path with
  | error e => simp [Except.map]
  | ok format =>
    cases written : s.write? path (configText format c) <;> simp [Except.map, written]

/-- A configuration that cannot be written leaves the store as it was. -/
theorem writeConfigInPlace_eq_error_iff : s.writeConfigInPlace path c = (s', .error e) ↔
    s' = s ∧ s.writeConfig path c = .error e := by
  unfold writeConfig writeConfigInPlace
  cases ConfigFormat.ofPath path with
  | error e => simp [Except.map, eq_comm]
  | ok format =>
    cases written : s.write? path (configText format c) <;> simp [Except.map, written, eq_comm]

theorem exportConfig_of_valid (valid : c.violations = []) :
    s.exportConfigInPlace path c = s.writeConfigInPlace path c ∧
      s.exportConfig path c = s.writeConfig path c := by
  have passes : c.validate = .ok () := validate_eq_ok_iff.mpr valid
  have same : s.exportConfigInPlace path c = s.writeConfigInPlace path c := by
    rw [exportConfigInPlace, passes]
  exact ⟨same, by rw [exportConfig, same, writeConfig]⟩

theorem exportConfig_of_invalid (invalid : c.violations ≠ []) :
    s.exportConfigInPlace path c = (s, .error (.invalid c.violations)) ∧
      s.exportConfig path c = .error (.invalid c.violations) := by
  have refused : c.validate = .error (.invalid c.violations) := by
    unfold Config.validate
    split
    · contradiction
    · rfl
  have same : s.exportConfigInPlace path c = (s, .error (.invalid c.violations)) := by
    rw [exportConfigInPlace, refused]
  exact ⟨same, by rw [exportConfig, same]; rfl⟩

theorem exportConfig_eq_ok_iff : s.exportConfig path c = .ok s' ↔ c.violations = [] ∧
    ∃ format, ConfigFormat.ofPath path = .ok format ∧
      s.write? path (configText format c) = some s' := by
  by_cases valid : c.violations = []
  · rw [(exportConfig_of_valid valid).2, writeConfig_eq_ok_iff, and_iff_right valid]
  · simp [(exportConfig_of_invalid valid).2, valid]

theorem exportConfigInPlace_eq_ok_iff {u : Unit} :
    s.exportConfigInPlace path c = (s', .ok u) ↔ s.exportConfig path c = .ok s' := by
  unfold exportConfig
  rcases s.exportConfigInPlace path c with ⟨last, _ | _⟩ <;> simp [Except.map]

/-- An export that fails leaves the store as it was: the configuration is checked first, and written
all at once. -/
theorem exportConfigInPlace_eq_error_iff : s.exportConfigInPlace path c = (s', .error e) ↔
    s' = s ∧ s.exportConfig path c = .error e := by
  by_cases valid : c.violations = []
  · rw [(exportConfig_of_valid valid).1, (exportConfig_of_valid valid).2,
      writeConfigInPlace_eq_error_iff]
  · rw [(exportConfig_of_invalid valid).1, (exportConfig_of_invalid valid).2]
    simp [eq_comm]

/-- Whether a configuration can be written to a path: its extension tells a format, and a file can
be written there. -/
def AcceptsConfig (s : FileStore) (path : String) (c : Config) : Prop :=
  ∃ format, ConfigFormat.ofPath path = .ok format ∧
    (s.write? path (configText format c)).isSome = true

theorem exists_exportConfig_iff :
    (∃ s', s.exportConfig path c = .ok s') ↔ c.violations = [] ∧ s.AcceptsConfig path c := by
  simp only [exportConfig_eq_ok_iff, AcceptsConfig, Option.isSome_iff_exists]
  constructor
  · rintro ⟨s', valid, format, known, written⟩
    exact ⟨valid, format, known, s', written⟩
  · rintro ⟨valid, format, known, s', written⟩
    exact ⟨s', valid, format, known, written⟩

section Timestamped

variable {stem timestamp : String}

/-- A timestamped export is one to the path that was found. -/
theorem exportTimestamped_eq (s : FileStore) (stem timestamp : String) (c : Config) :
    s.exportTimestamped stem timestamp c =
      (s.exportConfig (s.timestampedPath stem timestamp) c).map
        fun last => (last, s.timestampedPath stem timestamp) := by
  simp only [exportTimestamped, exportTimestampedInPlace, exportConfig]
  generalize s.exportConfigInPlace (s.timestampedPath stem timestamp) c = called
  obtain ⟨last, _ | _⟩ := called <;> rfl

theorem exportTimestamped_eq_ok_iff : s.exportTimestamped stem timestamp c = .ok (s', path) ↔
    s.exportConfig (s.timestampedPath stem timestamp) c = .ok s' ∧
      path = s.timestampedPath stem timestamp := by
  rw [exportTimestamped_eq]
  cases s.exportConfig (s.timestampedPath stem timestamp) c <;> simp [Except.map, eq_comm]

theorem exportTimestamped_eq_error_iff : s.exportTimestamped stem timestamp c = .error e ↔
    s.exportConfig (s.timestampedPath stem timestamp) c = .error e := by
  rw [exportTimestamped_eq]
  cases s.exportConfig (s.timestampedPath stem timestamp) c <;> simp [Except.map]

theorem exportTimestampedInPlace_eq_ok_iff :
    s.exportTimestampedInPlace stem timestamp c = (s', .ok path) ↔
      s.exportTimestamped stem timestamp c = .ok (s', path) := by
  unfold exportTimestamped
  rcases s.exportTimestampedInPlace stem timestamp c with ⟨last, _ | _⟩ <;> simp [Except.map]

theorem exportTimestampedInPlace_eq_error_iff :
    s.exportTimestampedInPlace stem timestamp c = (s', .error e) ↔
      s' = s ∧ s.exportTimestamped stem timestamp c = .error e := by
  rw [exportTimestamped_eq_error_iff, ← exportConfigInPlace_eq_error_iff]
  simp only [exportTimestampedInPlace]
  generalize s.exportConfigInPlace (s.timestampedPath stem timestamp) c = called
  obtain ⟨last, _ | _⟩ := called <;> simp [Except.map]

end Timestamped

/-- A file with the text of a configuration in the format of its extension is read as that
configuration. -/
theorem readConfig_of_read? (h : ∀ f ∈ c.flows, ∀ share, f.rate ≠ some (.percentage share))
    (known : ConfigFormat.ofPath path = .ok format)
    (read : s.read? path = some (configText format c)) : s.readConfig path = .ok c := by
  simp only [readConfig, known, ok_bind, read]
  cases format with
  | json => exact Config.read_toJson h
  | yaml => exact Config.read_toYaml h

end IsisTestbed.FileStore
