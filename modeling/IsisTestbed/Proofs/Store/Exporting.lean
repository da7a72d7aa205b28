import IsisTestbed.Proofs.Store.FreshPaths
import IsisTestbed.Proofs.Store.Writing

/-!
Exports under a prefix and a timestamp. The path of an export is the first numbered one at which there
is nothing, which a search without a bound finds too, and its extension is that of JSON. So a file
that is written there is new, and a store only ever gains files: each export of a consistent
configuration adds one at a place of its own, and other exports leave the store as it was.
-/

namespace IsisTestbed

/-- Whether a text is a timestamp: the digits of a date and a time in the form
`0000-00-00_00-00-00`. -/
def IsTimestamp (s : String) : Prop :=
  s.toList.map (fun c => if c.isDigit then '0' else c) = "0000-00-00_00-00-00".toList

instance (s : String) : Decidable (IsTimestamp s) :=
  inferInstanceAs (Decidable (_ = _))

theorem IsTimestamp.slash_not_mem {s : String} (h : IsTimestamp s) : '/' ∉ s.toList := by
  intro member
  have listed := List.mem_map_of_mem (f := fun c : Char => if c.isDigit then '0' else c) member
  rw [h] at listed
  exact absurd listed (by decide)

namespace FileStore

open IsisTestbed.Store

variable {s last : FileStore} {stem timestamp path : String} {c : Config}

/-! ### The format of numbered paths -/

/-- Behind a timestamp without slashes, the extension of a numbered path is that of JSON. -/
theorem ofPath_numberedPath (stem : String) (whole : '/' ∉ timestamp.toList) (n : Nat) :
    ConfigFormat.ofPath (numberedPath stem timestamp n) = .ok .json := by
  obtain ⟨parts, last, same⟩ := exists_steps_append stem
  -- The last name is the end of the prefix, the timestamp and the number.
  have text : numberedPath stem timestamp n =
      stem ++ String.ofList ('_' :: timestamp.toList ++ numberSuffix n) := by
    rw [numberedPath_eq]
    apply String.toList_inj.mp
    simp
  have long : 2 ≤ ('_' :: timestamp.toList ++ numberSuffix n).length := by
    rw [List.length_append]
    exact Nat.le_trans (two_le_length_numberSuffix n) (Nat.le_add_left _ _)
  have ending : last ++ ('_' :: timestamp.toList ++ numberSuffix n) =
      (last ++ '_' :: timestamp.toList ++ numberMark n) ++ ['.', 'j', 's', 'o', 'n'] := by
    simp [numberSuffix]
  have name := same ('_' :: timestamp.toList ++ numberSuffix n)
    (by simp [whole, slash_not_mem_numberSuffix]) long
  rw [ending, ← text] at name
  rw [ConfigFormat.ofPath, extension?_of_steps name, if_neg (by simp)]
  rfl

/-! ### The first free path -/

/-- The search for a free path without a bound: from the number `n` on, it ends with `path`. -/
inductive Searches (s : FileStore) (stem timestamp : String) : Nat → String → Prop where
  | free {n : Nat} (nothing : s.exists? (numberedPath stem timestamp n) = false) :
      Searches s stem timestamp n (numberedPath stem timestamp n)
  | taken {n : Nat} {path : String} (there : s.exists? (numberedPath stem timestamp n) = true)
      (later : Searches s stem timestamp (n + 1) path) : Searches s stem timestamp n path

theorem Searches.unique {n : Nat} {path path' : String} (h : s.Searches stem timestamp n path)
    (h' : s.Searches stem timestamp n path') : path = path' := by
  induction h with
  | free nothing =>
    cases h' with
    | free _ => rfl
    | taken there _ => cases nothing.symm.trans there
  | taken there later ih =>
    cases h' with
    | free nothing => cases nothing.symm.trans there
    | taken _ later' => exact ih later'

/-- All numbers before the one that is found were tried, and their paths are taken. -/
theorem exists?_of_lt_firstFree {n bound i : Nat} (tried : n ≤ i)
    (before : i < s.firstFree stem timestamp n bound) :
    s.exists? (numberedPath stem timestamp i) = true := by
  induction bound generalizing n with
  | zero => exact absurd before (Nat.not_lt.mpr tried)
  | succ bound ih =>
    rw [firstFree] at before
    by_cases there : s.exists? (numberedPath stem timestamp n) = true
    · rw [if_pos there] at before
      rcases Nat.eq_or_lt_of_le tried with rfl | later
      · exact there
      · exact ih later before
    · rw [if_neg there] at before
      exact absurd before (Nat.not_lt.mpr tried)

/-- Whether a number is the first one with a free path. -/
structure IsFirstFree (s : FileStore) (stem timestamp : String) (n : Nat) : Prop where
  free : s.exists? (numberedPath stem timestamp n) = false
  taken : ∀ i < n, s.exists? (numberedPath stem timestamp i) = true

theorem exists_isFirstFree (s : FileStore) (stem timestamp : String) :
    ∃ n, s.timestampedPath stem timestamp = numberedPath stem timestamp n ∧
      s.IsFirstFree stem timestamp n := by
  refine ⟨_, rfl, s.exists?_timestampedPath stem timestamp, fun i before => ?_⟩
  exact exists?_of_lt_firstFree (Nat.zero_le i) before

/-- The search comes to the first free number from any number before it. -/
theorem IsFirstFree.searches {n : Nat} (h : s.IsFirstFree stem timestamp n) (k : Nat) :
    ∀ i, i + k = n → s.Searches stem timestamp i (numberedPath stem timestamp n) := by
  induction k with
  | zero =>
    rintro i rfl
    exact .free h.free
  | succ k ih =>
    intro i sum
    exact .taken (h.taken i (by omega)) (ih (i + 1) (by omega))

/-- The search without a bound ends, and with the path that is found within the bound. -/
theorem searches_iff :
    s.Searches stem timestamp 0 path ↔ path = s.timestampedPath stem timestamp := by
  obtain ⟨n, chosen, first⟩ := s.exists_isFirstFree stem timestamp
  have found := chosen ▸ first.searches n 0 (Nat.zero_add n)
  constructor
  · exact fun other => other.unique found
  · rintro rfl
    exact found

/-! ### Stores that gain files -/

/-- Whether a store is another one with more files. -/
structure Extends (s last : FileStore) : Prop where
  files : ∃ more, last.files = s.files ++ more
  directories : last.directories = s.directories
  current : last.current = s.current

namespace Extends

theorem refl (s : FileStore) : s.Extends s :=
  ⟨⟨[], (List.append_nil _).symm⟩, rfl, rfl⟩

theorem trans {next : FileStore} (h : s.Extends next) (h' : next.Extends last) : s.Extends last := by
  obtain ⟨first, files⟩ := h.files
  obtain ⟨second, files'⟩ := h'.files
  exact ⟨⟨first ++ second, by rw [files', files, List.append_assoc]⟩,
    h'.directories.trans h.directories, h'.current.trans h.current⟩

variable {place : List String} {text : String}

/-- The content of a file stays. -/
theorem content? (h : s.Extends last) (held : s.content? place = some text) :
    last.content? place = some text := by
  obtain ⟨more, files⟩ := h.files
  rw [FileStore.content?, Option.map_eq_some_iff] at held ⊢
  obtain ⟨f, found, same⟩ := held
  exact ⟨f, by rw [files, List.find?_append, found]; rfl, same⟩

theorem hasDirectory (h : s.Extends last) (there : s.hasDirectory place = true) :
    last.hasDirectory place = true := by
  obtain ⟨more, files⟩ := h.files
  simp only [FileStore.hasDirectory, files, h.directories, List.any_append, Bool.or_eq_true]
    at there ⊢
  exact there.imp_right .inl

/-- A path leads where it led. -/
theorem place? (h : s.Extends last) (leads : s.place? path = some place) :
    last.place? path = some place := by
  have start : last.start path = s.start path := by
    rw [FileStore.start, FileStore.start, h.current]
  rw [FileStore.place?] at leads ⊢
  split at leads
  · next usable =>
    rw [if_pos usable, start]
    exact follow?_mono (fun _ => h.hasDirectory) leads
  · cases leads

/-- What there is at a path stays there. -/
theorem exists? (h : s.Extends last) (there : s.exists? path = true) : last.exists? path = true := by
  rw [FileStore.exists?] at there ⊢
  cases leads : s.place? path with
  | none =>
    rw [leads] at there
    cases there
  | some place =>
    rw [leads] at there
    rw [h.place? leads]
    simp only [Bool.or_eq_true, Bool.and_eq_true] at there ⊢
    refine there.imp (And.imp_left h.hasDirectory) (And.imp_left fun held => ?_)
    obtain ⟨text, held⟩ := Option.isSome_iff_exists.mp held
    rw [h.content? held]
    rfl

theorem read? (h : s.Extends last) (held : s.read? path = some text) :
    last.read? path = some text := by
  simp only [FileStore.read?, Option.bind_eq_bind, Option.bind_eq_some_iff] at held ⊢
  obtain ⟨place, leads, held⟩ := held
  refine ⟨place, h.place? leads, ?_⟩
  split at held
  · cases held
  · next isFile =>
    rw [if_neg isFile]
    exact h.content? held

end Extends

/-- A file that is written to a path at which there is nothing is put behind the others. -/
theorem eq_of_write? {text : String} (free : s.exists? path = false)
    (written : s.write? path text = some last) :
    ∃ place, s.place? path = some place ∧ s.content? place = none ∧ namesDirectory path = false ∧
      last = { s with files := s.files ++ [(place, text)] } := by
  simp only [write?, Option.bind_eq_bind, Option.bind_eq_some_iff] at written
  obtain ⟨place, leads, written⟩ := written
  split at written
  · cases written
  · next possible =>
    simp only [Bool.or_eq_true, not_or, Bool.not_eq_true] at possible
    have nothing : s.content? place = none := by
      simp only [exists?, leads, possible.1.1, Bool.not_false, Bool.and_true, Bool.or_eq_false_iff]
        at free
      simpa using free.2
    refine ⟨place, leads, nothing, possible.1.1, ?_⟩
    rw [put, nothing] at written
    exact (Option.some.inj written).symm

/-! ### One export -/

theorem exportTimestamped_of_invalid (invalid : c.violations ≠ []) :
    s.exportTimestamped stem timestamp c = .error (.invalid c.violations) := by
  rw [exportTimestamped_eq, (exportConfig_of_invalid invalid).2]
  rfl

/-- A consistent configuration is exported as its JSON text, if that can be written. -/
theorem exportTimestamped_of_valid (whole : '/' ∉ timestamp.toList) (valid : c.violations = []) :
    s.exportTimestamped stem timestamp c =
      match s.write? (s.timestampedPath stem timestamp) c.toJson with
      | some last => .ok (last, s.timestampedPath stem timestamp)
      | none => .error .file := by
  have format : ConfigFormat.ofPath (s.timestampedPath stem timestamp) = .ok .json :=
    ofPath_numberedPath stem whole _
  rw [exportTimestamped_eq, (exportConfig_of_valid valid).2, writeConfig, writeConfigInPlace, format]
  simp only [configText]
  cases s.write? (s.timestampedPath stem timestamp) c.toJson <;> rfl

/-! ### Exports in turn -/

/-- The store after configurations were exported in turn, all with the same prefix and timestamp, and
what each call returned. Each call starts with what the one before it has left behind. -/
def exportEach (s : FileStore) (stem timestamp : String) :
    List Config → FileStore × List (Except ConfigError String)
  | [] => (s, [])
  | c :: rest =>
    let (next, result) := s.exportTimestampedInPlace stem timestamp c
    let (last, results) := next.exportEach stem timestamp rest
    (last, result :: results)

/-- What a call returns, seen from the store before and after all calls. -/
inductive Answers (s last : FileStore) (c : Config) : Except ConfigError String → Prop where
  /-- The configuration was written to a path at which there was nothing, and is there since. -/
  | written {path : String} (valid : c.violations = []) (free : s.exists? path = false)
      (held : last.read? path = some c.toJson) : Answers s last c (.ok path)
  | refused (invalid : c.violations ≠ []) : Answers s last c (.error (.invalid c.violations))

/-- What the store held before it held with fewer files. -/
theorem Answers.earlier {next : FileStore} {r : Except ConfigError String}
    (h : next.Answers last c r) (more : s.Extends next) : s.Answers last c r := by
  cases h with
  | written valid free held =>
    refine .written valid (Bool.eq_false_iff.mpr fun there => ?_) held
    cases free.symm.trans (more.exists? there)
  | refused invalid => exact .refused invalid

/-- Whether a store is left behind by exports of configurations: each consistent one has a new file of
its own, and apart from these files nothing has changed. -/
structure Exported (s : FileStore) (cs : List Config) (results : List (Except ConfigError String))
    (last : FileStore) : Prop where
  answers : List.Forall₂ (Answers s last) cs results
  files : ∃ places, (results.filterMap Except.toOption).mapM last.place? = some places ∧
    places.Nodup ∧ (∀ place ∈ places, s.content? place = none) ∧
    last.files = s.files ++
      places.zip ((cs.filter fun c => c.violations.isEmpty).map Config.toJson)
  directories : last.directories = s.directories
  current : last.current = s.current

namespace Exported

variable {next : FileStore} {cs : List Config} {results : List (Except ConfigError String)}

theorem extends_ (h : s.Exported cs results last) : s.Extends last := by
  obtain ⟨places, _, _, _, files⟩ := h.files
  exact ⟨⟨_, files⟩, h.directories, h.current⟩

theorem nil (s : FileStore) : s.Exported [] [] s :=
  ⟨.nil, ⟨[], rfl, .nil, by simp, by simp⟩, rfl, rfl⟩

/-- An inconsistent configuration in front of others makes no difference. -/
theorem refused (h : s.Exported cs results last) (invalid : c.violations ≠ []) :
    s.Exported (c :: cs) (.error (.invalid c.violations) :: results) last := by
  have skipped : c.violations.isEmpty = false := by simpa using invalid
  obtain ⟨places, leads, distinct, free, files⟩ := h.files
  refine ⟨.cons (.refused invalid) h.answers, ⟨places, leads, distinct, free, ?_⟩, h.directories,
    h.current⟩
  rw [files, List.filter_cons_of_neg (by simp [skipped])]

/-- A consistent configuration that is written in front of others has a file in front of theirs. -/
theorem written (h : next.Exported cs results last) (valid : c.violations = [])
    (free : s.exists? path = false) (put : s.write? path c.toJson = some next) :
    s.Exported (c :: cs) (.ok path :: results) last := by
  have kept : c.violations.isEmpty = true := by simpa using valid
  obtain ⟨place, leads, nothing, _, appended⟩ := eq_of_write? free put
  have first : s.Extends next :=
    ⟨⟨[(place, c.toJson)], by rw [appended]⟩, by rw [appended], by rw [appended]⟩
  have there : next.content? place = some c.toJson := by
    rw [FileStore.content?, Option.map_eq_none_iff] at nothing
    rw [FileStore.content?, appended, List.find?_append, nothing]
    simp
  obtain ⟨places, lead, distinct, new, files⟩ := h.files
  have answers : List.Forall₂ (s.Answers last) cs results :=
    h.answers.imp fun _ _ answer => answer.earlier first
  have held : last.read? path = some c.toJson := h.extends_.read? (wrote_of_write? put).read
  refine ⟨.cons (.written valid free held) answers, ⟨place :: places, ?_, ?_, ?_, ?_⟩, ?_, ?_⟩
  · have leads' : last.place? path = some place := (first.trans h.extends_).place? leads
    rw [List.filterMap_cons_some (by rfl : Except.toOption _ = some path), List.mapM_cons, leads',
      lead]
    rfl
  · refine List.nodup_cons.mpr ⟨fun later => ?_, distinct⟩
    cases there.symm.trans (new place later)
  · intro other member
    rcases List.mem_cons.mp member with rfl | later
    · exact nothing
    · refine Option.eq_none_iff_forall_ne_some.mpr fun text before => ?_
      cases (first.content? before).symm.trans (new other later)
  · have consistent : ((c :: cs).filter fun c => c.violations.isEmpty) =
        c :: cs.filter fun c => c.violations.isEmpty := List.filter_cons_of_pos kept
    rw [files, appended, consistent, List.map_cons, List.zip_cons_cons, List.append_assoc,
      List.singleton_append]
  · rw [h.directories, first.directories]
  · rw [h.current, first.current]

end Exported

/-- Exports in turn, if no write fails. -/
theorem exported_exportEach (whole : '/' ∉ timestamp.toList) (cs : List Config) :
    ∀ s : FileStore, (∀ r ∈ (s.exportEach stem timestamp cs).2, r ≠ .error .file) →
      s.Exported cs (s.exportEach stem timestamp cs).2 (s.exportEach stem timestamp cs).1 := by
  induction cs with
  | nil => exact fun s _ => .nil s
  | cons c cs ih =>
    intro s accepted
    rcases called : s.exportTimestampedInPlace stem timestamp c with ⟨next, result⟩
    rw [exportEach, called] at accepted ⊢
    have later := ih next fun r member => accepted r (List.mem_cons_of_mem _ member)
    have answer : result ≠ .error .file := accepted result List.mem_cons_self
    cases result with
    | error e =>
      obtain ⟨rfl, failed⟩ := exportTimestampedInPlace_eq_error_iff.mp called
      by_cases valid : c.violations = []
      · rw [exportTimestamped_of_valid whole valid] at failed
        split at failed
        · cases failed
        · cases failed
          exact absurd rfl answer
      · rw [exportTimestamped_of_invalid valid] at failed
        cases failed
        exact later.refused valid
    | ok path =>
      have done := exportTimestampedInPlace_eq_ok_iff.mp called
      obtain ⟨exported, rfl⟩ := exportTimestamped_eq_ok_iff.mp done
      obtain ⟨valid, _⟩ := exportConfig_eq_ok_iff.mp exported
      rw [exportTimestamped_of_valid whole valid] at done
      split at done
      · next put =>
        cases done
        exact later.written valid (s.exists?_timestampedPath stem timestamp) put
      · cases done

/-- The path without a number is chosen if it is free, else the one with the least free number. -/
theorem timestampedPath_spec (s : FileStore) (stem timestamp : String) :
    (s.exists? (stem ++ "_" ++ timestamp ++ ".json") = false →
      s.timestampedPath stem timestamp = stem ++ "_" ++ timestamp ++ ".json") ∧
    (s.exists? (stem ++ "_" ++ timestamp ++ ".json") = true → ∃ k, 1 ≤ k ∧
      s.timestampedPath stem timestamp =
        stem ++ "_" ++ timestamp ++ "_" ++ Text.number k ++ ".json" ∧
      s.exists? (stem ++ "_" ++ timestamp ++ "_" ++ Text.number k ++ ".json") = false ∧
      ∀ i, 1 ≤ i → i < k →
        s.exists? (stem ++ "_" ++ timestamp ++ "_" ++ Text.number i ++ ".json") = true) := by
  have plain : numberedPath stem timestamp 0 = stem ++ "_" ++ timestamp ++ ".json" := if_pos rfl
  have numbered : ∀ i, 1 ≤ i → numberedPath stem timestamp i =
      stem ++ "_" ++ timestamp ++ "_" ++ Text.number i ++ ".json" :=
    fun i positive => if_neg (Nat.ne_of_gt positive)
  obtain ⟨n, chosen, first⟩ := s.exists_isFirstFree stem timestamp
  rw [← plain, chosen]
  constructor
  · intro free
    rcases Nat.eq_zero_or_pos n with rfl | positive
    · rfl
    · cases free.symm.trans (first.taken 0 positive)
  · intro there
    have positive : 1 ≤ n := by
      rcases Nat.eq_zero_or_pos n with rfl | positive
      · cases first.free.symm.trans there
      · exact positive
    refine ⟨n, positive, numbered n positive, numbered n positive ▸ first.free, ?_⟩
    intro i positive' before
    exact numbered i positive' ▸ first.taken i before

/-- Exports under a timestamp never overwrite. The search for a free path ends, whatever the store
holds: with the path without a number if that is free, else with the one of the least free number, and
always with a path of JSON files. An inconsistent configuration is refused with its violations, a
consistent one is written to the path that was found, and an export that fails leaves the store as it
was. So if no write fails, any number of exports in turn create as many different new files as there
are consistent configurations, and change no other. -/
theorem exports_never_overwrite (s : FileStore) (stem timestamp : String)
    (dated : IsTimestamp timestamp) :
    (∀ path, s.Searches stem timestamp 0 path ↔ path = s.timestampedPath stem timestamp) ∧
    (s.exists? (stem ++ "_" ++ timestamp ++ ".json") = false →
      s.timestampedPath stem timestamp = stem ++ "_" ++ timestamp ++ ".json") ∧
    (s.exists? (stem ++ "_" ++ timestamp ++ ".json") = true → ∃ k, 1 ≤ k ∧
      s.timestampedPath stem timestamp =
        stem ++ "_" ++ timestamp ++ "_" ++ Text.number k ++ ".json" ∧
      s.exists? (stem ++ "_" ++ timestamp ++ "_" ++ Text.number k ++ ".json") = false ∧
      ∀ i, 1 ≤ i → i < k →
        s.exists? (stem ++ "_" ++ timestamp ++ "_" ++ Text.number i ++ ".json") = true) ∧
    ConfigFormat.ofPath (s.timestampedPath stem timestamp) = .ok .json ∧
    (∀ c : Config, c.violations ≠ [] →
      s.exportTimestamped stem timestamp c = .error (.invalid c.violations)) ∧
    (∀ c : Config, c.violations = [] →
      ∀ last, s.write? (s.timestampedPath stem timestamp) c.toJson = some last →
        s.exportTimestamped stem timestamp c = .ok (last, s.timestampedPath stem timestamp)) ∧
    (∀ (c : Config) last e, s.exportTimestampedInPlace stem timestamp c = (last, .error e) ↔
      last = s ∧ s.exportTimestamped stem timestamp c = .error e) ∧
    (∀ (c : Config) last path, s.exportTimestampedInPlace stem timestamp c = (last, .ok path) ↔
      s.exportTimestamped stem timestamp c = .ok (last, path)) ∧
    ∀ cs : List Config, (∀ r ∈ (s.exportEach stem timestamp cs).2, r ≠ .error .file) →
      s.Exported cs (s.exportEach stem timestamp cs).2 (s.exportEach stem timestamp cs).1 := by
  have whole := dated.slash_not_mem
  obtain ⟨plain, numbered⟩ := s.timestampedPath_spec stem timestamp
  refine ⟨fun _ => searches_iff, plain, numbered, ofPath_numberedPath stem whole _,
    fun _ => exportTimestamped_of_invalid, ?_, fun _ _ _ => exportTimestampedInPlace_eq_error_iff,
    fun _ _ _ => exportTimestampedInPlace_eq_ok_iff, fun cs => exported_exportEach whole cs s⟩
  intro c valid last put
  rw [exportTimestamped_of_valid whole valid, put]

/-- A store with two exports, of which the one between them was removed. -/
def gappedExports : FileStore where
  files := [(["results", "grid_2023-01-01_00-00-00.json"], "first"),
    (["results", "grid_2023-01-01_00-00-00_2.json"], "third")]

/-- Two empty configurations, and between them one that has two ports with one name. -/
def exportedInTurn : List Config :=
  [{}, { ports := [{ name := "p" }, { name := "p" }] }, {}]

/-- The two consistent configurations go to the free numbers, the other one is refused. -/
theorem exports_never_overwrite_gapped :
    IsTimestamp "2023-01-01_00-00-00" ∧
    (gappedExports.exportEach "results/grid" "2023-01-01_00-00-00" exportedInTurn).2 =
      [.ok "results/grid_2023-01-01_00-00-00_1.json",
        .error (.invalid [.duplicateName "p" .port .port]),
        .ok "results/grid_2023-01-01_00-00-00_3.json"] ∧
    gappedExports.Exported exportedInTurn
      (gappedExports.exportEach "results/grid" "2023-01-01_00-00-00" exportedInTurn).2
      (gappedExports.exportEach "results/grid" "2023-01-01_00-00-00" exportedInTurn).1 := by
  have dated : IsTimestamp "2023-01-01_00-00-00" := by decide +kernel
  obtain ⟨_, _, _, _, _, _, _, _, run⟩ :=
    exports_never_overwrite gappedExports "results/grid" "2023-01-01_00-00-00" dated
  refine ⟨dated, by decide +kernel, run exportedInTurn (by decide +kernel)⟩

end FileStore

end IsisTestbed
