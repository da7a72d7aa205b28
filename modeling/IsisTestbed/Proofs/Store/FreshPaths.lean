import IsisTestbed.Proofs.Text.Digits
import IsisTestbed.Store.Files
import Mathlib.Data.List.Infix
import Mathlib.Data.List.Nodup
import Mathlib.Data.List.Perm.Subperm

/-!
Paths for new files. Different numbers give paths to different places in one directory, all of them
with the extension of JSON files. A store has fewer places that are taken than there are numbers to
try, so the path that is chosen in the end is free.
-/

namespace IsisTestbed.Store

/-! ### Paths that differ in their ends -/

theorem splitSlashes_of_not_mem {cs : List Char} (h : '/' ∉ cs) : splitSlashes cs = [cs] := by
  induction cs with
  | nil => rfl
  | cons c rest ih =>
    have apart : c ≠ '/' := fun same => h (same ▸ List.mem_cons_self)
    rw [splitSlashes.eq_3 _ _ apart, ih fun later => h (List.mem_cons_of_mem c later)]

/-- What has no slashes only prolongs the last part of a path. -/
theorem exists_splitSlashes_append (front : List Char) :
    ∃ parts last, ∀ rest, '/' ∉ rest → splitSlashes (front ++ rest) = parts ++ [last ++ rest] := by
  induction front with
  | nil => exact ⟨[], [], fun rest h => splitSlashes_of_not_mem h⟩
  | cons c front ih =>
    obtain ⟨parts, last, same⟩ := ih
    by_cases slash : c = '/'
    · refine ⟨[] :: parts, last, fun rest h => ?_⟩
      rw [slash, List.cons_append, splitSlashes, same rest h, List.cons_append]
    · cases parts with
      | nil =>
        refine ⟨[], c :: last, fun rest h => ?_⟩
        rw [List.cons_append, splitSlashes.eq_3 _ _ slash, same rest h]
        rfl
      | cons part parts =>
        refine ⟨(c :: part) :: parts, last, fun rest h => ?_⟩
        rw [List.cons_append, splitSlashes.eq_3 _ _ slash, same rest h]
        rfl

/-- The same for the steps, if the last part cannot become a dot. -/
theorem exists_steps_append (front : String) :
    ∃ parts last, ∀ rest : List Char, '/' ∉ rest → 2 ≤ rest.length →
      steps (front ++ String.ofList rest) = parts ++ [String.ofList (last ++ rest)] := by
  obtain ⟨parts, last, same⟩ := exists_splitSlashes_append front.toList
  refine ⟨(parts.filter fun part => part != [] && part != ['.']).map String.ofList, last, ?_⟩
  intro rest h long
  have stays : (last ++ rest != [] && last ++ rest != ['.']) = true := by
    have length : (last ++ rest).length = last.length + rest.length := List.length_append
    have notEmpty : last ++ rest ≠ [] := by
      intro empty
      rw [empty] at length
      simp only [List.length_nil] at length
      omega
    have notDot : last ++ rest ≠ ['.'] := by
      intro dot
      rw [dot] at length
      simp only [List.length_singleton] at length
      omega
    simp only [bne_iff_ne, Bool.and_eq_true]
    exact ⟨notEmpty, notDot⟩
  rw [steps, String.toList_append, String.toList_ofList, same rest h, List.filter_append,
    List.filter_singleton, stays, List.map_append]
  rfl

/-! ### Extensions -/

theorem extensionOf?_json (name : List Char) :
    extensionOf? (name ++ ['.', 'j', 's', 'o', 'n']) =
      if name = [] then none else some ['j', 's', 'o', 'n'] := by
  have behind : ((name ++ ['.', 'j', 's', 'o', 'n']).reverse.takeWhile (· ≠ '.')).reverse =
      ['j', 's', 'o', 'n'] := by
    rw [List.reverse_append]
    rfl
  rw [extensionOf?, behind, List.length_append]
  cases name with
  | nil => rfl
  | cons c rest =>
    have long : ¬ (c :: rest).length + 5 - 4 ≤ 1 := by
      rw [List.length_cons]
      omega
    exact if_neg long

/-- The extension of a path that leads to a name with the ending of JSON files. -/
theorem extension?_of_steps {path : String} {parts : List String} {name : List Char}
    (h : steps path = parts ++ [String.ofList (name ++ ['.', 'j', 's', 'o', 'n'])]) :
    extension? path = if name = [] then none else some "json" := by
  have down : String.ofList (name ++ ['.', 'j', 's', 'o', 'n']) ≠ ".." := by
    intro upwards
    have ends := congrArg (fun text : String => text.toList.getLast?) upwards
    simp at ends
  rw [extension?, fileName?, h, List.getLast?_concat, Option.filter_some,
    if_pos (by simpa using down), Option.bind_some, String.toList_ofList, extensionOf?_json]
  split
  · rfl
  · rfl

end IsisTestbed.Store

namespace IsisTestbed.FileStore

open IsisTestbed.Store

variable {s : FileStore} {stem timestamp : String} {place : List String}

/-! ### Numbered paths -/

/-- What a number adds to the name of a file. -/
def numberMark (n : Nat) : List Char :=
  if n = 0 then [] else '_' :: Text.decimal n

/-- What a number adds to a path, and the extension. -/
def numberSuffix (n : Nat) : List Char :=
  numberMark n ++ ['.', 'j', 's', 'o', 'n']

theorem numberedPath_eq (stem timestamp : String) (n : Nat) :
    numberedPath stem timestamp n = stem ++ "_" ++ timestamp ++ String.ofList (numberSuffix n) := by
  unfold numberedPath numberSuffix numberMark
  apply String.toList_inj.mp
  split
  · simp
  · simp

theorem numberSuffix_injective {m n : Nat} (h : numberSuffix m = numberSuffix n) : m = n := by
  have fronts : numberMark m = numberMark n := List.append_cancel_right h
  unfold numberMark at fronts
  split at fronts <;> split at fronts
  · omega
  · cases fronts
  · cases fronts
  · exact Text.decimal_injective (List.cons.inj fronts).2

theorem slash_not_mem_numberSuffix (n : Nat) : '/' ∉ numberSuffix n := by
  unfold numberSuffix numberMark
  have digits : '/' ∉ Text.decimal n := by
    intro member
    exact absurd (Text.isDigit_of_mem_decimal member) (by decide)
  split <;> simp [digits]

theorem two_le_length_numberSuffix (n : Nat) : 2 ≤ (numberSuffix n).length := by
  unfold numberSuffix
  rw [List.length_append]
  exact Nat.le_trans (by decide) (Nat.le_add_left 5 _)

theorem exists_steps_numberedPath (stem timestamp : String) :
    ∃ parts last, ∀ n, steps (numberedPath stem timestamp n) =
      parts ++ [String.ofList (last ++ numberSuffix n)] := by
  obtain ⟨parts, last, same⟩ := exists_steps_append (stem ++ "_" ++ timestamp)
  refine ⟨parts, last, fun n => ?_⟩
  rw [numberedPath_eq]
  exact same _ (slash_not_mem_numberSuffix n) (two_le_length_numberSuffix n)

/-- If the extension of a numbered path tells a format at all, it is that of JSON. -/
theorem format_of_numberedPath {n : Nat} {format : ConfigFormat}
    (h : ConfigFormat.ofPath (numberedPath stem timestamp n) = .ok format) : format = .json := by
  obtain ⟨parts, last, same⟩ := exists_steps_numberedPath stem timestamp
  have name := same n
  rw [numberSuffix, ← List.append_assoc] at name
  rw [ConfigFormat.ofPath, extension?_of_steps name] at h
  by_cases bare : last ++ numberMark n = []
  · rw [if_pos bare] at h
    cases h
  · rw [if_neg bare] at h
    cases h
    rfl

/-! ### Places of numbered paths -/

theorem follow?_append (steps rest : List String) :
    s.follow? place (steps ++ rest) = (s.follow? place steps).bind fun p => s.follow? p rest := by
  induction place, steps using follow?.induct s with
  | case1 place => rfl
  | case2 place steps blocked =>
    rw [List.cons_append, follow?, if_pos blocked, follow?, if_pos blocked]
    rfl
  | case3 place steps clear ih =>
    rw [List.cons_append, follow?, if_neg clear, follow?, if_neg clear, ih]
  | case4 place step steps down ih =>
    rw [List.cons_append, follow?.eq_3 _ _ _ _ down, follow?.eq_3 _ _ _ _ down, ih]

/-- Numbered paths lead into one directory, if they lead anywhere. -/
theorem exists_places_numberedPath (s : FileStore) (stem timestamp : String) :
    ∃ directory last, ∀ n place, s.place? (numberedPath stem timestamp n) = some place →
      place = directory ++ [String.ofList (last ++ numberSuffix n)] := by
  obtain ⟨parts, last, same⟩ := exists_steps_numberedPath stem timestamp
  -- The number is not at the front of a path, so it makes no difference for where that starts.
  have start : ∀ n, s.start (numberedPath stem timestamp n) =
      s.start (numberedPath stem timestamp 0) := by
    intro n
    unfold FileStore.start
    rw [numberedPath_eq, numberedPath_eq, @String.toList_append _ (String.ofList _),
      @String.toList_append _ (String.ofList _)]
    have front : (stem ++ "_" ++ timestamp).toList ≠ [] := by simp
    rw [List.head?_append_of_ne_nil _ front, List.head?_append_of_ne_nil _ front]
  refine ⟨(s.follow? (s.start (numberedPath stem timestamp 0)) parts).getD [], last, ?_⟩
  intro n place leads
  unfold place? at leads
  split at leads
  · rw [start, same, follow?_append, Option.bind_eq_some_iff] at leads
    obtain ⟨directory, toDirectory, leads⟩ := leads
    rw [toDirectory, Option.getD_some]
    have down : String.ofList (last ++ numberSuffix n) ≠ ".." := by
      intro upwards
      have ends := congrArg (fun text : String => text.toList.getLast?) upwards
      simp [numberSuffix] at ends
    rw [follow?.eq_3 _ _ _ _ down, follow?] at leads
    exact (Option.some.inj leads).symm
  · cases leads

/-! ### A free path -/

/-- The places inside the store at which there is a file or directory. -/
def occupied (s : FileStore) : List (List String) :=
  s.directories ++ s.files.flatMap fun f => f.1.inits.tail

theorem length_occupied (s : FileStore) : s.occupied.length =
    s.files.foldl (fun n f => n + f.1.length) 0 + s.directories.length := by
  have sum : ∀ (files : List (List String × String)) (n : Nat),
      files.foldl (fun n f => n + f.1.length) n =
        n + (files.flatMap fun f => f.1.inits.tail).length := by
    intro files
    induction files with
    | nil =>
      intro n
      rfl
    | cons f rest ih =>
      intro n
      rw [List.foldl_cons, ih, List.flatMap_cons, List.length_append, List.length_tail,
        List.length_inits]
      omega
  rw [occupied, List.length_append, sum]
  omega

theorem mem_occupied_of_exists? {path : String} (h : s.exists? path = true)
    (leads : s.place? path = some place) (inside : place ≠ []) : place ∈ s.occupied := by
  have above : ∀ f ∈ s.files, place <+: f.1 → place ∈ s.occupied := by
    intro f member start
    refine List.mem_append_right _ (List.mem_flatMap.mpr ⟨f, member, ?_⟩)
    have listed : place ∈ f.1.inits := (List.mem_inits _ _).mpr start
    cases steps : f.1 with
    | nil =>
      rw [steps] at start
      exact absurd (List.prefix_nil.mp start) inside
    | cons step rest =>
      rw [steps, List.inits_cons] at listed
      exact (List.mem_cons.mp listed).resolve_left inside
  simp only [exists?, leads, Bool.or_eq_true, Bool.and_eq_true] at h
  rcases h with ⟨directory, _⟩ | ⟨file, _⟩
  · simp only [hasDirectory, Bool.or_eq_true, List.isEmpty_iff, List.contains_iff_mem] at directory
    rcases directory with (empty | listed) | below
    · exact absurd empty inside
    · exact List.mem_append_left _ listed
    · obtain ⟨f, member, start⟩ := List.any_eq_true.mp below
      simp only [Bool.and_eq_true, beq_iff_eq] at start
      exact above f member (start.2 ▸ List.take_prefix _ _)
  · simp only [content?, Option.isSome_map, List.find?_isSome] at file
    obtain ⟨f, member, same⟩ := file
    exact above f member (beq_iff_eq.mp same ▸ List.prefix_rfl)

/-- If the path of the number that is found is taken, so are all that were tried. -/
theorem exists?_of_firstFree {n bound : Nat}
    (h : s.exists? (numberedPath stem timestamp (s.firstFree stem timestamp n bound)) = true) :
    ∀ i < bound, s.exists? (numberedPath stem timestamp (n + i)) = true := by
  induction bound generalizing n with
  | zero =>
    intro i below
    exact absurd below (Nat.not_lt_zero i)
  | succ bound ih =>
    rw [firstFree] at h
    by_cases taken : s.exists? (numberedPath stem timestamp n) = true
    · rw [if_pos taken] at h
      intro i below
      cases i with
      | zero => exact taken
      | succ i =>
        rw [Nat.add_succ, ← Nat.succ_add]
        exact ih h i (Nat.lt_of_succ_lt_succ below)
    · rw [if_neg taken] at h
      exact absurd h taken

/-- The path that is chosen for a new file is free, whatever the store holds. If it were not, each of
the numbers tried would have a place of its own that is taken, which are too many. -/
theorem exists?_timestampedPath (s : FileStore) (stem timestamp : String) :
    s.exists? (s.timestampedPath stem timestamp) = false := by
  apply Bool.eq_false_iff.mpr
  intro taken
  have all := exists?_of_firstFree taken
  simp only [Nat.zero_add, ← length_occupied] at all
  obtain ⟨directory, last, places⟩ := exists_places_numberedPath s stem timestamp
  have distinct : ((List.range (s.occupied.length + 1)).map fun n =>
      directory ++ [String.ofList (last ++ numberSuffix n)]).Nodup := by
    refine List.Nodup.map (fun m n same => ?_) List.nodup_range
    have names := (List.cons.inj (List.append_cancel_left same)).1
    exact numberSuffix_injective (List.append_cancel_left (String.ofList_inj.mp names))
  have among : ((List.range (s.occupied.length + 1)).map fun n =>
      directory ++ [String.ofList (last ++ numberSuffix n)]) ⊆ s.occupied := by
    intro place listed
    obtain ⟨n, below, rfl⟩ := List.mem_map.mp listed
    have there := all n (List.mem_range.mp below)
    cases leads : s.place? (numberedPath stem timestamp n) with
    | none =>
      rw [exists?, leads] at there
      cases there
    | some place =>
      have inside : place ≠ [] := by
        rw [places n place leads]
        exact List.concat_ne_nil _ _
      exact places n place leads ▸ mem_occupied_of_exists? there leads inside
  have few := (List.subperm_of_subset distinct among).length_le
  rw [List.length_map, List.length_range] at few
  omega

end IsisTestbed.FileStore
