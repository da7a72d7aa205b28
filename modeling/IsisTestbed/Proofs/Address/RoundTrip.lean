import IsisTestbed.Address.Ipv6
import IsisTestbed.Proofs.Text.Digits

/-!
Addresses as text, read back. The text of every address denotes that address, in both families. For
IPv6 the reader is described on texts put together from groups with one gap: they denote the groups
in front of the gap, zeros, and the groups behind it.
-/

namespace IsisTestbed

/-! ### IPv4 -/

namespace Ipv4

theorem splitDots_of_not_mem {part : List Char} (h : '.' ∉ part) : splitDots part = [part] := by
  induction part with
  | nil => rfl
  | cons c rest ih =>
    obtain ⟨hc, hrest⟩ := not_or.mp (mt List.mem_cons.mpr h)
    rw [splitDots, ih hrest]
    exact fun same => hc same.symm

theorem splitDots_append {part : List Char} (h : '.' ∉ part) (rest : List Char) :
    splitDots (part ++ '.' :: rest) = part :: splitDots rest := by
  induction part with
  | nil => rfl
  | cons c more ih =>
    obtain ⟨hc, hmore⟩ := not_or.mp (mt List.mem_cons.mpr h)
    rw [List.cons_append, splitDots, ih hmore]
    exact fun same => hc same.symm

theorem not_mem_decimal {c : Char} (h : c.isDigit = false) (n : Nat) : c ∉ Text.decimal n := by
  intro member
  rw [Text.isDigit_of_mem_decimal member] at h
  exact Bool.noConfusion h

/-- The decimal text of an octet is read as the octet, under both rules for leading zeros. -/
theorem octet?_decimal (zeros : Bool) (n : UInt8) :
    octet? zeros (Text.decimal n.toNat) = some n := by
  have bound : n.toNat < 256 := n.toNat_lt
  have short : (Text.decimal n.toNat).length ≤ 3 := Text.length_decimal_le (by decide) (by omega)
  have plain : (Text.decimal n.toNat).head? = some '0' → (Text.decimal n.toNat).length ≤ 1 := by
    intro zero
    rw [Text.eq_zero_of_head?_decimal zero]
    decide
  unfold octet?
  rw [if_neg (by omega), if_neg (by simpa using fun _ h => plain h)]
  simp [bound]

/-- The dotted text of an address denotes it, under both rules for leading zeros. -/
theorem read?_text (zeros : Bool) (ip : Ipv4) : read? zeros ip.text.toList = some ip := by
  have dot (n : Nat) : '.' ∉ Text.decimal n := not_mem_decimal (by decide) n
  have parts : splitDots ip.text.toList =
      [Text.decimal ip.a.toNat, Text.decimal ip.b.toNat, Text.decimal ip.c.toNat,
        Text.decimal ip.d.toNat] := by
    simp [text, splitDots_append (dot _), splitDots_of_not_mem (dot _)]
  simp [read?, parts, octet?_decimal]

theorem ofText?_text (ip : Ipv4) : ofText? ip.text = some ip :=
  read?_text false ip

end Ipv4

/-! ### IPv6: parts between colons -/

namespace Ipv6

/-- Parts with a colon between each two of them. -/
def colonJoined : List (List Char) → List Char
  | [] => []
  | [part] => part
  | part :: parts => part ++ ':' :: colonJoined parts

/-- Whether a part is written in hexadecimal digits only, at least one of them. -/
def IsGroupText (part : List Char) : Prop :=
  part ≠ [] ∧ ∀ c ∈ part, Text.isHexDigit c = true

theorem IsGroupText.not_mem {part : List Char} (h : IsGroupText part) {c : Char}
    (hc : Text.isHexDigit c = false) : c ∉ part := by
  intro member
  rw [h.2 c member] at hc
  exact Bool.noConfusion hc

theorem isGroupText_hex (n : Nat) : IsGroupText (Text.hex n) :=
  ⟨Text.hex_ne_nil n, fun _ h => Text.isHexDigit_of_mem_hex h⟩

theorem isGroupText_decimal (n : Nat) : IsGroupText (Text.decimal n) :=
  ⟨Text.decimal_ne_nil n, fun _ h => Text.isHexDigit_of_isDigit (Text.isDigit_of_mem_decimal h)⟩

theorem colonText_eq_colonJoined (groups : List UInt16) :
    colonText groups = colonJoined (groups.map fun g => Text.hex g.toNat) := by
  induction groups with
  | nil => rfl
  | cons g rest ih =>
    cases rest with
    | nil => rfl
    | cons next more =>
      rw [colonText, ih]
      · rfl
      · exact List.cons_ne_nil next more

theorem splitColons_of_not_mem {part : List Char} (h : ':' ∉ part) :
    splitColons part = [part] := by
  induction part with
  | nil => rfl
  | cons c rest ih =>
    obtain ⟨hc, hrest⟩ := not_or.mp (mt List.mem_cons.mpr h)
    rw [splitColons, ih hrest]
    exact fun same => hc same.symm

theorem splitColons_append {part : List Char} (h : ':' ∉ part) (rest : List Char) :
    splitColons (part ++ ':' :: rest) = part :: splitColons rest := by
  induction part with
  | nil => rfl
  | cons c more ih =>
    obtain ⟨hc, hmore⟩ := not_or.mp (mt List.mem_cons.mpr h)
    rw [List.cons_append, splitColons, ih hmore]
    exact fun same => hc same.symm

/-- Joining parts and splitting the text again gives the parts. -/
theorem splitColons_colonJoined {part : List Char} {parts : List (List Char)}
    (h : ∀ p ∈ part :: parts, IsGroupText p) :
    splitColons (colonJoined (part :: parts)) = part :: parts := by
  induction parts generalizing part with
  | nil => exact splitColons_of_not_mem ((h part (by simp)).not_mem (by decide))
  | cons next more ih =>
    have rest := @ih next fun p hp => h p (List.mem_cons_of_mem _ hp)
    rw [colonJoined, splitColons_append ((h part (by simp)).not_mem (by decide)), rest]
    exact List.cons_ne_nil next more

/-! ### IPv6: groups -/

/-- Parts of hexadecimal digits are read one by one. -/
theorem groups?_eq_mapM {parts : List (List Char)} (h : ∀ p ∈ parts, IsGroupText p) :
    groups? parts = parts.mapM group? := by
  induction parts with
  | nil => rfl
  | cons part rest ih =>
    have more := ih fun p hp => h p (List.mem_cons_of_mem _ hp)
    cases rest with
    | nil =>
      have noDot : '.' ∉ part := (h part (by simp)).not_mem (by decide)
      cases hg : group? part <;> simp [groups?, noDot, hg]
    | cons next tail =>
      rw [groups?, more]
      · simp
      · exact List.cons_ne_nil next tail

/-- The hexadecimal text of a group is read as the group. -/
theorem group?_hex (g : UInt16) : group? (Text.hex g.toNat) = some g := by
  have bound : g.toNat < 65536 := g.toNat_lt
  have short : (Text.hex g.toNat).length ≤ 4 := Text.length_hex_le (by decide) (by omega)
  unfold group?
  rw [if_neg (by omega)]
  simp

theorem mapM_group?_hex (groups : List UInt16) :
    (groups.map fun g => Text.hex g.toNat).mapM group? = some groups := by
  induction groups with
  | nil => rfl
  | cons g rest ih => simp [group?_hex, ih]

/-! ### IPv6: the gap -/

theorem splitGap_cons {c : Char} {rest : List Char} (h : c ≠ ':' ∨ rest.head? ≠ some ':') :
    splitGap (c :: rest) = (c :: (splitGap rest).1, (splitGap rest).2) := by
  rw [splitGap]
  intro tail hc hrest
  subst hrest
  rcases h with hne | hne
  · exact hne hc
  · exact hne rfl

/-- No gap lies inside a part. -/
theorem splitGap_append {part : List Char} (h : ':' ∉ part) (rest : List Char) :
    splitGap (part ++ rest) = (part ++ (splitGap rest).1, (splitGap rest).2) := by
  induction part with
  | nil => rfl
  | cons c more ih =>
    obtain ⟨hc, hmore⟩ := not_or.mp (mt List.mem_cons.mpr h)
    rw [List.cons_append, splitGap_cons (.inl fun same => hc same.symm), ih hmore]
    rfl

theorem head?_colonJoined_ne {part : List Char} (h : IsGroupText part)
    (parts : List (List Char)) (rest : List Char) : (colonJoined (part :: parts) ++ rest).head? ≠ some ':' := by
  have noColon : ':' ∉ part := h.not_mem (by decide)
  obtain ⟨c, tail, rfl⟩ := List.exists_cons_of_ne_nil h.1
  have different : c ≠ ':' := fun same => noColon (by simp [same])
  cases parts <;> simp [colonJoined, different]

/-- A gap behind joined parts is the first one. -/
theorem splitGap_colonJoined {front : List (List Char)} (h : ∀ p ∈ front, IsGroupText p)
    (rest : List Char) :
    splitGap (colonJoined front ++ ':' :: ':' :: rest) = (colonJoined front, some rest) := by
  induction front with
  | nil => rfl
  | cons part parts ih =>
    have noColon : ':' ∉ part := (h part (by simp)).not_mem (by decide)
    have later := ih fun p hp => h p (List.mem_cons_of_mem _ hp)
    cases parts with
    | nil =>
      simp only [colonJoined]
      rw [splitGap_append noColon]
      simp [splitGap]
    | cons next more =>
      have hnext := head?_colonJoined_ne (h next (by simp)) more (':' :: ':' :: rest)
      rw [colonJoined, List.append_assoc, splitGap_append noColon, List.cons_append,
        splitGap_cons (.inr hnext), later]
      exact List.cons_ne_nil next more

/-- Joined parts have no gap. -/
theorem splitGap_colonJoined_eq_none {parts : List (List Char)}
    (h : ∀ p ∈ parts, IsGroupText p) : (splitGap (colonJoined parts)).2 = none := by
  induction parts with
  | nil => rfl
  | cons part parts ih =>
    have noColon : ':' ∉ part := (h part (by simp)).not_mem (by decide)
    have later := ih fun p hp => h p (List.mem_cons_of_mem _ hp)
    cases parts with
    | nil =>
      have alone := splitGap_append noColon []
      simp only [List.append_nil] at alone
      simp [colonJoined, alone, splitGap]
    | cons next more =>
      have hnext := head?_colonJoined_ne (h next (by simp)) more []
      rw [List.append_nil] at hnext
      rw [colonJoined, splitGap_append noColon, splitGap_cons (.inr hnext)]
      · exact later
      · exact List.cons_ne_nil next more

theorem mem_colonJoined {c : Char} {parts : List (List Char)} (h : c ∈ colonJoined parts) :
    c = ':' ∨ ∃ p ∈ parts, c ∈ p := by
  induction parts with
  | nil => simp [colonJoined] at h
  | cons part rest ih =>
    cases rest with
    | nil => exact .inr ⟨part, by simp, h⟩
    | cons next more =>
      simp only [colonJoined, List.mem_append, List.mem_cons] at h
      rcases h with first | colon | later
      · exact .inr ⟨part, by simp, first⟩
      · exact .inl colon
      · rcases ih later with colon | ⟨p, hp, member⟩
        · exact .inl colon
        · exact .inr ⟨p, List.mem_cons_of_mem _ hp, member⟩

theorem side?_colonJoined (dotted : Bool) {parts : List (List Char)}
    (h : ∀ p ∈ parts, IsGroupText p) : side? dotted (colonJoined parts) = parts.mapM group? := by
  cases parts with
  | nil => rfl
  | cons part rest =>
    have nonempty : (colonJoined (part :: rest)).isEmpty = false := by
      have := (h part (by simp)).1
      cases rest <;> simp [colonJoined, this]
    have noDot : '.' ∉ colonJoined (part :: rest) := by
      intro member
      rcases mem_colonJoined member with colon | ⟨p, hp, inside⟩
      · exact absurd colon (by decide)
      · exact (h p hp).not_mem (by decide) inside
    unfold side?
    rw [nonempty, splitColons_colonJoined h, groups?_eq_mapM h]
    simp [noDot]

/-! ### IPv6: addresses -/

theorem ofGroups?_toList (ip : Ipv6) : ofGroups? ip.groups.toList = some ip := by
  rcases ip with ⟨⟨⟨groups⟩, size⟩⟩
  simp at size
  simp [ofGroups?, size]

/-- A text with a gap denotes the groups on both sides of it and zeros between them. -/
theorem read?_gap {front back : List (List Char)} {before after : List UInt16}
    (hfront : ∀ p ∈ front, IsGroupText p) (hback : ∀ p ∈ back, IsGroupText p)
    (hbefore : front.mapM group? = some before) (hafter : back.mapM group? = some after)
    (short : before.length + after.length < 8) :
    read? (colonJoined front ++ ':' :: ':' :: colonJoined back) =
      ofGroups? (before ++ List.replicate (8 - (before.length + after.length)) 0 ++ after) := by
  unfold read?
  rw [splitGap_colonJoined hfront]
  have missing : 8 - (before.length + after.length) ≠ 0 := by omega
  simp [side?_colonJoined _ hfront, side?_colonJoined _ hback, hbefore, hafter, missing]

/-- A text without a gap denotes its groups. -/
theorem read?_colonJoined {part : List Char} {parts : List (List Char)}
    (h : ∀ p ∈ part :: parts, IsGroupText p) :
    read? (colonJoined (part :: parts)) = ((part :: parts).mapM group?).bind ofGroups? := by
  unfold read?
  split
  · next heq => rw [splitColons_colonJoined h, groups?_eq_mapM h]
  · next before after heq =>
    have noGap := splitGap_colonJoined_eq_none h
    rw [heq] at noGap
    exact absurd noGap (by simp)

/-! ### IPv6: the run of zeros -/

theorem eq_replicate_append_drop (groups : List UInt16) :
    groups = List.replicate (leadingZeros groups) 0 ++ groups.drop (leadingZeros groups) := by
  induction groups with
  | nil => rfl
  | cons g rest ih =>
    by_cases h : g = 0
    · simpa [leadingZeros, h, List.replicate_succ] using ih
    · simp [leadingZeros, h]

/-- The longest run is the run of zeros at some position of the list. -/
theorem longestRun_eq (index : Nat) {groups : List UInt16} (h : groups ≠ []) :
    ∃ k < groups.length, longestRun index groups = (index + k, leadingZeros (groups.drop k)) := by
  induction groups generalizing index with
  | nil => exact absurd rfl h
  | cons g rest ih =>
    by_cases hlater : (longestRun (index + 1) rest).2 ≤ leadingZeros (g :: rest)
    · exact ⟨0, by simp, by simp [longestRun, hlater]⟩
    · have nonempty : rest ≠ [] := by
        rintro rfl
        exact hlater (Nat.zero_le _)
      obtain ⟨k, hk, run⟩ := ih (index + 1) nonempty
      refine ⟨k + 1, by simpa using hk, ?_⟩
      have : longestRun index (g :: rest) = longestRun (index + 1) rest := by
        simp only [longestRun, if_neg hlater]
      rw [this, run]
      simp
      omega

/-- A list is what stands in front of its longest run of zeros, the run, and what stands behind. -/
theorem eq_around_longestRun {groups : List UInt16} (h : groups ≠ []) :
    groups = groups.take (longestRun 0 groups).1 ++
      (List.replicate (longestRun 0 groups).2 0 ++
        groups.drop ((longestRun 0 groups).1 + (longestRun 0 groups).2)) := by
  obtain ⟨k, _, run⟩ := longestRun_eq 0 h
  have behind := eq_replicate_append_drop (groups.drop k)
  rw [List.drop_drop] at behind
  rw [run]
  simp only [Nat.zero_add]
  rw [← behind, List.take_append_drop]

/-! ### IPv6: the round trip -/

theorem isGroupText_of_mem_map_hex {groups : List UInt16} {p : List Char}
    (h : p ∈ groups.map fun g => Text.hex g.toNat) : IsGroupText p := by
  obtain ⟨g, _, rfl⟩ := List.mem_map.mp h
  exact isGroupText_hex g.toNat

/-- The text in which the longest run of zeros is a gap. -/
theorem read?_compressed (ip : Ipv6) (h : 1 < (longestRun 0 ip.groups.toList).2) :
    read? (colonText (ip.groups.toList.take (longestRun 0 ip.groups.toList).1) ++ [':', ':'] ++
      colonText (ip.groups.toList.drop
        ((longestRun 0 ip.groups.toList).1 + (longestRun 0 ip.groups.toList).2))) = some ip := by
  have nonempty : ip.groups.toList ≠ [] := by
    intro empty
    have := congrArg List.length empty
    simp at this
  have around := eq_around_longestRun nonempty
  generalize (longestRun 0 ip.groups.toList).1 = start at *
  generalize (longestRun 0 ip.groups.toList).2 = length at *
  have total := congrArg List.length around
  simp only [Vector.length_toList, List.length_append, List.length_replicate] at total
  rw [colonText_eq_colonJoined, colonText_eq_colonJoined, List.append_assoc]
  refine (read?_gap (fun _ => isGroupText_of_mem_map_hex) (fun _ => isGroupText_of_mem_map_hex)
    (mapM_group?_hex _) (mapM_group?_hex _) (by omega)).trans ?_
  have gap : 8 - ((ip.groups.toList.take start).length +
      (ip.groups.toList.drop (start + length)).length) = length := by omega
  rw [gap, List.append_assoc, ← around]
  exact ofGroups?_toList ip

/-- The text without a gap. -/
theorem read?_colonText (ip : Ipv6) : read? (colonText ip.groups.toList) = some ip := by
  have nonempty : ip.groups.toList.map (fun g => Text.hex g.toNat) ≠ [] := by
    intro empty
    have := congrArg List.length empty
    simp at this
  obtain ⟨part, parts, hparts⟩ := List.exists_cons_of_ne_nil nonempty
  rw [colonText_eq_colonJoined, hparts, read?_colonJoined, ← hparts, mapM_group?_hex]
  · exact ofGroups?_toList ip
  · rw [← hparts]
    exact fun _ => isGroupText_of_mem_map_hex

/-- The dotted form is read as the two groups that it stands for. -/
theorem groups?_embedded (high low : UInt16) :
    groups? [(embedded high low).text.toList] = some [high, low] := by
  have join (g : UInt16) :
      UInt16.ofNat ((UInt8.ofNat (g.toNat / 256)).toNat * 256 +
        (UInt8.ofNat (g.toNat % 256)).toNat) = g := by
    have bound : g.toNat < 65536 := g.toNat_lt
    apply UInt16.toNat_inj.mp
    simp only [UInt16.toNat_ofNat', UInt8.toNat_ofNat']
    omega
  have dotted : '.' ∈ (embedded high low).text.toList := by simp [Ipv4.text]
  simp only [groups?, List.contains_iff_mem.mpr dotted, if_true, Ipv4.read?_text, Option.map_some]
  simp only [embedded, join]

/-- The text that ends in a dotted IPv4 address. -/
theorem read?_embedded (high low : UInt16) :
    read? ("::ffff:".toList ++ (embedded high low).text.toList) =
      ofGroups? [0, 0, 0, 0, 0, 0xffff, high, low] := by
  have noColon : ':' ∉ (embedded high low).text.toList := by
    have part (n : Nat) : ':' ∉ Text.decimal n := Ipv4.not_mem_decimal (by decide) n
    simp [Ipv4.text, part]
  have parts : splitColons ('f' :: 'f' :: 'f' :: 'f' :: ':' :: (embedded high low).text.toList) =
      [['f', 'f', 'f', 'f'], (embedded high low).text.toList] := by
    rw [← splitColons_of_not_mem noColon]
    exact @splitColons_append ['f', 'f', 'f', 'f'] (by decide) _
  have first : group? ['f', 'f', 'f', 'f'] = some 0xffff := by decide
  have back : side? true ('f' :: 'f' :: 'f' :: 'f' :: ':' :: (embedded high low).text.toList) =
      some [0xffff, high, low] := by
    unfold side?
    rw [parts, groups?, first, groups?_embedded]
    · rfl
    · exact List.cons_ne_nil _ _
  have gap : splitGap ("::ffff:".toList ++ (embedded high low).text.toList) =
      ([], some ('f' :: 'f' :: 'f' :: 'f' :: ':' :: (embedded high low).text.toList)) := rfl
  unfold read?
  rw [gap]
  simp only [back]
  rfl

/-- The text of an address denotes it. -/
theorem ofText?_text (ip : Ipv6) : ofText? ip.text = some ip := by
  unfold ofText? text
  dsimp only
  split
  · next high low heq =>
    rw [String.toList_append, read?_embedded, ← heq]
    exact ofGroups?_toList ip
  · split
    · next h => simpa using read?_compressed ip h
    · simpa using read?_colonText ip

end Ipv6

end IsisTestbed
