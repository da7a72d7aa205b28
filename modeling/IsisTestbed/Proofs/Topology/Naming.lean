import IsisTestbed.Topology.Builder
import IsisTestbed.Proofs.Text.Digits
import Mathlib.Data.List.Basic

/-!
The names that are derived for generated objects. All of them end in a word and a decimal number,
either of which may be missing. The last letter of the word tells the family of a name, and within
a family a name can be taken apart again: the number is what follows the last character that is not
a digit. This holds for devices of any name, also for names that look like derived ones.
-/

namespace IsisTestbed.Topology

/-! ### Taking texts apart -/

/-- A text is split in one way only at its last character that is not a digit. -/
theorem append_digits_inj {x y ds es : List Char} {c d : Char} (hc : c.isDigit = false)
    (hd : d.isDigit = false) (hds : ∀ e ∈ ds, e.isDigit = true) (hes : ∀ e ∈ es, e.isDigit = true)
    (h : x ++ c :: ds = y ++ d :: es) : x = y ∧ c = d ∧ ds = es := by
  rcases List.append_eq_append_iff.mp h with ⟨z, rfl, tail⟩ | ⟨z, rfl, tail⟩
  · cases z with
    | nil => exact ⟨by simp, List.cons.inj tail⟩
    | cons e z =>
      obtain ⟨_, rfl⟩ := List.cons.inj tail
      exact absurd (hds d (by simp)) (by simp [hd])
  · cases z with
    | nil =>
      obtain ⟨rfl, rfl⟩ := List.cons.inj tail
      exact ⟨by simp, rfl, rfl⟩
    | cons e z =>
      obtain ⟨_, rfl⟩ := List.cons.inj tail
      exact absurd (hes c (by simp)) (by simp [hc])

/-- A text is split in one way only at its first character that is not a digit. -/
theorem digits_append_inj {x y ds es : List Char} {c d : Char} (hc : c.isDigit = false)
    (hd : d.isDigit = false) (hds : ∀ e ∈ ds, e.isDigit = true) (hes : ∀ e ∈ es, e.isDigit = true)
    (h : ds ++ c :: x = es ++ d :: y) : ds = es ∧ c = d ∧ x = y := by
  have reversed : x.reverse ++ c :: ds.reverse = y.reverse ++ d :: es.reverse := by
    simpa using congrArg List.reverse h
  obtain ⟨front, same, digits⟩ := append_digits_inj hc hd (by simpa using hds) (by simpa using hes)
    reversed
  exact ⟨List.reverse_inj.mp digits, same, List.reverse_inj.mp front⟩

/-- A text before a decimal number that does not end in a digit can be told from the number. -/
theorem append_decimal_inj {x y : List Char} {c d : Char} {m n : Nat} (hc : c.isDigit = false)
    (hd : d.isDigit = false) (h : x ++ c :: Text.decimal m = y ++ d :: Text.decimal n) :
    x = y ∧ c = d ∧ m = n := by
  obtain ⟨front, same, digits⟩ := append_digits_inj hc hd (fun _ => Text.isDigit_of_mem_decimal)
    (fun _ => Text.isDigit_of_mem_decimal) h
  exact ⟨front, same, Text.decimal_injective digits⟩

/-- A text behind a decimal number that does not start with a digit can be told from the number. -/
theorem decimal_append_inj {x y : List Char} {c d : Char} {m n : Nat} (hc : c.isDigit = false)
    (hd : d.isDigit = false) (h : Text.decimal m ++ c :: x = Text.decimal n ++ d :: y) :
    m = n ∧ c = d ∧ x = y := by
  obtain ⟨digits, same, rest⟩ := digits_append_inj hc hd (fun _ => Text.isDigit_of_mem_decimal)
    (fun _ => Text.isDigit_of_mem_decimal) h
  exact ⟨Text.decimal_injective digits, same, rest⟩

/-- The last character of a name that is not a digit. -/
def lastLetter? (name : String) : Option Char :=
  name.toList.reverse.find? fun c => !c.isDigit

theorem lastLetter?_eq {name : String} (x ds : List Char) {c : Char} (hc : c.isDigit = false)
    (hds : ∀ d ∈ ds, d.isDigit = true) (h : name.toList = x ++ c :: ds) :
    lastLetter? name = some c := by
  have none : ds.reverse.find? (fun c => !c.isDigit) = none := by
    simpa using hds
  simp [lastLetter?, h, none, hc]

/-! ### Names on a device -/

section Numbered

variable {device device' ethernet ethernet' : String} {m n : Nat}

theorem toList_ethernetName (device : String) (n : Nat) :
    (ethernetName device n).toList = (device.toList ++ ['e', 't']) ++ 'h' :: Text.decimal n := by
  simp [ethernetName]

theorem toList_interfaceName (device : String) (n : Nat) :
    (interfaceName device n).toList =
      (device.toList ++ ['I', 's', 'i', 's', 'i', 'n']) ++ 'f' :: Text.decimal n := by
  simp [interfaceName]

@[simp]
theorem lastLetter?_ethernetName : lastLetter? (ethernetName device n) = some 'h' :=
  lastLetter?_eq _ _ (by decide) (fun _ => Text.isDigit_of_mem_decimal) (toList_ethernetName device n)

@[simp]
theorem lastLetter?_interfaceName : lastLetter? (interfaceName device n) = some 'f' :=
  lastLetter?_eq _ _ (by decide) (fun _ => Text.isDigit_of_mem_decimal)
    (toList_interfaceName device n)

@[simp]
theorem lastLetter?_v4Name : lastLetter? (v4Name ethernet) = some 'p' :=
  lastLetter?_eq (ethernet.toList ++ ['i']) ['4'] (by decide) (by simp) (by simp [v4Name])

@[simp]
theorem lastLetter?_v6Name : lastLetter? (v6Name ethernet) = some 'p' :=
  lastLetter?_eq (ethernet.toList ++ ['i']) ['6'] (by decide) (by simp) (by simp [v6Name])

theorem ethernetName_inj (h : ethernetName device m = ethernetName device' n) :
    device = device' ∧ m = n := by
  have texts := congrArg String.toList h
  rw [toList_ethernetName, toList_ethernetName] at texts
  obtain ⟨front, _, numbers⟩ := append_decimal_inj (by decide) (by decide) texts
  exact ⟨String.toList_inj.mp (List.append_cancel_right front), numbers⟩

theorem interfaceName_inj (h : interfaceName device m = interfaceName device' n) :
    device = device' ∧ m = n := by
  have texts := congrArg String.toList h
  rw [toList_interfaceName, toList_interfaceName] at texts
  obtain ⟨front, _, numbers⟩ := append_decimal_inj (by decide) (by decide) texts
  exact ⟨String.toList_inj.mp (List.append_cancel_right front), numbers⟩

theorem v4Name_inj (h : v4Name ethernet = v4Name ethernet') : ethernet = ethernet' := by
  have texts := congrArg String.toList h
  simpa [v4Name, String.toList_inj] using texts

theorem v6Name_inj (h : v6Name ethernet = v6Name ethernet') : ethernet = ethernet' := by
  have texts := congrArg String.toList h
  simpa [v6Name, String.toList_inj] using texts

theorem v4Name_ne_v6Name : v4Name ethernet ≠ v6Name ethernet' := by
  intro h
  have texts : (ethernet.toList ++ ['i']) ++ 'p' :: ['4'] = (ethernet'.toList ++ ['i']) ++ 'p' :: ['6'] := by
    simpa [v4Name, v6Name] using congrArg String.toList h
  have := append_digits_inj (by decide) (by decide) (by simp) (by simp) texts
  simp at this

end Numbered

/-! ### Names of nodes -/

/-- Whether a character is a hexadecimal digit in lower case. -/
def IsLowerHex (c : Char) : Prop :=
  ('0' ≤ c ∧ c ≤ '9') ∨ ('a' ≤ c ∧ c ≤ 'f')

/-- Whether a name starts the way the names of nodes do: with `T`, two hexadecimal digits in lower
case, and `d`. -/
def IsNodeLike (name : String) : Prop :=
  ∃ high low rest, IsLowerHex high ∧ IsLowerHex low ∧
    name.toList = 'T' :: high :: low :: 'd' :: rest

theorem IsNodeLike.append {name : String} (h : IsNodeLike name) (suffix : String) :
    IsNodeLike (name ++ suffix) := by
  obtain ⟨high, low, rest, hhigh, hlow, text⟩ := h
  exact ⟨high, low, rest ++ suffix.toList, hhigh, hlow, by simp [text]⟩

theorem toList_positionText (p : Position) :
    (positionText p).toList = match p with
      | .cell row col => Text.decimal row ++ '.' :: Text.decimal col
      | .station index => Text.decimal index := by
  cases p <;> simp [positionText]

theorem toList_nodeName (octet : UInt8) (index : Nat) (p : Position) :
    (nodeName octet index p).toList =
      'T' :: (Text.hexPadded 2 octet.toNat).toList ++ 'd' :: (Text.decimal (index + 1) ++
        '.' :: 's' :: 'i' :: 'm' :: '.' :: (positionText p).toList) := by
  simp [nodeName]

theorem length_hexPadded_octet (octet : UInt8) :
    (Text.hexPadded 2 octet.toNat).toList.length = 2 :=
  Text.length_hexPadded (by decide) octet.toNat_lt

/-- An octet is written in two digits. -/
theorem exists_hexPadded_octet (octet : UInt8) :
    ∃ high low, (Text.hexPadded 2 octet.toNat).toList = [high, low] ∧ IsLowerHex high ∧
      IsLowerHex low := by
  obtain ⟨high, low, digits⟩ := List.length_eq_two.mp (length_hexPadded_octet octet)
  have table : ∀ d < 16, IsLowerHex d.digitChar := by
    unfold IsLowerHex
    decide
  have lower (c : Char) (h : c ∈ (Text.hexPadded 2 octet.toNat).toList) : IsLowerHex c := by
    rw [Text.toList_hexPadded] at h
    rcases List.mem_append.mp h with zero | digit
    · rw [List.eq_of_mem_replicate zero]
      exact table 0 (by decide)
    · obtain ⟨d, hd, rfl⟩ := Text.mem_hex digit
      exact table d hd
  exact ⟨high, low, digits, lower high (by simp [digits]), lower low (by simp [digits])⟩

@[simp]
theorem lastLetter?_nodeName {octet : UInt8} {index : Nat} {p : Position} :
    lastLetter? (nodeName octet index p) = some '.' := by
  obtain ⟨front, number, text⟩ :
      ∃ front number, (nodeName octet index p).toList = front ++ '.' :: Text.decimal number := by
    cases p with
    | cell row col =>
      refine ⟨'T' :: (Text.hexPadded 2 octet.toNat).toList ++ 'd' :: (Text.decimal (index + 1) ++
        '.' :: 's' :: 'i' :: 'm' :: '.' :: Text.decimal row), col, ?_⟩
      simp [toList_nodeName, toList_positionText]
    | station station =>
      refine ⟨'T' :: (Text.hexPadded 2 octet.toNat).toList ++ 'd' :: (Text.decimal (index + 1) ++
        ['.', 's', 'i', 'm']), station, ?_⟩
      simp [toList_nodeName, toList_positionText]
  exact lastLetter?_eq _ _ (by decide) (fun _ => Text.isDigit_of_mem_decimal) text

/-- Whether a name is derived for the node of an octet and a number: it starts with both, and its
last letter is that of a device, a router or a route range. -/
def IsNodeName (octet : UInt8) (index : Nat) (name : String) : Prop :=
  (∃ rest, name.toList =
    'T' :: (Text.hexPadded 2 octet.toNat).toList ++ 'd' :: (Text.decimal (index + 1) ++ '.' :: rest)) ∧
    (lastLetter? name = some '.' ∨ lastLetter? name = some 's')

section NodeNames

variable {octet octet' : UInt8} {index index' : Nat} {name : String}

theorem isNodeName_nodeName (octet : UInt8) (index : Nat) (p : Position) :
    IsNodeName octet index (nodeName octet index p) :=
  ⟨⟨_, toList_nodeName octet index p⟩, .inl lastLetter?_nodeName⟩

/-- A name of a node with a suffix that ends in the letter of a router or a route range. -/
theorem IsNodeName.append (h : IsNodeName octet index name) {suffix : String}
    (letter : lastLetter? (name ++ suffix) = some 's') :
    IsNodeName octet index (name ++ suffix) := by
  obtain ⟨⟨rest, text⟩, _⟩ := h
  exact ⟨⟨rest ++ suffix.toList, by simp [text]⟩, .inr letter⟩

/-- A name belongs to one node only. -/
theorem IsNodeName.inj (h : IsNodeName octet index name) (h' : IsNodeName octet' index' name) :
    octet = octet' ∧ index = index' := by
  obtain ⟨⟨rest, text⟩, _⟩ := h
  obtain ⟨⟨rest', text'⟩, _⟩ := h'
  rw [text] at text'
  obtain ⟨heads, tails⟩ := List.append_inj text' (by
    simp only [List.length_cons, length_hexPadded_octet])
  obtain ⟨numbers, _, _⟩ := decimal_append_inj (by decide) (by decide) (List.cons.inj tails).2
  have octets := Text.hexPadded_injective (String.toList_inj.mp (List.cons.inj heads).2)
  exact ⟨UInt8.toNat_inj.mp octets, by omega⟩

theorem IsNodeName.isNodeLike (h : IsNodeName octet index name) : IsNodeLike name := by
  obtain ⟨⟨rest, text⟩, _⟩ := h
  obtain ⟨high, low, digits, hhigh, hlow⟩ := exists_hexPadded_octet octet
  exact ⟨high, low, _, hhigh, hlow, by rw [text, digits]; rfl⟩

end NodeNames

/-- Different positions have different texts. -/
theorem positionText_injective {p p' : Position} (h : positionText p = positionText p') :
    p = p' := by
  have texts := congrArg String.toList h
  rw [toList_positionText, toList_positionText] at texts
  have noDot (n : Nat) (front back : List Char) : Text.decimal n ≠ front ++ '.' :: back := by
    intro same
    have member : '.' ∈ Text.decimal n := by simp [same]
    exact absurd (Text.isDigit_of_mem_decimal member) (by decide)
  cases p with
  | cell row col =>
    cases p' with
    | cell row' col' =>
      obtain ⟨rows, _, cols⟩ := decimal_append_inj (by decide) (by decide) texts
      rw [rows, Text.decimal_injective cols]
    | station index => exact absurd texts.symm (noDot index _ _)
  | station index =>
    cases p' with
    | cell row col => exact absurd texts (noDot index _ _)
    | station index' => rw [Text.decimal_injective texts]

/-- The name of a node determines its topology's octet, its number and its position. -/
theorem nodeName_inj {octet octet' : UInt8} {index index' : Nat} {p p' : Position}
    (h : nodeName octet index p = nodeName octet' index' p') :
    octet = octet' ∧ index = index' ∧ p = p' := by
  have node := isNodeName_nodeName octet index p
  rw [h] at node
  obtain ⟨rfl, rfl⟩ := node.inj (isNodeName_nodeName octet' index' p')
  have texts := congrArg String.toList h
  rw [toList_nodeName, toList_nodeName] at texts
  have positions : positionText p = positionText p' := String.toList_inj.mp (by simpa using texts)
  exact ⟨rfl, rfl, positionText_injective positions⟩

/-! ### Names on a node -/

@[simp]
theorem lastLetter?_routerName {name : String} : lastLetter? (name ++ ".isis") = some 's' :=
  lastLetter?_eq (name.toList ++ ['.', 'i', 's', 'i']) [] (by decide) (by simp) (by simp)

@[simp]
theorem lastLetter?_v4routes {name : String} :
    lastLetter? (name ++ ".isis.v4routes") = some 's' :=
  lastLetter?_eq (name.toList ++ ".isis.v4route".toList) [] (by decide) (by simp) (by simp)

@[simp]
theorem lastLetter?_v6routes {name : String} :
    lastLetter? (name ++ ".isis.v6routes") = some 's' :=
  lastLetter?_eq (name.toList ++ ".isis.v6route".toList) [] (by decide) (by simp) (by simp)

end IsisTestbed.Topology
