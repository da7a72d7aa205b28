import IsisTestbed.Text.Digits
import Mathlib.Algebra.Group.Nat.Defs

/-!
Numbers as text, read back. Writing a number in a base of at most sixteen and reading the digits in
the same base gives the number again, so different numbers have different texts. Texts of numbers
below a bound are short, and only zero starts with the digit zero.
-/

namespace IsisTestbed.Text

/-! ### Single digits -/

/-- The digit that is written for a number below the base is read as that number. -/
theorem digit?_digitChar {base n : Nat} (hbase : base ≤ 16) (h : n < base) :
    digit? base n.digitChar = some n := by
  have table : ∀ m < 16, digit? 16 m.digitChar = some m := by decide
  have read := table n (by omega)
  unfold digit? at read ⊢
  obtain ⟨hvalue, _⟩ := Option.filter_eq_some_iff.mp read
  exact Option.filter_eq_some_iff.mpr ⟨hvalue, by simpa using h⟩

/-- A decimal digit in the sense of characters is one of the ten digits of a text. -/
theorem isHexDigit_of_isDigit {c : Char} (h : c.isDigit = true) : isHexDigit c = true := by
  have range : '0' ≤ c ∧ c ≤ '9' := by
    simpa [Char.isDigit, Char.le_def] using h
  have value : c.toNat - 48 < 16 := by
    have : c.toNat ≤ 57 := range.2
    omega
  simp [isHexDigit, digit?, range, Option.filter, value]

/-! ### Reading what was written -/

theorem digitsFrom?_append (base value : Nat) (cs ds : List Char) :
    digitsFrom? base value (cs ++ ds) =
      (digitsFrom? base value cs).bind fun v => digitsFrom? base v ds := by
  induction cs generalizing value with
  | nil => rfl
  | cons c rest ih =>
    cases hc : digit? base c with
    | none => simp [digitsFrom?, hc]
    | some d => simp [digitsFrom?, hc, ih]

/-- Zeros in front do not change what the digits denote. -/
theorem digitsFrom?_replicate_zero {base : Nat} (hbase : 1 ≤ base) (k : Nat) (cs : List Char) :
    digitsFrom? base 0 (List.replicate k '0' ++ cs) = digitsFrom? base 0 cs := by
  have zero : digit? base '0' = some 0 := by
    have : (0 : Nat) < base := hbase
    simp [digit?, Option.filter, this]
  induction k with
  | zero => rfl
  | succ k ih => simpa [List.replicate_succ, digitsFrom?, zero] using ih

/-- The digits of a number denote it. The induction is on the number without its last digit. -/
theorem digitsFrom?_toDigits {base : Nat} (hlow : 1 < base) (hhigh : base ≤ 16) (n : Nat) :
    digitsFrom? base 0 (Nat.toDigits base n) = some n := by
  induction n using Nat.strongRecOn with
  | _ n ih =>
    rw [Nat.toDigits_eq_if hlow]
    split
    · next h => simp [digitsFrom?, digit?_digitChar hhigh h]
    · next h =>
      have shorter : n / base < n := Nat.div_lt_self (by omega) hlow
      have last : digit? base (n % base).digitChar = some (n % base) :=
        digit?_digitChar hhigh (Nat.mod_lt n (by omega))
      have split : n / base * base + n % base = n := Nat.div_add_mod' n base
      simp [digitsFrom?_append, ih _ shorter, digitsFrom?, last, split]

theorem ofDigits?_eq_digitsFrom? {base : Nat} {cs : List Char} (h : cs ≠ []) :
    ofDigits? base cs = digitsFrom? base 0 cs := by
  cases cs with
  | nil => exact absurd rfl h
  | cons c rest => rfl

theorem ofDigits?_toDigits {base : Nat} (hlow : 1 < base) (hhigh : base ≤ 16) (n : Nat) :
    ofDigits? base (Nat.toDigits base n) = some n := by
  rw [ofDigits?_eq_digitsFrom? Nat.toDigits_ne_nil, digitsFrom?_toDigits hlow hhigh]

@[simp]
theorem digitsFrom?_decimal (n : Nat) : digitsFrom? 10 0 (decimal n) = some n :=
  digitsFrom?_toDigits (by decide) (by decide) n

@[simp]
theorem ofDigits?_decimal (n : Nat) : ofDigits? 10 (decimal n) = some n :=
  ofDigits?_toDigits (by decide) (by decide) n

@[simp]
theorem ofDigits?_hex (n : Nat) : ofDigits? 16 (hex n) = some n :=
  ofDigits?_toDigits (by decide) (by decide) n

theorem decimal_injective {m n : Nat} (h : decimal m = decimal n) : m = n := by
  have := congrArg (ofDigits? 10) h
  simpa using this

@[simp]
theorem toList_number (n : Nat) : (number n).toList = decimal n := by
  simp [number]

/-! ### Shape of the texts -/

@[simp]
theorem decimal_ne_nil (n : Nat) : decimal n ≠ [] :=
  Nat.toDigits_ne_nil

@[simp]
theorem hex_ne_nil (n : Nat) : hex n ≠ [] :=
  Nat.toDigits_ne_nil

theorem isDigit_of_mem_decimal {n : Nat} {c : Char} (h : c ∈ decimal n) : c.isDigit = true :=
  Nat.isDigit_of_mem_toDigits (by decide) (by decide) h

theorem length_decimal_le {n k : Nat} (hk : 0 < k) (h : n < 10 ^ k) : (decimal n).length ≤ k :=
  (Nat.length_toDigits_le_iff (by decide) hk).mpr h

theorem length_hex_le {n k : Nat} (hk : 0 < k) (h : n < 16 ^ k) : (hex n).length ≤ k :=
  (Nat.length_toDigits_le_iff (by decide) hk).mpr h

/-- The digits of the hexadecimal text of a number are those of the numbers below sixteen. -/
theorem mem_hex {n : Nat} {c : Char} (h : c ∈ hex n) : ∃ d < 16, c = d.digitChar := by
  unfold hex at h
  induction n using Nat.strongRecOn with
  | _ n ih =>
    rw [Nat.toDigits_eq_if (by decide)] at h
    split at h
    · next hn => exact ⟨n, hn, by simpa using h⟩
    · next hn =>
      rcases List.mem_append.mp h with front | last
      · exact ih (n / 16) (Nat.div_lt_self (by omega) (by decide)) front
      · exact ⟨n % 16, Nat.mod_lt n (by decide), by simpa using last⟩

theorem isHexDigit_of_mem_hex {n : Nat} {c : Char} (h : c ∈ hex n) : isHexDigit c = true := by
  obtain ⟨d, hd, rfl⟩ := mem_hex h
  simp [isHexDigit, digit?_digitChar (Nat.le_refl 16) hd]

/-- Hexadecimal texts have no upper-case letters. -/
theorem toLower_of_mem_hex {n : Nat} {c : Char} (h : c ∈ hex n) : c.toLower = c := by
  have table : ∀ d < 16, d.digitChar.toLower = d.digitChar := by decide
  obtain ⟨d, hd, rfl⟩ := mem_hex h
  exact table d hd

/-- Only zero starts with the digit zero. -/
theorem eq_zero_of_head?_decimal {n : Nat} (h : (decimal n).head? = some '0') : n = 0 := by
  have table : ∀ d < 10, d.digitChar = '0' → d = 0 := by decide
  unfold decimal at h
  induction n using Nat.strongRecOn with
  | _ n ih =>
    rw [Nat.toDigits_eq_if (by decide)] at h
    split at h
    · next hn => exact table n hn (by simpa using h)
    · next hn =>
      obtain ⟨c, rest, front⟩ := List.exists_cons_of_ne_nil (l := Nat.toDigits 10 (n / 10)) (by simp)
      have zero := ih (n / 10) (Nat.div_lt_self (by omega) (by decide)) (by simpa [front] using h)
      omega

/-! ### Padded hexadecimal texts -/

@[simp]
theorem toList_hexPadded (width n : Nat) :
    (hexPadded width n).toList = List.replicate (width - (hex n).length) '0' ++ hex n := by
  simp [hexPadded, padLeft]

theorem length_hexPadded {width n : Nat} (hwidth : 0 < width) (h : n < 16 ^ width) :
    (hexPadded width n).toList.length = width := by
  have := length_hex_le hwidth h
  simp
  omega

theorem ofDigits?_hexPadded (width n : Nat) :
    ofDigits? 16 (hexPadded width n).toList = some n := by
  rw [ofDigits?_eq_digitsFrom? (by simp), toList_hexPadded,
    digitsFrom?_replicate_zero (by decide), ← ofDigits?_eq_digitsFrom? (hex_ne_nil n), ofDigits?_hex]

theorem hexPadded_injective {width m n : Nat} (h : hexPadded width m = hexPadded width n) :
    m = n := by
  have := congrArg (fun s => ofDigits? 16 s.toList) h
  simpa only [ofDigits?_hexPadded, Option.some.injEq] using this

theorem isHexDigit_of_mem_hexPadded {width n : Nat} {c : Char}
    (h : c ∈ (hexPadded width n).toList) : isHexDigit c = true := by
  rw [toList_hexPadded] at h
  rcases List.mem_append.mp h with zero | digit
  · rw [List.eq_of_mem_replicate zero]
    decide
  · exact isHexDigit_of_mem_hex digit

theorem toLower_of_mem_hexPadded {width n : Nat} {c : Char}
    (h : c ∈ (hexPadded width n).toList) : c.toLower = c := by
  rw [toList_hexPadded] at h
  rcases List.mem_append.mp h with zero | digit
  · rw [List.eq_of_mem_replicate zero]
    decide
  · exact toLower_of_mem_hex digit

end IsisTestbed.Text
