import IsisTestbed.Address.Ipv6
import Mathlib.Algebra.Group.Nat.Defs

/-!
IPv6 networks. The network of an address keeps as many of its first bits as the prefix is long. Of an
address with four zero groups behind its first one, a prefix of up to 80 bits keeps nothing but the
first group, and one of at least 112 bits keeps all groups but the last one.
-/

namespace IsisTestbed.Ipv6

/-- A group with all but its first bits cleared. -/
def keepBits (k : Nat) (g : UInt16) : UInt16 :=
  UInt16.ofNat (g.toNat / Nat.pow 2 (16 - k) * Nat.pow 2 (16 - k))

/-- The network that an address is in if the prefix has a given length: the bits of the prefix, with
all others cleared. -/
def network (ip : Ipv6) (length : Nat) : Ipv6 :=
  ⟨ip.groups.mapIdx fun i g => keepBits (length - 16 * i) g⟩

variable {k length : Nat} {g x x' y y' z z' : UInt16}

theorem keepBits_of_le (h : 16 ≤ k) : keepBits k g = g := by
  have whole : 16 - k = 0 := Nat.sub_eq_zero_of_le h
  rw [keepBits, whole, Nat.pow, Nat.div_one, Nat.mul_one, UInt16.ofNat_toNat]

theorem keepBits_of_lt (h : g.toNat < Nat.pow 2 (16 - k)) : keepBits k g = 0 := by
  rw [keepBits, Nat.div_eq_of_lt h, Nat.zero_mul]
  rfl

/-- No bit is kept. -/
theorem keepBits_zero_left (g : UInt16) : keepBits 0 g = 0 :=
  keepBits_of_lt g.toNat_lt

theorem keepBits_zero_right (k : Nat) : keepBits k 0 = 0 :=
  keepBits_of_lt (Nat.pow_pos (by decide))

/-- The address with a first group, a gap, and three further groups. -/
def gapped (g x y z : UInt16) : Ipv6 :=
  ⟨#v[g, 0, 0, 0, 0, x, y, z]⟩

theorem network_gapped (g x y z : UInt16) (length : Nat) :
    (gapped g x y z).network length = gapped (keepBits length g) (keepBits (length - 80) x)
      (keepBits (length - 96) y) (keepBits (length - 112) z) := by
  have groups : (gapped g x y z).network length = ⟨#v[keepBits length g, keepBits (length - 16) 0,
      keepBits (length - 32) 0, keepBits (length - 48) 0, keepBits (length - 64) 0,
      keepBits (length - 80) x, keepBits (length - 96) y, keepBits (length - 112) z]⟩ := rfl
  rw [groups, keepBits_zero_right, keepBits_zero_right, keepBits_zero_right, keepBits_zero_right]
  rfl

/-- A prefix that ends before the last three groups does not tell them. -/
theorem network_gapped_of_le (h : length ≤ 80) :
    (gapped g x y z).network length = gapped (keepBits length g) 0 0 0 := by
  have first : length - 80 = 0 := by omega
  have second : length - 96 = 0 := by omega
  have third : length - 112 = 0 := by omega
  rw [network_gapped, first, second, third, keepBits_zero_left, keepBits_zero_left,
    keepBits_zero_left]

/-- A prefix that ends in the last group tells all others. -/
theorem network_gapped_of_ge (h : 112 ≤ length) :
    (gapped g x y z).network length = gapped g x y (keepBits (length - 112) z) := by
  rw [network_gapped, keepBits_of_le (by omega), keepBits_of_le (by omega),
    keepBits_of_le (by omega)]

theorem gapped_inj {g' : UInt16} (h : gapped g x y z = gapped g' x' y' z') :
    g = g' ∧ x = x' ∧ y = y' ∧ z = z' := by
  have groups := congrArg (fun ip : Ipv6 => ip.groups.toList) h
  simpa [gapped] using groups

end IsisTestbed.Ipv6
