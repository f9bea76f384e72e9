import CloudDirector.Encoding.Base64
import Mathlib.Logic.Function.Basic

/-!
# Base64 is read back

Bytes come back from their base64 text, group by group, so no two lists of bytes have one text.
-/
namespace CloudDirector.Encoding

theorem base64Value_base64Digit : ∀ n < 64, base64Value (base64Digit n) = some n := by decide

theorem base64Digit_ne_pad : ∀ n < 64, base64Digit n ≠ '=' := by decide

private theorem toUInt8_eq {n : Nat} {b : UInt8} (h : n = b.toNat) : n.toUInt8 = b := by
  rw [h]
  simp

/-- A group at the end that lacks two bytes. -/
private theorem unbase64_one (a : UInt8) : unbase64 (base64 [a]) = some [a] := by
  have ha : a.toNat < 256 := a.toNat_lt
  have hbyte : (a.toNat / 4 * 4 + a.toNat % 4 * 16 / 16).toUInt8 = a := toUInt8_eq (by omega)
  have hrest : a.toNat % 4 * 16 % 16 = 0 := by omega
  simp only [base64, unbase64, Option.bind_eq_bind, Option.bind_some, hbyte, hrest,
    base64Value_base64Digit _ (by omega : a.toNat / 4 < 64),
    base64Value_base64Digit _ (by omega : a.toNat % 4 * 16 < 64), and_self, if_true]

/-- A group at the end that lacks one byte. -/
private theorem unbase64_two (a b : UInt8) : unbase64 (base64 [a, b]) = some [a, b] := by
  have ha : a.toNat < 256 := a.toNat_lt
  have hb : b.toNat < 256 := b.toNat_lt
  have hthird : b.toNat % 16 * 4 < 64 := by omega
  have hfirst : (a.toNat / 4 * 4 + (a.toNat % 4 * 16 + b.toNat / 16) / 16).toUInt8 = a :=
    toUInt8_eq (by omega)
  have hsecond : ((a.toNat % 4 * 16 + b.toNat / 16) % 16 * 16 + b.toNat % 16 * 4 / 4).toUInt8 = b :=
    toUInt8_eq (by omega)
  have hrest : b.toNat % 16 * 4 % 4 = 0 := by omega
  simp only [base64, unbase64, Option.bind_eq_bind, Option.bind_some, hfirst, hsecond, hrest,
    base64Value_base64Digit _ (by omega : a.toNat / 4 < 64),
    base64Value_base64Digit _ (by omega : a.toNat % 4 * 16 + b.toNat / 16 < 64),
    base64Value_base64Digit _ hthird, base64Digit_ne_pad _ hthird, and_self, if_true, if_false]

/-- A whole group, whatever stands behind it. -/
private theorem unbase64_group (a b c : UInt8) (rest : List UInt8) :
    unbase64 (base64 (a :: b :: c :: rest)) =
      (unbase64 (base64 rest)).map fun more => a :: b :: c :: more := by
  have ha : a.toNat < 256 := a.toNat_lt
  have hb : b.toNat < 256 := b.toNat_lt
  have hc : c.toNat < 256 := c.toNat_lt
  have hthird : b.toNat % 16 * 4 + c.toNat / 64 < 64 := by omega
  have hfourth : c.toNat % 64 < 64 := by omega
  have hfirst : (a.toNat / 4 * 4 + (a.toNat % 4 * 16 + b.toNat / 16) / 16).toUInt8 = a :=
    toUInt8_eq (by omega)
  have hsecond : ((a.toNat % 4 * 16 + b.toNat / 16) % 16 * 16 +
      (b.toNat % 16 * 4 + c.toNat / 64) / 4).toUInt8 = b := toUInt8_eq (by omega)
  have hlast : ((b.toNat % 16 * 4 + c.toNat / 64) % 4 * 64 + c.toNat % 64).toUInt8 = c :=
    toUInt8_eq (by omega)
  simp only [base64, unbase64, Option.bind_eq_bind, Option.bind_some, hfirst, hsecond, hlast,
    base64Value_base64Digit _ (by omega : a.toNat / 4 < 64),
    base64Value_base64Digit _ (by omega : a.toNat % 4 * 16 + b.toNat / 16 < 64),
    base64Value_base64Digit _ hthird, base64Value_base64Digit _ hfourth,
    base64Digit_ne_pad _ hthird, base64Digit_ne_pad _ hfourth, if_false]
  cases unbase64 (base64 rest) <;> rfl

/-- Bytes are read back from their base64 text. -/
theorem unbase64_base64 (bytes : List UInt8) : unbase64 (base64 bytes) = some bytes := by
  induction bytes using base64.induct with
  | case1 => rfl
  | case2 a => exact unbase64_one a
  | case3 a b => exact unbase64_two a b
  | case4 a b c rest ih => rw [unbase64_group, ih, Option.map_some]

theorem base64_injective : Function.Injective base64 := by
  intro bytes bytes' h
  have hread : some bytes = some bytes' := by rw [← unbase64_base64, h, unbase64_base64]
  exact Option.some.inj hread

end CloudDirector.Encoding
