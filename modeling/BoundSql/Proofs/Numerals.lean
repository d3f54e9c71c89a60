import BoundSql.Value.Literal
/-!
# Numerals — written digits are read back

The decimal digits of a number stand for it (`Decimal.ofDigits?_toDigits`) and begin with a zero for zero alone; so an
integer is read back from its digits and its sign (`Decimal.toInt?_ofInt`), and a 64-bit integer from its number
(`Value.ofInt?_toInt`).  Two hexadecimal digits give back their byte (`Text.bytes?_hex`).
-/
namespace BoundSql

namespace Decimal

/-- The number that decimal digits stand for, if there is a digit and nothing else. -/
def ofDigits? (s : List Char) : Option Nat :=
  if s ≠ [] ∧ s.all Char.isDigit = true then some (Nat.ofDigitChars 10 s 0) else none

/-- The integer that decimal digits stand for, perhaps after a minus sign. -/
def toInt? : List Char → Option Int
  | '-' :: s => (ofDigits? s).map fun n => -(n : Int)
  | s => (ofDigits? s).map fun n => (n : Int)

theorem isDigit_toDigits (n : Nat) : ∀ c ∈ Nat.toDigits 10 n, c.isDigit = true :=
  fun _ hc => Nat.isDigit_of_mem_toDigits (by decide) (by decide) hc

theorem ofDigits?_toDigits (n : Nat) : ofDigits? (Nat.toDigits 10 n) = some n := by
  unfold ofDigits?
  rw [if_pos ⟨Nat.toDigits_ne_nil, List.all_eq_true.2 (isDigit_toDigits n)⟩, Nat.ofDigitChars_ten_toDigits]

/-- Only zero is written with a zero in front. -/
theorem head?_toDigits {n : Nat} (h : n ≠ 0) : (Nat.toDigits 10 n).head? ≠ some '0' := by
  induction n using Nat.strongRecOn with
  | ind n ih =>
    rw [Nat.toDigits_eq_if (by decide)]
    split
    · simp [h]
    · have hne : (Nat.toDigits 10 (n / 10)).head? ≠ none := by simp [Nat.toDigits_ne_nil]
      rw [List.head?_append, Option.or_of_isSome (Option.isSome_iff_ne_none.2 hne)]
      exact ih (n / 10) (by omega) (by omega)

theorem toInt?_of_digits {s : List Char} (h : ∀ c ∈ s, c.isDigit = true) :
    toInt? s = (ofDigits? s).map fun n => (n : Int) := by
  unfold toInt?
  split
  · rename_i s
    exact absurd (h '-' (by simp)) (by decide)
  · rfl

theorem mem_ofInt {n : Int} {c : Char} (h : c ∈ ofInt n) : c = '-' ∨ c.isDigit = true := by
  cases n with
  | ofNat n => exact .inr (isDigit_toDigits n c h)
  | negSucc n =>
    rcases List.mem_cons.1 h with rfl | hdigit
    · exact .inl rfl
    · exact .inr (isDigit_toDigits _ c hdigit)

theorem toInt?_ofInt (n : Int) : toInt? (ofInt n) = some n := by
  cases n with
  | ofNat n =>
    rw [ofInt, toInt?_of_digits (isDigit_toDigits n), ofDigits?_toDigits]
    rfl
  | negSucc n =>
    rw [ofInt, toInt?, ofDigits?_toDigits]
    rfl

end Decimal

/-- Reals are the values whose written form is rounded; all others are read back. -/
def Value.isReal : Value → Bool
  | real _ => true
  | _ => false

/-- The integer value with a number, if it has one. -/
def Value.ofInt? (n : Int) : Option Value :=
  if Int64.minValue.toInt ≤ n ∧ n ≤ Int64.maxValue.toInt then some (.integer (.ofInt n)) else none

theorem Value.ofInt?_toInt (i : Int64) : ofInt? i.toInt = some (.integer i) := by
  unfold ofInt?
  rw [if_pos ⟨i.minValue_le_toInt, i.toInt_le⟩, Int64.ofInt_toInt]

namespace Text

/-- The number that an upper-case hexadecimal digit stands for. -/
def hexValue? (c : Char) : Option Nat :=
  if '0' ≤ c ∧ c ≤ '9' then some (c.toNat - '0'.toNat)
  else if 'A' ≤ c ∧ c ≤ 'F' then some (c.toNat - 'A'.toNat + 10)
  else none

/-- The bytes that pairs of upper-case hexadecimal digits stand for. -/
def bytes? : List Char → Option (List UInt8)
  | [] => some []
  | high :: low :: s => do
    let h ← hexValue? high
    let l ← hexValue? low
    let bytes ← bytes? s
    return .ofNat (16 * h + l) :: bytes
  | _ => none

theorem hexValue?_hexDigit : ∀ n < 16, hexValue? (hexDigit n) = some n := by
  decide

theorem bytes?_hex (bytes : List UInt8) : bytes? (hex bytes) = some bytes := by
  induction bytes with
  | nil => rfl
  | cons b bytes ih =>
    have hb : b.toNat < 256 := b.toNat_lt
    have hhigh := hexValue?_hexDigit (b.toNat / 16) (by omega)
    have hlow := hexValue?_hexDigit (b.toNat % 16) (by omega)
    have hbyte : 16 * (b.toNat / 16) + b.toNat % 16 = b.toNat := by omega
    show bytes? (hexDigit (b.toNat / 16) :: hexDigit (b.toNat % 16) :: hex bytes) = _
    simp only [bytes?, hhigh, hlow, ih, Option.bind_eq_bind, Option.bind_some, hbyte, UInt8.ofNat_toNat]
    rfl

end Text
end BoundSql
