/-!
# Byte strings

Readers over byte strings and the big-endian notation of natural numbers. A reader
takes a value off the front of its input and returns it with what is left; `none`
means that the input does not start with such a value.

Main statements: a number survives its big-endian notation (`number_bigEndian`) and bytes
survive being read as one (`bigEndian_number`), and `take?` splits its input without losing
a byte (`take?_eq_some_iff`).
-/

namespace GatewayClient

/-- A function that takes an `α` off the front of a list of symbols. -/
abbrev Reader (σ α : Type) : Type := List σ → Option (α × List σ)

namespace Reader

/-- Exactly `n` values in a row. -/
def times {σ α : Type} (read : Reader σ α) : Nat → Reader σ (List α)
  | 0, input => some ([], input)
  | n + 1, input => do
      let (first, rest) ← read input
      let (others, rest) ← times read n rest
      some (first :: others, rest)

/-- Two values in a row. -/
def both {σ α β : Type} (first : Reader σ α) (second : Reader σ β) : Reader σ (α × β) :=
  fun input => do
    let (a, rest) ← first input
    let (b, rest) ← second rest
    some ((a, b), rest)

@[simp] theorem times_zero {σ α : Type} (read : Reader σ α) (input : List σ) :
    read.times 0 input = some ([], input) := rfl

end Reader

namespace Bytes

/-- How many numbers there are of `width` bytes. -/
def capacity : (width : Nat) → Nat
  | 0 => 1
  | width + 1 => 256 * capacity width

/-- The `width` lowest base-256 digits of `n`, the most significant first. -/
def bigEndian : (width : Nat) → (n : Nat) → List UInt8
  | 0, _ => []
  | width + 1, n => UInt8.ofNat (n / capacity width) :: bigEndian width n

/-- The number whose base-256 digits are `bytes`. -/
def number (bytes : List UInt8) : Nat :=
  bytes.foldl (fun n b => n * 256 + b.toNat) 0

/-- The first `n` bytes, if there are that many. -/
def take? (n : Nat) : Reader UInt8 (List UInt8) := fun input =>
  if n ≤ input.length then some (input.take n, input.drop n) else none

/-- A big-endian number of the given width. -/
def number? (width : Nat) : Reader UInt8 Nat := fun input => do
  let (digits, rest) ← take? width input
  some (number digits, rest)

@[simp] theorem length_bigEndian (width n : Nat) : (bigEndian width n).length = width := by
  induction width with
  | zero => rfl
  | succ width ih => simp [bigEndian, ih]

theorem take?_eq_some_iff {n : Nat} {input taken rest : List UInt8} :
    take? n input = some (taken, rest) ↔ taken.length = n ∧ input = taken ++ rest := by
  unfold take?
  constructor
  · intro h
    split at h
    · case isTrue hn =>
      simp only [Option.some.injEq, Prod.mk.injEq] at h
      obtain ⟨rfl, rfl⟩ := h
      exact ⟨by simp [hn], by simp⟩
    · simp at h
  · rintro ⟨rfl, rfl⟩
    simp

@[simp] theorem take?_append (taken rest : List UInt8) :
    take? taken.length (taken ++ rest) = some (taken, rest) :=
  take?_eq_some_iff.2 ⟨rfl, rfl⟩

private theorem foldl_bigEndian (width n start : Nat) :
    (bigEndian width n).foldl (fun n b => n * 256 + b.toNat) start
      = start * capacity width + n % capacity width := by
  induction width generalizing start with
  | zero => simp [bigEndian, capacity, Nat.mod_one]
  | succ width ih =>
    have digit : (UInt8.ofNat (n / capacity width)).toNat = n / capacity width % 256 := by simp
    rw [bigEndian, List.foldl_cons, ih, digit, Nat.add_mul, capacity, Nat.mul_assoc,
      Nat.mul_comm 256 (capacity width), Nat.mod_mul, Nat.mul_comm (capacity width) (_ % 256),
      Nat.add_assoc, Nat.add_comm (n % capacity width)]

/-- Reading the digits of `n` gives back `n`, less what the width has no room for. -/
theorem number_bigEndian (width n : Nat) : number (bigEndian width n) = n % capacity width := by
  simp [number, foldl_bigEndian]

theorem number_lt (bytes : List UInt8) : number bytes < capacity bytes.length := by
  suffices h : ∀ start, bytes.foldl (fun n b => n * 256 + b.toNat) start
      < (start + 1) * capacity bytes.length by simpa [number] using h 0
  induction bytes with
  | nil => intro start; simp [capacity]
  | cons b bytes ih =>
    intro start
    have room : start * 256 + b.toNat + 1 ≤ (start + 1) * 256 := by
      have := b.toNat_lt
      omega
    refine Nat.lt_of_lt_of_le (ih _) ?_
    rw [List.length_cons, capacity, ← Nat.mul_assoc]
    exact Nat.mul_le_mul_right _ room

theorem capacity_pos (width : Nat) : 0 < capacity width := by
  induction width with
  | zero => decide
  | succ width ih => exact Nat.mul_pos (by decide) ih

private theorem foldl_digits (bytes : List UInt8) (start : Nat) :
    bytes.foldl (fun n b => n * 256 + b.toNat) start
      = start * capacity bytes.length + number bytes := by
  induction bytes generalizing start with
  | nil => simp [number, capacity]
  | cons b bytes ih =>
    rw [number, List.foldl_cons, ih, List.foldl_cons, ih (0 * 256 + b.toNat), List.length_cons,
      capacity, Nat.add_mul, Nat.add_mul, ← Nat.mul_assoc, Nat.zero_mul, Nat.zero_add, Nat.add_assoc]

theorem number_cons (b : UInt8) (bytes : List UInt8) :
    number (b :: bytes) = b.toNat * capacity bytes.length + number bytes := by
  simpa [number] using foldl_digits bytes (0 * 256 + b.toNat)

/-- What the width has no room for is not written. -/
theorem bigEndian_mul_add (width k n : Nat) :
    bigEndian width (k * capacity width + n) = bigEndian width n := by
  induction width generalizing k with
  | zero => rfl
  | succ width ih =>
    have hdigit : UInt8.ofNat (k * 256 + n / capacity width) = UInt8.ofNat (n / capacity width) := by
      apply UInt8.toNat_inj.mp
      simp only [UInt8.toNat_ofNat']
      omega
    rw [bigEndian, bigEndian, capacity, ← Nat.mul_assoc, ih, Nat.add_comm, Nat.mul_comm _ (capacity _),
      Nat.add_mul_div_left _ _ (capacity_pos width), Nat.add_comm, hdigit]

/-- The digits of the number that bytes stand for are the bytes. -/
@[simp] theorem bigEndian_number (bytes : List UInt8) :
    bigEndian bytes.length (number bytes) = bytes := by
  induction bytes with
  | nil => rfl
  | cons b bytes ih =>
    have hdigit : (b.toNat * capacity bytes.length + number bytes) / capacity bytes.length
        = b.toNat := by
      rw [Nat.add_comm, Nat.mul_comm, Nat.add_mul_div_left _ _ (capacity_pos _),
        Nat.div_eq_of_lt (number_lt bytes), Nat.zero_add]
    rw [number_cons, List.length_cons, bigEndian, bigEndian_mul_add, ih, hdigit, UInt8.ofNat_toNat]

theorem number?_bigEndian {width n : Nat} (h : n < capacity width) (rest : List UInt8) :
    number? width (bigEndian width n ++ rest) = some (n, rest) := by
  have := take?_append (bigEndian width n) rest
  rw [length_bigEndian] at this
  simp [number?, this, number_bigEndian, Nat.mod_eq_of_lt h]

end Bytes

end GatewayClient
