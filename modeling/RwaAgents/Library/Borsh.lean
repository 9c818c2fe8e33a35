import Mathlib.Algebra.Group.Int.Defs

/-!
# Borsh

The bytes of numbers, strings, options and enumerations in the Borsh format, with
their lengths.  A number has a fixed width, a string is preceded by its length and an
option by a tag.

`write` puts bytes into a buffer that does not grow.
-/

namespace Borsh

/-- The lowest bytes of a number, lowest first. -/
def littleEndian : ℕ → ℕ → List UInt8
  | 0, _ => []
  | width + 1, n => UInt8.ofNat n :: littleEndian width (n / 256)

def u16 (n : ℕ) : List UInt8 := littleEndian 2 n

def u32 (n : ℕ) : List UInt8 := littleEndian 4 n

def u64 (n : ℕ) : List UInt8 := littleEndian 8 n

/-- A negative number is counted from the top. -/
def i64 (n : ℤ) : List UInt8 := u64 (n % 2 ^ 64).toNat

def bool (b : Bool) : List UInt8 := [if b then 1 else 0]

/-- A variant without a payload. -/
def variant (index : ℕ) : List UInt8 := [UInt8.ofNat index]

/-- The bytes behind their length. -/
def string (s : String) : List UInt8 := u32 s.utf8ByteSize ++ s.toUTF8.data.toList

/-- A tag, and the value if there is one. -/
def option {α : Type*} (encode : α → List UInt8) : Option α → List UInt8
  | none => [0]
  | some a => 1 :: encode a

/-- Overwrite the start of a buffer, if the bytes fit. -/
def write (buffer bytes : List UInt8) : Option (List UInt8) :=
  if bytes.length ≤ buffer.length then some (bytes ++ buffer.drop bytes.length) else none

@[simp] theorem littleEndian_length (width n : ℕ) : (littleEndian width n).length = width := by
  induction width generalizing n with
  | zero => rfl
  | succ width ih => rw [littleEndian, List.length_cons, ih]

@[simp] theorem u16_length (n : ℕ) : (u16 n).length = 2 := littleEndian_length 2 n

@[simp] theorem u32_length (n : ℕ) : (u32 n).length = 4 := littleEndian_length 4 n

@[simp] theorem u64_length (n : ℕ) : (u64 n).length = 8 := littleEndian_length 8 n

@[simp] theorem i64_length (n : ℤ) : (i64 n).length = 8 := u64_length _

@[simp] theorem bool_length (b : Bool) : (bool b).length = 1 := rfl

@[simp] theorem variant_length (index : ℕ) : (variant index).length = 1 := rfl

@[simp] theorem string_length (s : String) : (string s).length = 4 + s.utf8ByteSize := by
  rw [string, List.length_append, u32_length]
  rfl

/-- An option takes at most a byte more than a value. -/
theorem option_length_le {α : Type*} {encode : α → List UInt8} {n : ℕ}
    (h : ∀ a, (encode a).length ≤ n) (o : Option α) : (option encode o).length ≤ 1 + n := by
  cases o with
  | none => exact Nat.le_add_right 1 n
  | some a =>
      rw [option, List.length_cons, Nat.add_comm]
      exact Nat.add_le_add_left (h a) 1

/-- What is not longer than the buffer can be written. -/
theorem write_ne_none {buffer bytes : List UInt8} :
    write buffer bytes ≠ none ↔ bytes.length ≤ buffer.length := by
  rw [write]
  split
  · next hfits => exact iff_of_true (Option.some_ne_none _) hfits
  · next hfits => exact iff_of_false (fun hne => hne rfl) hfits

end Borsh
