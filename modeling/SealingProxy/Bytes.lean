/-! # Byte strings

Bodies, header values and ciphertexts are lists of bytes. This module holds the words for cutting
them into lines and for the few octets that framing gives a meaning. -/

namespace SealingProxy

abbrev Bytes := List UInt8

namespace Bytes

def lineFeed : UInt8 := 10

/-- Carriage return, dropped where it stands before a line feed. -/
def carriageReturn : UInt8 := 13

/-- The big-endian bytes of a number below `2 ^ 32`. -/
def ofUInt32 (n : UInt32) : Bytes :=
  [(n >>> 24).toUInt8, (n >>> 16).toUInt8, (n >>> 8).toUInt8, n.toUInt8]

/-- The little-endian bytes of a number below `2 ^ 32`. -/
def ofUInt32Little (n : UInt32) : Bytes :=
  (ofUInt32 n).reverse

def ofUInt64 (n : UInt64) : Bytes :=
  ofUInt32 (n >>> 32).toUInt32 ++ ofUInt32 n.toUInt32

/-- The number that at most four big-endian bytes denote. -/
def toUInt32 (b : Bytes) : UInt32 :=
  b.foldl (fun n d => n <<< 8 ||| d.toUInt32) 0

def toUInt64 (b : Bytes) : UInt64 :=
  b.foldl (fun n d => n <<< 8 ||| d.toUInt64) 0

/-- The number that big-endian bytes denote. -/
def toNat (b : Bytes) : Nat :=
  b.foldl (fun n d => n * 256 + d.toNat) 0

/-- The bytes in groups of `n`, the last one possibly shorter. -/
def groups (n : Nat) (s : Bytes) : List Bytes :=
  if n = 0 ∨ s.isEmpty then [] else s.take n :: groups n (s.drop n)
termination_by s.length
decreasing_by
  simp only [List.isEmpty_iff, ← List.length_eq_zero_iff] at *
  simp only [List.length_drop]
  omega

def afterLine (s : Bytes) : Option Bytes :=
  match s.dropWhile (· != lineFeed) with
  | [] => none
  | _ :: rest => some rest

/-- The bytes without one line break at their end. -/
def dropLineEnd (s : Bytes) : Bytes :=
  match s.reverse with
  | 10 :: 13 :: r => r.reverse
  | 10 :: r => r.reverse
  | _ => s

theorem length_lt_of_afterLine {s r : Bytes} (h : s.afterLine = some r) :
    r.length < s.length := by
  have hle := (s.dropWhile_suffix (· != lineFeed)).length_le
  unfold afterLine at h
  split at h
  · exact absurd h (by simp)
  · next heq =>
    cases h
    rw [heq] at hle
    exact Nat.lt_of_succ_le hle

end Bytes
end SealingProxy
