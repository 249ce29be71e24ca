import SealingProxy.Bytes
/-! # UTF-8

Reading goes character by character. `next` takes one character off a byte string, or one maximal
ill-formed piece: the longest start of a character that the following byte does not continue. The
strict reader refuses such pieces, the lenient one shows each as U+FFFD. -/

namespace SealingProxy.Text.Utf8

/-- What the first byte of a character announces: the bits it holds, how many bytes follow, and
the bounds of the first of those. -/
structure Lead where
  bits : Nat
  follow : Nat
  low : UInt8 := 0x80
  high : UInt8 := 0xBF

/-- The announcement of a byte that can start a character of more than one byte. The bounds leave
out overlong forms, surrogates, and everything above U+10FFFF. -/
def lead? (b : UInt8) : Option Lead :=
  if b < 0xC2 then none
  else if b < 0xE0 then some ⟨b.toNat - 0xC0, 1, 0x80, 0xBF⟩
  else if b < 0xF0 then
    some ⟨b.toNat - 0xE0, 2, if b = 0xE0 then 0xA0 else 0x80, if b = 0xED then 0x9F else 0xBF⟩
  else if b < 0xF5 then
    some ⟨b.toNat - 0xF0, 3, if b = 0xF0 then 0x90 else 0x80, if b = 0xF4 then 0x8F else 0xBF⟩
  else none

/-- The code point finished by `n` more bytes, the first within the given bounds, and the bytes
after it. Without a code point the rest starts at the byte that does not fit. -/
def follow (bits : Nat) : Nat → UInt8 → UInt8 → Bytes → Option Nat × Bytes
  | 0, _, _, s => (some bits, s)
  | _ + 1, _, _, [] => (none, [])
  | n + 1, low, high, b :: s =>
    if low ≤ b ∧ b ≤ high then follow (bits * 64 + (b.toNat - 0x80)) n 0x80 0xBF s
    else (none, b :: s)

/-- The first character of the bytes `b :: s`, or `none` for an ill-formed piece, and the rest. -/
def next (b : UInt8) (s : Bytes) : Option Char × Bytes :=
  if b < 0x80 then (some (Char.ofNat b.toNat), s)
  else match lead? b with
    | none => (none, s)
    | some l =>
      let r := follow l.bits l.follow l.low l.high s
      (r.1.map Char.ofNat, r.2)

theorem length_follow_le (bits n : Nat) (low high : UInt8) (s : Bytes) :
    (follow bits n low high s).2.length ≤ s.length := by
  fun_induction follow bits n low high s with
  | case1 => simp
  | case2 => simp
  | case3 _ _ _ _ b s _ ih => exact Nat.le_succ_of_le ih
  | case4 => simp

theorem length_next_le (b : UInt8) (s : Bytes) : (next b s).2.length ≤ s.length := by
  unfold next
  split
  · simp
  · split
    · simp
    · exact length_follow_le ..

/-- The characters of a byte string, `none` standing for each ill-formed piece. -/
def read : Bytes → List (Option Char)
  | [] => []
  | b :: s => (next b s).1 :: read (next b s).2
termination_by s => s.length
decreasing_by exact Nat.lt_succ_of_le (length_next_le b s)

def decode? (s : Bytes) : Option (List Char) :=
  (read s).mapM id

/-- The text of any bytes, ill-formed pieces shown as the replacement character. -/
def decodeLossy (s : Bytes) : List Char :=
  (read s).map (·.getD '\uFFFD')

def encode (s : List Char) : Bytes :=
  s.flatMap String.utf8EncodeChar

def octets : List Char → Nat
  | [] => 0
  | c :: s => c.utf8Size + octets s

/-- The text after its first `n` octets, unless these end within a character. -/
def dropOctets? (n : Nat) : List Char → Option (List Char)
  | [] => if n = 0 then some [] else none
  | c :: s =>
    if n = 0 then some (c :: s)
    else if c.utf8Size ≤ n then dropOctets? (n - c.utf8Size) s
    else none

/-- The text of the first `n` octets, unless these end within a character. -/
def takeOctets? (n : Nat) : List Char → Option (List Char)
  | [] => if n = 0 then some [] else none
  | c :: s =>
    if n = 0 then some []
    else if c.utf8Size ≤ n then (takeOctets? (n - c.utf8Size) s).map (c :: ·)
    else none

theorem dropOctets?_octets_append (s t : List Char) : dropOctets? (octets s) (s ++ t) = some t := by
  induction s with
  | nil => cases t <;> rfl
  | cons c s ih =>
    have := c.utf8Size_pos
    rw [octets, List.cons_append, dropOctets?, if_neg (by omega), if_pos (by omega),
      Nat.add_sub_cancel_left, ih]

theorem takeOctets?_octets_append (s t : List Char) : takeOctets? (octets s) (s ++ t) = some s := by
  induction s with
  | nil => cases t <;> rfl
  | cons c s ih =>
    have := c.utf8Size_pos
    rw [octets, List.cons_append, takeOctets?, if_neg (by omega), if_pos (by omega),
      Nat.add_sub_cancel_left, ih]
    rfl

end SealingProxy.Text.Utf8

namespace SealingProxy

def utf8 (s : String) : Bytes :=
  Text.Utf8.encode s.toList

end SealingProxy
