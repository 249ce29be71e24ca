import SealingProxy.Bytes
/-! # AES-256

The block cipher. Bytes are elements of the field of 256 elements, polynomials over two elements
modulo `x⁸ + x⁴ + x³ + x + 1`. A block is sixteen bytes, column by column. -/

namespace SealingProxy.Aes

/-- The product with `x`. -/
def twice (a : UInt8) : UInt8 :=
  if a &&& 0x80 = 0 then a <<< 1 else (a <<< 1) ^^^ 0x1b

def times (a b : UInt8) : UInt8 :=
  ((List.range 8).foldl (fun (p : UInt8 × UInt8) i =>
    (if (b >>> i.toUInt8) &&& 1 = 1 then p.1 ^^^ p.2 else p.1, twice p.2)) (0, a)).1

/-- The inverse of an element: its power `254`. Zero stays zero. -/
def inverse (a : UInt8) : UInt8 :=
  let square (x : UInt8) := times x x
  let a2 := square a
  let a4 := square a2
  let a8 := square a4
  let a16 := square a8
  let a32 := square a16
  let a64 := square a32
  [a4, a8, a16, a32, a64, square a64].foldl times a2

def rotateLeft (a n : UInt8) : UInt8 :=
  a <<< n ||| a >>> (8 - n)

/-- The substitute of a byte: its inverse, mixed with four rotations of itself. -/
def substitute (a : UInt8) : UInt8 :=
  let b := inverse a
  b ^^^ rotateLeft b 1 ^^^ rotateLeft b 2 ^^^ rotateLeft b 3 ^^^ rotateLeft b 4 ^^^ 0x63

def substitutes : Array UInt8 :=
  Array.ofFn fun i : Fin 256 => substitute i.val.toUInt8

def lookUp (a : UInt8) : UInt8 :=
  substitutes.getD a.toNat 0

def doubles : Array UInt8 :=
  Array.ofFn fun i : Fin 256 => twice i.val.toUInt8

def double (a : UInt8) : UInt8 :=
  doubles.getD a.toNat 0

def substituteWord (w : UInt32) : UInt32 :=
  Bytes.toUInt32 ((Bytes.ofUInt32 w).map lookUp)

def roundConstant (n : Nat) : UInt32 :=
  ((List.range (n - 1)).foldl (fun a _ => twice a) 1).toUInt32 <<< 24

def extend (w : Array UInt32) : Array UInt32 :=
  let i := w.size
  let last := w.getD (i - 1) 0
  let t :=
    if i % 8 = 0 then substituteWord (last <<< 8 ||| last >>> 24) ^^^ roundConstant (i / 8)
    else if i % 8 = 4 then substituteWord last
    else last
  w.push (w.getD (i - 8) 0 ^^^ t)

/-- The keys of the fifteen rounds of a key of thirty-two bytes, as arrays of sixteen bytes. -/
def roundKeys (key : Bytes) : List (Array UInt8) :=
  let words := (List.range 52).foldl (fun w _ => extend w)
    ((Bytes.groups 4 key).map Bytes.toUInt32).toArray
  (Bytes.groups 16 (words.toList.flatMap Bytes.ofUInt32)).map List.toArray

/-- The byte at row `r` and column `c` of a block, both counted round. -/
def cell (s : Array UInt8) (r c : Nat) : UInt8 :=
  s.getD (c % 4 * 4 + r % 4) 0

def addKey (s k : Array UInt8) : Array UInt8 :=
  s.zipWith (· ^^^ ·) k

/-- Substitutes the bytes and shifts each row by its number. -/
def shiftRows (s : Array UInt8) : Array UInt8 :=
  Array.ofFn fun i : Fin 16 => lookUp (cell s (i.val % 4) (i.val / 4 + i.val % 4))

/-- Multiplies each column with `3x³ + x² + x + 2`. -/
def mixColumns (s : Array UInt8) : Array UInt8 :=
  Array.ofFn fun i : Fin 16 =>
    let r := i.val % 4
    let c := i.val / 4
    let a := cell s r c
    let b := cell s (r + 1) c
    double (a ^^^ b) ^^^ b ^^^ cell s (r + 2) c ^^^ cell s (r + 3) c

/-- The rounds after the first key is added. The last one does not mix columns. -/
def rounds (s : Array UInt8) : List (Array UInt8) → Array UInt8
  | [] => s
  | [k] => addKey (shiftRows s) k
  | k :: ks => rounds (addKey (mixColumns (shiftRows s)) k) ks

def encrypt (keys : List (Array UInt8)) (block : Bytes) : Bytes :=
  match keys with
  | [] => block
  | k :: ks => (rounds (addKey block.toArray k) ks).toList

end SealingProxy.Aes
