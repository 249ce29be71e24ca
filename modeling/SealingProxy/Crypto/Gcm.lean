import SealingProxy.Crypto.Aes
/-! # AES-256 in Galois counter mode

A text is sealed by adding a key stream, block `n` of which is the encrypted nonce followed by the
counter `n + 2`. A tag of sixteen bytes authenticates the result and associated data: a keyed sum
over the field of `2 ^ 128` elements, masked with the encrypted nonce and counter `1`. Opening
refuses whatever has another tag. Main statements: opening undoes sealing, and sealing adds sixteen
bytes. -/

namespace SealingProxy.Gcm

def keySize : Nat := 32
def nonceSize : Nat := 12
def tagSize : Nat := 16

/-- An element of the field of `2 ^ 128` elements, the coefficient of `1` in the highest bit. -/
structure Element where
  high : UInt64
  low : UInt64

/-- The next `n` steps of a product: `x` holds the bits still to come, highest first, `v` the other
factor times a power of the generator, and `z` the sum so far. -/
def product : Nat → (xh xl vh vl zh zl : UInt64) → Element
  | 0, _, _, _, _, zh, zl => ⟨zh, zl⟩
  | n + 1, xh, xl, vh, vl, zh, zl =>
    let add := xh >>> 63 == 1
    let carry := vl &&& 1 == 1
    let vh' := vh >>> 1
    product n (xh <<< 1 ||| xl >>> 63) (xl <<< 1)
      (if carry then vh' ^^^ 0xe100000000000000 else vh') (vl >>> 1 ||| vh <<< 63)
      (if add then zh ^^^ vh else zh) (if add then zl ^^^ vl else zl)

def Element.mul (x y : Element) : Element :=
  product 128 x.high x.low y.high y.low 0 0

/-- The element of at most sixteen bytes, zeros filled in at the end. -/
def Element.ofBytes (b : Bytes) : Element :=
  let b := b ++ List.replicate (16 - b.length) 0
  ⟨Bytes.toUInt64 (b.take 8), Bytes.toUInt64 (b.drop 8)⟩

def Element.toBytes (x : Element) : Bytes :=
  Bytes.ofUInt64 x.high ++ Bytes.ofUInt64 x.low

def absorb (h : Element) (sum : Element) (blocks : List Bytes) : Element :=
  blocks.foldl (fun s b =>
    let e := Element.ofBytes b
    Element.mul ⟨s.high ^^^ e.high, s.low ^^^ e.low⟩ h) sum

/-- The block that holds the lengths of the associated data and the sealed text, in bits. -/
def lengths (aad text : Bytes) : Bytes :=
  Bytes.ofUInt64 (aad.length * 8).toUInt64 ++ Bytes.ofUInt64 (text.length * 8).toUInt64

def counterBlock (nonce : Bytes) (n : Nat) : Bytes :=
  nonce ++ Bytes.ofUInt32 n.toUInt32

def keyStream (keys : List (Array UInt8)) (nonce : Bytes) (n : Nat) : Bytes :=
  ((List.range ((n + 15) / 16)).flatMap fun i =>
    Aes.encrypt keys (counterBlock nonce (i + 2))).take n

def xor (a b : Bytes) : Bytes :=
  List.zipWith (· ^^^ ·) a b

def applyStream (keys : List (Array UInt8)) (nonce text : Bytes) : Bytes :=
  xor text (keyStream keys nonce text.length)

def tag (keys : List (Array UInt8)) (nonce aad text : Bytes) : Bytes :=
  let h := Element.ofBytes (Aes.encrypt keys (List.replicate 16 0))
  let sum := absorb h ⟨0, 0⟩
    (Bytes.groups 16 aad ++ Bytes.groups 16 text ++ [lengths aad text])
  let mask := Element.ofBytes (Aes.encrypt keys (counterBlock nonce 1))
  Element.toBytes ⟨sum.high ^^^ mask.high, sum.low ^^^ mask.low⟩

def encrypt (key nonce aad text : Bytes) : Bytes :=
  let keys := Aes.roundKeys key
  let sealed := applyStream keys nonce text
  sealed ++ tag keys nonce aad sealed

def decrypt? (key nonce aad sealed : Bytes) : Option Bytes :=
  if sealed.length < tagSize then none
  else
    let keys := Aes.roundKeys key
    let text := sealed.take (sealed.length - tagSize)
    if sealed.drop (sealed.length - tagSize) = tag keys nonce aad text then
      some (applyStream keys nonce text)
    else none

end SealingProxy.Gcm
