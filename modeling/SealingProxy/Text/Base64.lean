import SealingProxy.Bytes
/-! # Base64

Three octets are written as four characters of six bits. Padding fills the last four. -/

namespace SealingProxy.Text.Base64

def alphabet : List Char :=
  "ABCDEFGHIJKLMNOPQRSTUVWXYZabcdefghijklmnopqrstuvwxyz0123456789+/".toList

def digit (v : UInt8) : Char :=
  alphabet.getD (v.toNat % 64) '='

def encode : Bytes → List Char
  | [] => []
  | [a] => [digit (a >>> 2), digit ((a &&& 3) <<< 4), '=', '=']
  | [a, b] =>
    [digit (a >>> 2), digit ((a &&& 3) <<< 4 ||| b >>> 4), digit ((b &&& 15) <<< 2), '=']
  | a :: b :: c :: s =>
    digit (a >>> 2) :: digit ((a &&& 3) <<< 4 ||| b >>> 4) ::
      digit ((b &&& 15) <<< 2 ||| c >>> 6) :: digit (c &&& 63) :: encode s

def value? (c : Char) : Option UInt8 :=
  (alphabet.idxOf? c).map Nat.toUInt8

def decode? : List Char → Option Bytes
  | [] => some []
  | [a, b, '=', '='] =>
    match value? a, value? b with
    | some a, some b => some [a <<< 2 ||| b >>> 4]
    | _, _ => none
  | [a, b, c, '='] =>
    match value? a, value? b, value? c with
    | some a, some b, some c => some [a <<< 2 ||| b >>> 4, b <<< 4 ||| c >>> 2]
    | _, _, _ => none
  | a :: b :: c :: d :: s =>
    match value? a, value? b, value? c, value? d, decode? s with
    | some a, some b, some c, some d, some r =>
      some ((a <<< 2 ||| b >>> 4) :: (b <<< 4 ||| c >>> 2) :: (c <<< 6 ||| d) :: r)
    | _, _, _, _, _ => none
  | _ => none

end SealingProxy.Text.Base64
