import SealingProxy.Json.Token
import SealingProxy.Text.Utf8
/-! # Writing JSON

A value is written as its tokens, one after the other, without blanks. -/

namespace SealingProxy.Json

mutual

def tokens : Json → List JsonToken
  | null => [.null]
  | bool b => [.bool b]
  | number n => [.number n]
  | string s => [.string s]
  | array items => .openArray :: (itemTokens items ++ [.closeArray])
  | object members => .openObject :: (memberTokens members ++ [.closeObject])

def itemTokens : List Json → List JsonToken
  | [] => []
  | [v] => tokens v
  | v :: w :: vs => tokens v ++ .comma :: itemTokens (w :: vs)

def memberTokens : List (String × Json) → List JsonToken
  | [] => []
  | [(n, v)] => .string n :: .colon :: tokens v
  | (n, v) :: m :: ms => .string n :: .colon :: (tokens v ++ .comma :: memberTokens (m :: ms))

end

def chars (v : Json) : List Char :=
  v.tokens.flatMap JsonToken.text

def text (v : Json) : String :=
  String.ofList v.chars

def write (v : Json) : Bytes :=
  Text.Utf8.encode v.chars

end SealingProxy.Json
