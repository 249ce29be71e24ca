import SealingProxy.Text.Ascii
import SealingProxy.Text.Blank
import SealingProxy.Text.Split
import SealingProxy.Decimal.Unsigned
/-! # Boundaries of multipart bodies

The boundary of a body is a parameter of its media type. Single quotes in a media type count as
double ones, and quotes around the boundary are dropped. -/

namespace SealingProxy

inductive MultipartError where
  | notMultipart (contentType : String)
  | missingBoundary
  | emptyBoundary
  | missingDelimiter
  | unexpectedEnd
  | partCount (found : Nat)
  | invalidMetadata (reason : String)
  deriving DecidableEq, Repr

def MultipartError.message : MultipartError → String
  | notMultipart c => "upload requires a multipart Content-Type, got: " ++ c
  | missingBoundary => "Missing boundary in Content-Type"
  | emptyBoundary => "Empty boundary in Content-Type"
  | missingDelimiter => "body does not contain the boundary delimiter"
  | unexpectedEnd => "body ends before the closing delimiter"
  | partCount n => "expected exactly 2 parts, found " ++ Decimal.text n
  | invalidMetadata r => "first part is not a JSON object: " ++ r

namespace Boundary
open Text

def isBoundaryName (name : List Char) : Bool :=
  (trim name).map Char.toLower == "boundary".toList

/-- A value without quotes at either end. -/
def unquote (value : List Char) : List Char :=
  dropEndWhile (· == '"') (value.dropWhile (· == '"'))

def written? (params : List (List Char)) : Option (List Char) :=
  params.findSome? fun p =>
    match cut '=' p with
    | some (name, value) => if isBoundaryName name then some value else none
    | none => none

def ofContentType (contentType : String) : Except MultipartError String :=
  let params := pieces ';' (contentType.toList.map fun c => if c = '\'' then '"' else c)
  if "multipart/".toList.isPrefixOf ((trim (params.headD [])).map Char.toLower) then
    match written? params.tail with
    | none => .error .missingBoundary
    | some value =>
      let boundary := unquote (trim value)
      if boundary.isEmpty then .error .emptyBoundary else .ok (String.ofList boundary)
  else .error (.notMultipart contentType)

def contentType (boundary : String) : String :=
  "multipart/related; boundary=\"" ++ boundary ++ "\""

/-- The boundary of a body that the proxy composes, from a random number of nineteen digits. -/
def ofNumber (n : Nat) : String :=
  "===============" ++ Decimal.text n ++ "=="

end Boundary
end SealingProxy
