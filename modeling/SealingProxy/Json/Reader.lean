import SealingProxy.Json.Token
import SealingProxy.Text.Utf8
/-! # Reading JSON

The tokens of a text are read one by one. The reader keeps the containers that are still open,
innermost first, and what may come next. Two rules are parameters: how a member is added to an
object, and how many containers may be open at once. Unless said otherwise, a name that occurs
twice keeps its first place and its last value, and 127 containers may be open. -/

namespace SealingProxy.Json

/-- A container that is still open, with what it holds so far. An object waits for the value of
its last name. -/
inductive Frame where
  /-- An array, its items in reverse. -/
  | array (items : List Json)
  | object (members : Fields Json) (name : String)

/-- What may come next, and the open containers around it. -/
inductive Reader where
  /-- A value. -/
  | value (frames : List Frame)
  /-- A value, or the end of the array just opened. -/
  | firstItem (frames : List Frame)
  /-- A name, or the end of the object just opened. -/
  | firstName (frames : List Frame)
  /-- A name of an object. -/
  | name (members : Fields Json) (frames : List Frame)
  /-- The colon after a name. -/
  | colon (members : Fields Json) (name : String) (frames : List Frame)
  /-- A comma, or the end of an array. -/
  | afterItem (items : List Json) (frames : List Frame)
  /-- A comma, or the end of an object. -/
  | afterMember (members : Fields Json) (frames : List Frame)
  /-- Nothing more. -/
  | done (v : Json)

namespace Reader

structure Rules where
  /-- Adds a member to those of an object. -/
  add : Fields Json → String → Json → Fields Json := Fields.insert
  /-- How many containers may be open at once. -/
  maxOpen : Nat := 127

variable (rules : Rules)

/-- A value is complete and goes into the innermost open container. -/
def deliver (v : Json) : List Frame → Reader
  | [] => .done v
  | .array items :: fs => .afterItem (v :: items) fs
  | .object members n :: fs => .afterMember (rules.add members n v) fs

def start (fs : List Frame) : JsonToken → Option Reader
  | .null => some (deliver rules .null fs)
  | .bool b => some (deliver rules (.bool b) fs)
  | .number n => some (deliver rules (.number n) fs)
  | .string s => some (deliver rules (.string s) fs)
  | .openArray => if fs.length < rules.maxOpen then some (.firstItem fs) else none
  | .openObject => if fs.length < rules.maxOpen then some (.firstName fs) else none
  | _ => none

def step : Reader → JsonToken → Option Reader
  | .value fs, t => start rules fs t
  | .firstItem fs, .closeArray => some (deliver rules (.array []) fs)
  | .firstItem fs, t => start rules (.array [] :: fs) t
  | .firstName fs, .closeObject => some (deliver rules (.object []) fs)
  | .firstName fs, .string n => some (.colon [] n fs)
  | .name ms fs, .string n => some (.colon ms n fs)
  | .colon ms n fs, .colon => some (.value (.object ms n :: fs))
  | .afterItem xs fs, .comma => some (.value (.array xs :: fs))
  | .afterItem xs fs, .closeArray => some (deliver rules (.array xs.reverse) fs)
  | .afterMember ms fs, .comma => some (.name ms fs)
  | .afterMember ms fs, .closeObject => some (deliver rules (.object ms) fs)
  | _, _ => none

def run (r : Reader) : List JsonToken → Option Reader
  | [] => some r
  | t :: ts => (step rules r t).bind (run · ts)

def result? : Reader → Option Json
  | .done v => some v
  | _ => none

end Reader

def ofCharsWith? (rules : Reader.Rules) (s : List Char) : Option Json :=
  ((JsonToken.read? s).bind (Reader.run rules (.value []) ·)).bind Reader.result?

def ofChars? (s : List Char) : Option Json :=
  ofCharsWith? {} s

def read? (s : Bytes) : Option Json :=
  (Text.Utf8.decode? s).bind ofChars?

/-- The value of the octets of a text, all members kept even where a name is repeated. -/
def readRepeated? (s : Bytes) : Option Json :=
  (Text.Utf8.decode? s).bind (ofCharsWith? { add := fun members n v => members ++ [(n, v)] })

def unreadable : String := "not a JSON text"

end SealingProxy.Json
