/-! # Lines of the log

A line tells what happens, how grave that is and which part of the program tells it. Where it is
shown, characters that terminals take for commands are written as escapes. -/

namespace SealingProxy

inductive LogLevel where
  | error | warn | info | debug | trace
  deriving DecidableEq, Repr

structure LogLine where
  level : LogLevel
  source : String
  text : String
  deriving DecidableEq, Repr

namespace LogLevel

/-- The least verbosity at which lines of a level are logged. -/
def rank : LogLevel → Nat
  | error => 1
  | warn => 2
  | info => 3
  | debug => 4
  | trace => 5

def label : LogLevel → String
  | error => "ERROR"
  | warn => "WARN"
  | info => "INFO"
  | debug => "DEBUG"
  | trace => "TRACE"

end LogLevel

namespace LogLine

/-- ASCII characters that terminals take for commands: bell, backspace, form feed, escape and
delete. Line ends and tabs are left alone. -/
def isCommand (c : Char) : Bool :=
  ['\x07', '\x08', '\x0c', '\x1b', '\x7f'].contains c

/-- A character as it is shown. The controls from U+0080 to U+009F are all escaped. -/
def shownChar (c : Char) : List Char :=
  if isCommand c then
    ['\\', 'x', Nat.digitChar (c.toNat / 16), Nat.digitChar (c.toNat % 16)]
  else if 0x80 ≤ c.toNat ∧ c.toNat ≤ 0x9F then
    "\\u\x7b".toList ++ (Nat.toDigits 16 c.toNat ++ ['\x7d'])
  else [c]

def shown (l : LogLine) : String :=
  String.ofList (l.text.toList.flatMap shownChar)

end LogLine
end SealingProxy
