import SealingProxy.Text.Split
/-! # Arguments

The program takes four settings and three switches, each by a long name or by a letter. A setting
may be given once, its value in the same argument or in the next. Switches may share an argument.
The first argument that ends the parsing decides how it ends. -/

namespace SealingProxy

structure Arguments where
  config : Option String := none
  listen : Option String := none
  endpoint : Option String := none
  keyMapping : Option String := none
  verbose : Bool := false
  deriving DecidableEq, Repr

inductive Switch where
  | config | listen | endpoint | keyMapping
  | verbose | version | help
  deriving DecidableEq, Repr

inductive Stop where
  /-- The version is asked for. -/
  | version
  /-- Help is asked for. -/
  | help
  /-- The arguments are wrong. -/
  | misuse
  deriving DecidableEq, Repr

namespace Switch

def ofName? : String → Option Switch
  | "config" => some config
  | "listen" => some listen
  | "upstream" => some endpoint
  | "key-mapping" => some keyMapping
  | "verbose" => some verbose
  | "version" => some version
  | "help" => some help
  | _ => none

def ofLetter? : Char → Option Switch
  | 'c' => some config
  | 'l' => some listen
  | 'u' => some endpoint
  | 'k' => some keyMapping
  | 'v' => some verbose
  | 'V' => some version
  | 'h' => some help
  | _ => none

def takesValue : Switch → Bool
  | config | listen | endpoint | keyMapping => true
  | verbose | version | help => false

end Switch

namespace Arguments
open Text

def fill (old : Option String) (value : String) : Except Stop (Option String) :=
  if old.isNone then .ok (some value) else .error .misuse

def give (a : Arguments) (s : Switch) (value : String) : Except Stop Arguments :=
  match s with
  | .config => (fill a.config value).map fun v => { a with config := v }
  | .listen => (fill a.listen value).map fun v => { a with listen := v }
  | .endpoint => (fill a.endpoint value).map fun v => { a with endpoint := v }
  | .keyMapping => (fill a.keyMapping value).map fun v => { a with keyMapping := v }
  | .verbose | .version | .help => .error .misuse

def turnOn (a : Arguments) : Switch → Except Stop Arguments
  | .verbose => if a.verbose then .error .misuse else .ok { a with verbose := true }
  | .version => .error .version
  | .help => .error .help
  | .config | .listen | .endpoint | .keyMapping => .error .misuse

/-- The arguments so far, and the setting whose value has to come next. -/
abbrev Progress := Arguments × Option Switch

/-- Reads letters after a dash. What follows the letter of a setting is its value, an equals sign
in between aside. -/
def letters (a : Arguments) : List Char → Except Stop Progress
  | [] => .ok (a, none)
  | c :: rest =>
    match Switch.ofLetter? c with
    | none => .error .misuse
    | some s =>
      if s.takesValue then
        match rest with
        | [] => .ok (a, some s)
        | '=' :: value => (a.give s (String.ofList value)).map (·, none)
        | value => (a.give s (String.ofList value)).map (·, none)
      else
        match a.turnOn s with
        | .error stop => .error stop
        | .ok a => letters a rest

/-- Reads a name after two dashes. What follows an equals sign is its value. -/
def name (a : Arguments) (text : List Char) : Except Stop Progress :=
  match cut '=' text with
  | some (n, value) =>
    match Switch.ofName? (String.ofList n) with
    | none => .error .misuse
    | some s => (a.give s (String.ofList value)).map (·, none)
  | none =>
    match Switch.ofName? (String.ofList text) with
    | none => .error .misuse
    | some s => if s.takesValue then .ok (a, some s) else (a.turnOn s).map (·, none)

/-- Reads one argument. A value starts with no dash, unless it is a dash and nothing else. Two
dashes alone end the settings, after which nothing may stand. -/
def step (p : Progress) (arg : List Char) : Except Stop Progress :=
  match p, arg with
  | (a, none), '-' :: '-' :: text => a.name text
  | (a, none), '-' :: c :: text => a.letters (c :: text)
  | (_, none), _ => .error .misuse
  | (_, some _), '-' :: _ :: _ => .error .misuse
  | (a, some s), value => (a.give s (String.ofList value)).map (·, none)

def read (p : Progress) : List String → Except Stop Progress
  | [] => .ok p
  | arg :: args =>
    if arg = "--" then (if p.2.isNone ∧ args.isEmpty then .ok p else .error .misuse)
    else
      match step p arg.toList with
      | .error stop => .error stop
      | .ok p => read p args

/-- Reads a command line. No setting may be left without its value. -/
def parse (args : List String) : Except Stop Arguments :=
  match read ({}, none) args with
  | .error stop => .error stop
  | .ok (a, none) => .ok a
  | .ok (_, some _) => .error .misuse

end Arguments
end SealingProxy
