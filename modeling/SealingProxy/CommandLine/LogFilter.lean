import SealingProxy.CommandLine.LogDirective
/-! # Which lines are logged

A filter is a list of directives with commas between them. Of the directives that apply to a line
the most specific one decides, and the last of these if there are several. -/

namespace SealingProxy

structure LogFilter where
  directives : List LogDirective
  deriving DecidableEq, Repr

namespace LogFilter
open Text

def texts (s : String) : List (List Char) :=
  (pieces ',' s.toList).filter (!·.isEmpty)

/-- Reads a filter. All of its directives have to be readable. -/
def read (s : String) : Except LogDirective.Fault LogFilter := do
  return ⟨← (texts s).mapM LogDirective.read⟩

/-- Reads those directives of a filter that are not malformed. -/
def readSome (s : String) : Except LogDirective.Fault LogFilter := do
  let ds ← (texts s).mapM fun t =>
    match LogDirective.read t with
    | .ok d => .ok [d]
    | .error .malformed => .ok []
    | .error e => .error e
  return ⟨ds.flatten⟩

def deciding? (f : LogFilter) (l : LogLine) : Option LogDirective :=
  (f.directives.filter (·.applies l)).foldl (fun best d =>
    match best with
    | none => some d
    | some b => if d.isSpecific b then some d else some b) none

def allows (f : LogFilter) (l : LogLine) : Bool :=
  match f.deciding? l with
  | none => false
  | some d => decide (l.level.rank ≤ d.verbosity)

end LogFilter
end SealingProxy
