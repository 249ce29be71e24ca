import SealingProxy.CommandLine.Run
/-! # The program

Gathers what a run needs from the world, and prints what the run says. The network is not part of
this library: no address counts as free to listen on. -/

namespace SealingProxy.Main

def gather {α : Type} (names : List String) (find : String → IO (Option α)) :
    IO (String → Option α) := do
  let found ← names.mapM fun n => do return (n, ← find n)
  return fun name => (found.lookup name).join

def read? (name : String) : IO (Option Bytes) := do
  try
    return some (← IO.FS.readBinFile name).toList
  catch _ => return none

end SealingProxy.Main

open SealingProxy SealingProxy.Main

/-- The program reads the clock and chance once, before the run. -/
def main (args : List String) : IO UInt32 := do
  let environment ← gather Run.variableNames fun n => IO.getEnv n
  let named := ((Arguments.parse args).toOption.bind (·.config)).toList
  let content ← gather (named ++ Config.files environment) read?
  let seed ← IO.getRandomBytes 32
  let elapsed ← IO.monoMsNow
  let run := Run.ofArguments
    { now := ⟨elapsed / 1000, elapsed % 1000 * 1000000⟩
      draw := fun keyId => .ofSeed (seed.toList ++ utf8 keyId)
      openDirectory := fun _ => .ok {}
      environment, content
      buildTime := "unknown"
      isFree := fun _ => false } args
  for line in run.log do
    IO.println (line.level.label ++ " " ++ line.source ++ ": " ++ line.shown)
  for line in run.printed do IO.println line
  match run with
  | .failed _ e => IO.eprintln ("Error: " ++ e.message)
  | .stopped .misuse => IO.eprintln ("error: wrong arguments, see " ++ Run.programName ++ " --help")
  | _ => pure ()
  return run.exitCode.toUInt32
