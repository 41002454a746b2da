import Subscription.Command

/-! The program: files and variables are looked up, and the outcome is printed. -/

open Subscription

/-- The octets of a file, if it can be read. -/
def readFile? (path : String) : IO (Option ByteArray) := do
  try
    return some (← IO.FS.readBinFile path)
  catch _ =>
    return none

/-- The files of a job, read before it runs. -/
def snapshot (job : Command.Job) : IO Files := do
  let paths := job.settings.toList ++ [job.catalog, job.filter]
  let contents ← paths.mapM fun path => return (path, ← readFile? path)
  return fun path => (contents.lookup path).join

def main (args : List String) : IO UInt32 := do
  let names := ["SIFT_CATALOG", "SIFT_CONFIG"]
  let values ← names.mapM fun name => return (name, ← IO.getEnv name)
  let env (name : String) : Option String := (values.lookup name).join
  let outcome ← match Command.parse env args with
    | .ok job => pure (job.run (← snapshot job))
    | .error stop => pure (stop.outcome env)
  IO.print outcome.stdout
  IO.eprint outcome.stderr
  return outcome.code.toUInt32
