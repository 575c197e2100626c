import BuildBench.CommandLine.Running

/-!
# Questions

Commands that answer a question about settings or a file and start nothing: `cache-key`, `size` and
`should-run`.
-/

namespace BuildBench.CommandLine

open BuildBench.Action

def cacheKeyCommand : CommandSpec where
  path := [programName, "cache-key"]
  about := "Print the cache key derived from the lock files."
  options := [profileOption, workdirOption]

/-- The command `cache-key`. -/
def performCacheKey (profile : Option PathName) (workdir : Value) : Guarded Int := do
  let s ← settingsOf profile [("workdir", workdir)]
  let cache ← (ofResult s.cache.given : Action _)
  let digest ← Cache.hashFiles s.workdir cache.lockFiles
  let label := Cache.systemLabel (← get).systemName
  let key ← (ofResult (Cache.key label cache.keyStart digest) : Action _)
  stdout (key ++ "\n")
  return 0

def sizeCommand : CommandSpec where
  path := [programName, "size"]
  about := "Print the size of BINARY."
  arguments := [⟨"BINARY", .existingFile⟩]

/-- The command `size`. -/
def performSize (binary : PathName) : Guarded Int := do
  stdout (Timing.sizeLine (← Measurement.measureSize binary) ++ "\n")
  return 0

def shouldRunCommand : CommandSpec where
  path := [programName, "should-run"]
  about := "Exit with 0 if the event triggers the pipeline, with 1 otherwise."
  options := [profileOption] ++ eventOptions true

/-- The command `should-run`. -/
def performShouldRun (profile : Option PathName) (event : TriggerEvent) : Guarded Int := do
  let s ← settingsOf profile []
  let triggers ← (ofResult s.triggers.given : Action _)
  if event.starts triggers then
    stdout "yes\n"
    return 0
  else
    stdout "no\n"
    return 1

end BuildBench.CommandLine
