import BuildBench.Run.Measurement

/-!
# Reports

A report lists the stages of a run up to the first one that failed, and what the run produced.
-/

namespace BuildBench

/-- How a stage ended. -/
structure StageResult where
  name : String
  ok : Bool
  exitCode : Int := 0
  seconds : Value := .float 0.0
  output : String := ""
  /-- The name of the kind of work that failed, if any did. -/
  failed : Option String := none
  detail : String := ""

/-- The stages of a run, in order. -/
inductive Stage where
  | prepare
  | install
  | build
  | measure
  deriving Repr, DecidableEq

def Stage.all : List Stage := [.prepare, .install, .build, .measure]

def Stage.name : Stage → String
  | .prepare => "prepare"
  | .install => "install"
  | .build => "build"
  | .measure => "measure"

structure Report where
  name : Value
  stages : List StageResult := []
  cacheKey : String := ""
  cacheHit : Bool := false
  revision : Option String := none
  artifact : Option PathName := none
  measurement : Option Measurement := none

namespace Report

/-- A run succeeded when all stages are there and all of them succeeded. -/
def ok (r : Report) : Bool := r.stages.length = Stage.all.length && r.stages.all (·.ok)

def failedStage (r : Report) : Option StageResult := r.stages.find? (!·.ok)

/-- The exit code of a run: that of the process behind the failure if it is positive, else one. -/
def exitCode (r : Report) : Int :=
  match r.failedStage with
  | none => if r.ok then 0 else 1
  | some s => if 0 < s.exitCode then s.exitCode else 1

def textOrNull (s : Option String) : Value := (s.map .text).getD .null

end Report

/-- The result of a stage as it is reported. -/
def StageResult.toValue (s : StageResult) : Except Fault Value := do
  let seconds ← s.seconds.roundPlaces 3
  return Json.object [("name", .text s.name), ("ok", .bool s.ok), ("exit_code", .int s.exitCode),
    ("duration_s", seconds), ("error_kind", Report.textOrNull s.failed),
    ("detail", .text s.detail)]

/-- A report as a document. -/
def Report.toValue (r : Report) : Except Fault Value := do
  let stages ← r.stages.mapM StageResult.toValue
  return Json.object [("name", r.name), ("ok", .bool r.ok), ("exit_code", .int r.exitCode),
    ("cache_key", .text r.cacheKey), ("cache_hit", .bool r.cacheHit),
    ("revision", Report.textOrNull r.revision),
    ("artifact", Report.textOrNull (r.artifact.map PathName.display)),
    ("stages", .list stages),
    ("measurement", (r.measurement.map Measurement.toValue).getD .null)]

end BuildBench
