import BuildBench.Timing.External
import BuildBench.Fixture.Fetch
import BuildBench.Text.Template
import BuildBench.Json.Writing

/-!
# Measurement

The fixture is fetched, the artifact is timed on it, and its size is taken, in this order.
-/

namespace BuildBench

open BuildBench.Action

structure Measurement where
  fixture : PathName
  timing : Option TimingSummary
  timingOutput : String
  binarySize : Int

namespace Measurement

def sizeLine (m : Measurement) : String := Timing.sizeLine m.binarySize

/-- A measurement as it is reported. -/
def toValue (m : Measurement) : Value :=
  Json.object [("fixture", .text m.fixture.display),
    ("timing", (m.timing.map fun t => Json.object t.members).getD .null),
    ("binary_size", .int m.binarySize)]

/-- A path as it is shown in a benchmark command: below the working directory with a dot in front,
elsewhere as it is. -/
def displayPath (path workdir : PathName) : Action String := do
  let relative : Action (Option String) := do
    let path ← Disk.realPath path
    let workdir ← Disk.realPath workdir
    return (workdir.below? path).map fun parts =>
      "./" ++ (PathName.mk .current parts).display
  let shown ← tryCatch relative fun f => if f.isInvalidValue then return none else throw f
  return shown.getD path.display

/-- The dot in front of a file right in the working directory is left out. -/
def withoutDot (shown : String) : String :=
  let name := String.ofList (shown.toList.drop 2)
  if Text.beginsWith "./" shown && !name.toList.contains '/' then name else shown

/-- The text of a template. -/
def templateText : Value → Except Fault String
  | .text s => .ok s
  | _ => .error .noSuchMember

/-- The benchmark command: its template with both paths filled in, quoted for a shell. -/
def benchmarkCommand (template : Value) (binary fixture workdir : PathName) : Action String := do
  let binary ← displayPath binary workdir
  let fixture ← displayPath fixture workdir
  let template ← ofResult (templateText template)
  ofResult (Text.Template.expand template
    [("binary", .text (Text.quoteWord binary)),
     ("fixture", .text (Text.quoteWord (withoutDot fixture)))])

/-- The size of a file in bytes. -/
def measureSize (path : PathName) : Action Nat :=
  tryCatch (Disk.size path) fun f =>
    if f.isOutside then
      throw (Timing.measureFailure ("Cannot stat " ++ path.display ++ ": " ++ f.message))
    else throw f

/-- Times the artifact on a fixture and takes its size. -/
def takeOn (file artifact : PathName) (sec : Section BenchmarkSettings) (workdir : PathName)
    (env : Environment) : Action Measurement := do
  let benchmark ← ofResult sec.given
  let command ← benchmarkCommand benchmark.command artifact file workdir
  let (timing, output) ← Timing.measure benchmark (.text command) workdir env
  let size ← measureSize artifact
  log .debug "measure" ("Artifact " ++ artifact.display ++ " is " ++ toString size ++ " bytes")
  return ⟨file, timing, output, size⟩

/-- Fetches the fixture and measures the artifact on it. -/
def take (artifact : PathName) (fixture : FixtureSettings) (sec : Section BenchmarkSettings)
    (workdir : PathName) (env : Environment) : Action Measurement := do
  let file ← Fixture.fetch fixture.url workdir fixture.timeout fixture.sha256
  takeOn file artifact sec workdir env

end Measurement

end BuildBench
