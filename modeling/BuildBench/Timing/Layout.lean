import BuildBench.Timing.Summary
import BuildBench.Text.Lines

/-!
# Timings as text

A duration is shown with one decimal place in a unit that fits it; in a summary all durations share
the unit that fits the mean.
-/

namespace BuildBench.Timing

/-- A unit of time: its sign, and how many of it make a second. -/
structure TimeUnit where
  sign : String
  perSecond : Float

def TimeUnit.fitting (seconds : Float) : TimeUnit :=
  if seconds < 1e-3 then ⟨"µs", 1e6⟩ else if seconds < 1.0 then ⟨"ms", 1e3⟩ else ⟨"s", 1.0⟩

/-- A duration in some unit. -/
def TimeUnit.show (u : TimeUnit) (seconds : Float) : String :=
  Decimal.fixed 1 (seconds * u.perSecond) ++ " " ++ u.sign

/-- A duration in the unit that fits it. -/
def duration (seconds : Float) : String := (TimeUnit.fitting seconds).show seconds

def outlierWarning : String :=
  "  Warning: Statistical outliers were detected. Consider re-running this " ++
    "benchmark on a quiet system without any interferences from other programs."

/-- A summary in three lines, and a warning if there are outliers. -/
def layOut (s : TimingSummary) (index : Int) : Except Fault String := do
  let u := TimeUnit.fitting s.mean
  let outliers ← s.hasOutliers
  let lines := [
    "Benchmark " ++ intText index ++ ": " ++ s.command.display,
    "  Time (mean ± σ):     " ++ Text.padStart 9 (u.show s.mean) ++ " ± " ++
      Text.padStart 8 (u.show s.stddev) ++ "    [User: " ++ u.show s.user ++ ", System: " ++
      u.show s.system ++ "]",
    "  Range (min … max):   " ++ Text.padStart 9 (u.show s.least) ++ " … " ++
      Text.padStart 8 (u.show s.greatest) ++ "    " ++ toString s.runs ++ " runs"]
  return "\n".intercalate (lines ++ if outliers then ["", outlierWarning] else [])

/-- The line that tells the size of a program. -/
def sizeLine (size : Int) : String := "Binary is " ++ intText size ++ " bytes"

end BuildBench.Timing
