import BuildBench.Statistics.Description

/-!
# Timing summaries

How long repetitions of a command took, in seconds: the distribution of their wall-clock times, and
the mean CPU times.
-/

namespace BuildBench

structure TimingSummary where
  command : Value
  mean : Float
  stddev : Float
  median : Float
  least : Float
  greatest : Float
  user : Float := 0.0
  system : Float := 0.0
  times : List Float := []
  tool : String := ""

namespace TimingSummary

def runs (s : TimingSummary) : Nat := s.times.length

def variance (s : TimingSummary) : Except Fault Float := Statistics.square s.stddev

/-- Whether some repetition took far longer or shorter than the middle half of them. -/
def hasOutliers (s : TimingSummary) : Except Fault Bool :=
  Statistics.hasOutlier Decimal.notANumber s.times

/-- The sum of some floats divided by their number; zero for none. -/
def plainMean (xs : List Float) : Float :=
  if xs.isEmpty then 0.0 else xs.foldl (· + ·) 0.0 / Float.ofNat xs.length

/-- Summarises measured times. Unless something else is said, the program itself has taken them. -/
def ofSamples (command : Value) (times user system : List Float) (tool : String := "builtin") :
    Except Fault TimingSummary := do
  let d ← Statistics.describe times
  return {
    command := command
    mean := d.summary.mean
    stddev := d.deviation
    median := d.summary.median
    least := d.summary.least
    greatest := d.summary.greatest
    user := plainMean user
    system := plainMean system
    times := times
    tool := tool }

/-- A summary as it is reported. -/
def members (s : TimingSummary) : List (String × Value) :=
  [("command", s.command), ("tool", .text s.tool), ("runs", .int s.runs),
   ("mean", Statistics.reported s.mean), ("stddev", Statistics.reported s.stddev),
   ("median", Statistics.reported s.median), ("min", Statistics.reported s.least),
   ("max", Statistics.reported s.greatest), ("user", Statistics.reported s.user),
   ("system", Statistics.reported s.system), ("times", .list (s.times.map Statistics.reported))]

end TimingSummary

end BuildBench
