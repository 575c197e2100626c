import BuildBench.Settings.Profile
import BuildBench.Value.Compare
import BuildBench.Text.Case

/-!
# Findings about settings

Doubtful settings are listed before a run. An error keeps the run from starting, a warning does not.
A setting whose type does not admit the question asked about it is a fault of its own.
-/

namespace BuildBench

inductive Severity where
  | error
  | warning
  deriving Repr, DecidableEq

def Severity.name : Severity → String
  | .error => "error"
  | .warning => "warning"

structure Finding where
  setting : String
  message : String
  severity : Severity := .error
  deriving Repr, DecidableEq

namespace Finding

/-- The programs and repetitions that can do the timing. -/
def benchmarkTools : List String := ["hyperfine", "builtin"]

/-- One finding if a condition holds. Its message is made only then. -/
def when (condition : Bool) (setting : String) (message : Except Fault String)
    (severity : Severity := .error) : Except Fault (List Finding) :=
  if condition then message.map fun m => [⟨setting, m, severity⟩] else .ok []

/-- Whether text holds nothing but blanks. Bytes can be asked as well; their blanks are ASCII. -/
def isBlankText : Value → Except Fault Bool
  | .text s => .ok (Text.strip s).isEmpty
  | .bytes data => .ok (data.all fun b => (9 ≤ b.toNat && b.toNat ≤ 13) || b.toNat = 32)
  | _ => .error .noSuchMember

/-- Whether a value holds a text: a text as a part, a collection as a member or a key. -/
def mentions (s : String) (v : Value) : Except Fault Bool :=
  match v.bare with
  | .text t => .ok (Text.holds s t)
  | .list items => .ok (holdsText items s)
  | .set items => .ok (holdsText items s)
  | .pair first second => .ok (holdsText [first, second] s)
  | .map entries => .ok (holdsText (entries.map (·.1)) s)
  | _ => .error .wrongType

/-- Whether a number is below a bound. -/
def isBelow (bound : Int) (v : Value) : Except Fault Bool :=
  match v.below? bound with
  | some b => .ok b
  | none => .error .wrongType

def isAtMost (bound : Int) (v : Value) : Except Fault Bool :=
  match v.atMost? bound with
  | some b => .ok b
  | none => .error .wrongType

def webRoots : List String := ["http://", "https://"]

def isWebAddress : Value → Except Fault Bool
  | .text s => .ok (webRoots.any (Text.beginsWith · s))
  | .bytes _ => .error .wrongType
  | _ => .error .noSuchMember

/-- Whether a digest is written as 64 hexadecimal digits. -/
def isDigest : Value → Except Fault Bool
  | .text s =>
    let cs := (Text.lower s).toList
    .ok (cs.length = 64 && cs.all fun c => c.isDigit || ('a' ≤ c && c ≤ 'f'))
  | .bytes data => if data.length = 64 then .error .wrongType else .ok false
  | _ => .error .noSuchMember

def buildFindings (b : BuildSettings) : Except Fault (List Finding) := do
  let command ← when (← isBlankText b.command) "build.command"
    (.ok "Build command cannot be empty.")
  let artifact ← when (← isBlankText b.artifact) "build.artifact"
    (.ok "Artifact path cannot be empty.")
  return command ++ artifact

def fixtureFindings (f : FixtureSettings) : Except Fault (List Finding) := do
  let web ← when (!(← isWebAddress f.url)) "fixture.url"
    (.ok ("Fixture URL must be http(s): " ++ f.url.quoted))
  let digest ← if f.sha256.isNull then pure true else isDigest f.sha256
  let checksum ← when (!digest) "fixture.sha256" (.ok "Fixture checksum must be 64 hex digits.")
  let timeout ← when (← isAtMost 0 f.timeout) "fixture.timeout" do
    return "Fixture timeout must be positive (got " ++ (← f.timeout.textOf) ++ ")."
  return web ++ checksum ++ timeout

def toolFindings (b : BenchmarkSettings) : Except Fault (List Finding) :=
  when (!benchmarkTools.any (b.tool.isText ·)) "benchmark.tool" do
    return "Unknown benchmark tool '" ++ (← b.tool.textOf) ++ "'. Choose one of: " ++
      ", ".intercalate benchmarkTools

def commandFindings (b : BenchmarkSettings) : Except Fault (List Finding) := do
  let binary ← when (!(← mentions "\x7bbinary\x7d" b.command)) "benchmark.command"
    (.ok "Benchmark command must reference \x7bbinary\x7d.")
  let fixture ← when (!(← mentions "\x7bfixture\x7d" b.command)) "benchmark.command"
    (.ok "Benchmark command does not reference \x7bfixture\x7d; the fixture will be unused.")
    .warning
  return binary ++ fixture

def countFindings (b : BenchmarkSettings) : Except Fault (List Finding) := do
  let isLess (bound : Int) (v : Value) := if v.isNull then pure false else isBelow bound v
  let warmup ← when (← isLess 0 b.warmup) "benchmark.warmup" do
    return "Warmup runs cannot be negative (got " ++ (← b.warmup.textOf) ++ ")."
  let runs ← when (← isLess 2 b.runs) "benchmark.runs" do
    return "Need at least 2 runs for a timing distribution (got " ++ (← b.runs.textOf) ++ ")."
  return warmup ++ runs

def benchmarkFindings (b : BenchmarkSettings) : Except Fault (List Finding) := do
  let tool ← toolFindings b
  let command ← commandFindings b
  let counts ← countFindings b
  return tool ++ command ++ counts

def installFindings (i : InstallSettings) (tool : Value) : Except Fault (List Finding) := do
  let installs := i.enabled.isPresent && !i.packages.isEmpty
  let package ← if installs then mentions "\x7bpackage\x7d" i.command else pure true
  let command ← when (!package) "install.command"
    (.ok "Installer command must reference \x7bpackage\x7d.")
  let provided := i.enabled.isPresent && holdsText i.packages "hyperfine"
  let packages ← when (tool.isText "hyperfine" && !provided) "install.packages"
    (.ok "hyperfine is not installed by the pipeline; it must already be on PATH.") .warning
  return command ++ packages

def eventFindings (event : Value) : Except Fault (List Finding) :=
  when (!Trigger.knownEvents.any (event.isText ·)) "triggers.events" (do
    return "Event '" ++ (← event.textOf) ++ "' never triggers a run (known: " ++
      ", ".intercalate Trigger.knownEvents ++ ").") .warning

def triggerFindings (t : Triggers) : Except Fault (List Finding) := do
  let events ← t.events.mapM eventFindings
  let branches ← when t.branches.isEmpty "triggers.branches"
    (.ok "No trigger branches defined; CI events will never run the pipeline.") .warning
  return events.flatten ++ branches

def cacheFindings (c : CacheSettings) : Except Fault (List Finding) :=
  when (c.enabled.isPresent && c.paths.isEmpty) "cache.paths"
    (.ok "Caching is enabled but no cache paths are defined.") .warning

def checkoutFindings (c : CheckoutSettings) : Except Fault (List Finding) := do
  when (← isBelow 1 c.depth) "checkout.depth" do
    return "Clone depth must be at least 1 (got " ++ (← c.depth.textOf) ++ ")."

end Finding

/-- Everything doubtful about some settings, in the order of the sections it concerns. -/
def Settings.findings (s : Settings) : Except Fault (List Finding) := do
  let build ← Finding.buildFindings (← s.build.given)
  let fixture ← Finding.fixtureFindings (← s.fixture.given)
  let bench ← s.benchmark.given
  let benchmark ← Finding.benchmarkFindings bench
  let install ← Finding.installFindings (← s.install.given) bench.tool
  let triggers ← Finding.triggerFindings (← s.triggers.given)
  let cache ← Finding.cacheFindings (← s.cache.given)
  let checkout ← Finding.checkoutFindings (← s.checkout.given)
  return build ++ fixture ++ benchmark ++ install ++ triggers ++ cache ++ checkout

end BuildBench
