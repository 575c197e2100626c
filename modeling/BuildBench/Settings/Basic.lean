import BuildBench.Trigger
import BuildBench.Files.Home
import BuildBench.Value.Variables

/-!
# Settings

What a run is to do, in sections. A setting keeps the value it was given; each use decides which
types it accepts. Paths, the variables of the build, and the lists are converted when they are set.
-/

namespace BuildBench

/-- Where the source comes from. Without a repository the working directory is used as it is. -/
structure CheckoutSettings where
  repo : Value := .text ""
  ref : Value := .text ""
  depth : Value := .int 1

structure CacheSettings where
  enabled : Value := .bool true
  dir : PathName := .parse "~/.cache/binbench"
  keyStart : Value := .text "cargo"
  lockFiles : Value := .text "**/Cargo.lock"
  paths : List Value :=
    ["~/.cargo/bin/", "~/.cargo/registry/index/", "~/.cargo/registry/cache/", "~/.cargo/git/db/",
     "target/"].map .text

structure InstallSettings where
  enabled : Value := .bool true
  command : Value := .text "cargo binstall --no-confirm \x7bpackage\x7d"
  packages : List Value := [.text "hyperfine"]
  binDir : Value := .text "~/.cargo/bin"
  /-- The program that the command needs; when it is empty nothing is checked. -/
  installer : Value := .text "cargo-binstall"
  /-- What provides a missing installer; when it is empty a missing one is a failure. -/
  bootstrap : Value := .text "cargo install --locked cargo-binstall"
  timeout : Value := .null

structure BuildSettings where
  command : Value := .text "cargo build --release"
  env : Variables := [("CARGO_PROFILE_RELEASE_DEBUG", "true")]
  artifact : Value := .text "target/release/ezno"
  timeout : Value := .null

def defaultFixtureUrl : String :=
  "https://gist.githubusercontent.com/kaleidawave/9554eb0ec0a2efc5727a3227fe997c8d" ++
    "/raw/6445ec1b802b52081e6dbb9c3a99e6de3f33dcfa/example.js"

structure FixtureSettings where
  url : Value := .text defaultFixtureUrl
  sha256 : Value := .null
  timeout : Value := .float 60.0

structure BenchmarkSettings where
  tool : Value := .text "hyperfine"
  command : Value := .text "\x7bbinary\x7d build \x7bfixture\x7d"
  warmup : Value := .null
  runs : Value := .null
  timeout : Value := .null

/-- A section of settings. A plain value may have been put in its place, which holds no settings. -/
inductive Section (α : Type) where
  | settings (s : α)
  | replaced

/-- The settings of a section. Nothing can be asked of a plain value. -/
def Section.given {α : Type} : Section α → Except Fault α
  | .settings s => .ok s
  | .replaced => .error .noSuchMember

/-- A section after a change of its settings. -/
def Section.modify {α : Type} (change : α → α) : Section α → Section α
  | .settings s => .settings (change s)
  | .replaced => .replaced

structure Settings where
  name : Value := .text "Performance and size"
  workdir : PathName := .parse "."
  env : Value := variablesValue [("CARGO_TERM_COLOR", "always")]
  triggers : Section Triggers := .settings {}
  checkout : Section CheckoutSettings := .settings {}
  cache : Section CacheSettings := .settings {}
  install : Section InstallSettings := .settings {}
  build : Section BuildSettings := .settings {}
  fixture : Section FixtureSettings := .settings {}
  benchmark : Section BenchmarkSettings := .settings {}

/-- A value read as a path name: only text is one. -/
def pathSetting : Value → Except Fault PathName
  | .text s => .ok (.parse s)
  | _ => .error .wrongType

namespace Settings

/-- Where the build leaves its artifact. A relative path is read from the working directory. -/
def artifactPath (s : Settings) (homes : Homes) : Except Fault PathName := do
  let artifact ← homes.replaceTilde (← pathSetting (← s.build.given).artifact)
  return s.workdir.join artifact

def cacheDir (s : Settings) (homes : Homes) : Except Fault PathName := do
  homes.replaceTilde (← s.cache.given).dir

end Settings

end BuildBench
