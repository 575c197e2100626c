import BuildBench.Settings.Basic
import BuildBench.Value.Shown
import BuildBench.Value.Compare

/-!
# Settings from a profile

A profile is a map of sections. Its settings replace the defaults one by one, and overrides replace
both. A setting that no section knows is refused, and so is a section that nobody knows.
-/

namespace BuildBench

/-- The sections of a profile. -/
inductive SectionName where
  | triggers
  | checkout
  | cache
  | install
  | build
  | fixture
  | benchmark
  deriving Repr, DecidableEq

namespace SectionName

def all : List SectionName := [.triggers, .checkout, .cache, .install, .build, .fixture, .benchmark]

def name : SectionName → String
  | .triggers => "triggers"
  | .checkout => "checkout"
  | .cache => "cache"
  | .install => "install"
  | .build => "build"
  | .fixture => "fixture"
  | .benchmark => "benchmark"

def ofName? (s : String) : Option SectionName := all.find? (·.name == s)

/-- The settings of a section in alphabetical order. -/
def keys : SectionName → List String
  | .triggers => ["branches", "events"]
  | .checkout => ["depth", "ref", "repo"]
  | .cache => ["dir", "enabled", "lock_files", "paths", "prefix"]
  | .install =>
    ["bin_dir", "bootstrap", "command", "enabled", "installer", "packages", "timeout"]
  | .build => ["artifact", "command", "env", "timeout"]
  | .fixture => ["sha256", "timeout", "url"]
  | .benchmark => ["command", "runs", "timeout", "tool", "warmup"]

end SectionName

/-- What a profile may hold beside its sections. -/
def plainKeys : List String := ["name", "workdir", "env"]

/-- Everything that a profile may hold, in alphabetical order. -/
def profileKeys : List String :=
  ["benchmark", "build", "cache", "checkout", "env", "fixture", "install", "name", "triggers",
   "workdir"]

/-- The text of a variable: truth values are written in lower case. -/
def variableText : Value → Except Fault String
  | .bool b => .ok (if b then "true" else "false")
  | v => v.textOf

/-- Variables from a map; names and values become text. -/
def variablesOfEntries (entries : List (Value × Value)) : Except Fault Variables :=
  entries.foldlM (fun vars (k, v) => return insertVariable (← k.textOf) (← variableText v) vars) []

def variablesSetting (v : Value) : Except Fault Variables :=
  match v.bare with
  | .null => .ok []
  | .map entries => variablesOfEntries entries
  | _ => .error (.invalid "env must be a mapping of NAME: value")

def listSetting (sec : SectionName) (key : String) (v : Value) : Except Fault (List Value) :=
  match v.bare with
  | .list items => .ok items
  | _ => .error (.invalid
      ("'" ++ sec.name ++ "." ++ key ++ "' must be a list, got " ++ v.typeName))

/-- A setting as it is kept: as it was given, or converted. -/
inductive Setting where
  | value (v : Value)
  | items (items : List Value)
  | path (p : PathName)
  | variables (vars : Variables)

/-- Whether a setting is a list. A setting that takes any value may hold one as well. -/
def Setting.isList : Setting → Bool
  | .value v => (v.bare matches .list _)
  | .items _ => true
  | .path _ | .variables _ => false

namespace Settings

def setTrigger (key : String) (items : List Value) (t : Triggers) : Triggers :=
  if key = "branches" then { t with branches := items } else { t with events := items }

def setCheckout (key : String) (v : Value) (c : CheckoutSettings) : CheckoutSettings :=
  if key = "repo" then { c with repo := v }
  else if key = "ref" then { c with ref := v }
  else { c with depth := v }

def setCache (key : String) (v : Value) (c : CacheSettings) : CacheSettings :=
  if key = "enabled" then { c with enabled := v }
  else if key = "prefix" then { c with keyStart := v }
  else { c with lockFiles := v }

def setInstall (key : String) (v : Value) (i : InstallSettings) : InstallSettings :=
  if key = "enabled" then { i with enabled := v }
  else if key = "command" then { i with command := v }
  else if key = "bin_dir" then { i with binDir := v }
  else if key = "installer" then { i with installer := v }
  else if key = "bootstrap" then { i with bootstrap := v }
  else { i with timeout := v }

def setBuild (key : String) (v : Value) (b : BuildSettings) : BuildSettings :=
  if key = "command" then { b with command := v }
  else if key = "artifact" then { b with artifact := v }
  else { b with timeout := v }

def setFixture (key : String) (v : Value) (f : FixtureSettings) : FixtureSettings :=
  if key = "url" then { f with url := v }
  else if key = "sha256" then { f with sha256 := v }
  else { f with timeout := v }

def setBenchmark (key : String) (v : Value) (b : BenchmarkSettings) : BenchmarkSettings :=
  if key = "tool" then { b with tool := v }
  else if key = "command" then { b with command := v }
  else if key = "warmup" then { b with warmup := v }
  else if key = "runs" then { b with runs := v }
  else { b with timeout := v }

/-! ### The settings of a section by name -/

def triggerSetting (key : String) (t : Triggers) : Setting :=
  .items (if key = "branches" then t.branches else t.events)

def checkoutSetting (key : String) (c : CheckoutSettings) : Setting :=
  .value (if key = "repo" then c.repo else if key = "ref" then c.ref else c.depth)

def cacheSetting (key : String) (c : CacheSettings) : Setting :=
  if key = "dir" then .path c.dir
  else if key = "paths" then .items c.paths
  else .value (if key = "enabled" then c.enabled
    else if key = "prefix" then c.keyStart
    else c.lockFiles)

def installSetting (key : String) (i : InstallSettings) : Setting :=
  if key = "packages" then .items i.packages
  else .value (if key = "enabled" then i.enabled
    else if key = "command" then i.command
    else if key = "bin_dir" then i.binDir
    else if key = "installer" then i.installer
    else if key = "bootstrap" then i.bootstrap
    else i.timeout)

def buildSetting (key : String) (b : BuildSettings) : Setting :=
  if key = "env" then .variables b.env
  else .value (if key = "command" then b.command
    else if key = "artifact" then b.artifact
    else b.timeout)

def fixtureSetting (key : String) (f : FixtureSettings) : Setting :=
  .value (if key = "url" then f.url else if key = "sha256" then f.sha256 else f.timeout)

def benchmarkSetting (key : String) (b : BenchmarkSettings) : Setting :=
  .value (if key = "tool" then b.tool
    else if key = "command" then b.command
    else if key = "warmup" then b.warmup
    else if key = "runs" then b.runs
    else b.timeout)

/-- What a setting of a section that knows it is. -/
def setting (s : Settings) (key : String) : SectionName → Except Fault Setting
  | .triggers => s.triggers.given.map (triggerSetting key)
  | .checkout => s.checkout.given.map (checkoutSetting key)
  | .cache => s.cache.given.map (cacheSetting key)
  | .install => s.install.given.map (installSetting key)
  | .build => s.build.given.map (buildSetting key)
  | .fixture => s.fixture.given.map (fixtureSetting key)
  | .benchmark => s.benchmark.given.map (benchmarkSetting key)

/-- In the place of a list only a list can be put. -/
def keepList (s : Settings) (sec : SectionName) (key : String) (v : Value) : Except Fault Unit := do
  if (← s.setting key sec).isList then
    let _ ← listSetting sec key v

/-- Sets one setting of a section that knows it. -/
def setKey (s : Settings) (sec : SectionName) (key : String) (v : Value) :
    Except Fault Settings := do
  s.keepList sec key v
  match sec with
  | .triggers => do
    let items ← listSetting sec key v
    return { s with triggers := s.triggers.modify (setTrigger key items) }
  | .checkout => .ok { s with checkout := s.checkout.modify (setCheckout key v) }
  | .cache =>
    if key = "dir" then do
      let dir ← pathSetting v
      return { s with cache := s.cache.modify ({ · with dir := dir }) }
    else if key = "paths" then do
      let paths ← listSetting sec key v
      return { s with cache := s.cache.modify ({ · with paths := paths }) }
    else .ok { s with cache := s.cache.modify (setCache key v) }
  | .install =>
    if key = "packages" then do
      let packages ← listSetting sec key v
      return { s with install := s.install.modify ({ · with packages := packages }) }
    else .ok { s with install := s.install.modify (setInstall key v) }
  | .build =>
    if key = "env" then do
      let env ← variablesSetting v
      return { s with build := s.build.modify ({ · with env := env }) }
    else .ok { s with build := s.build.modify (setBuild key v) }
  | .fixture => .ok { s with fixture := s.fixture.modify (setFixture key v) }
  | .benchmark => .ok { s with benchmark := s.benchmark.modify (setBenchmark key v) }

/-- The name of a setting that a section knows. -/
def knownKey? (sec : SectionName) : Value → Option String
  | .text s => if sec.keys.contains s then some s else none
  | _ => none

/-- What is said about a key that a section does not know. -/
def unknownKey (sec : String) (keys : List String) (key : Value) : Fault :=
  match key.textOf with
  | .ok name => .invalid ("Unknown key '" ++ name ++ "' in section '" ++ sec ++ "'. Valid keys: " ++
      ", ".intercalate keys)
  | .error f => f

/-- Sets one setting under a key of any type. -/
def setEntry (s : Settings) (sec : SectionName) (key v : Value) : Except Fault Settings :=
  match knownKey? sec key with
  | some name => s.setKey sec name v
  | none => .error (unknownKey sec.name sec.keys key)

/-- Sets the settings that a section of a profile holds, in order. -/
def setSection (s : Settings) (sec : SectionName) (v : Value) : Except Fault Settings :=
  match v.bare with
  | .null => .ok s
  | .map entries => entries.foldlM (fun s (key, v) => s.setEntry sec key v) s
  | _ => .error (.invalid ("Profile section '" ++ sec.name ++ "' must be a mapping"))

end Settings

/-- A profile: a map whose keys may be of any type. -/
abbrev Profile := List (Value × Value)

namespace Profile

/-- The keys of a profile that mean nothing. -/
def unknownKeys (p : Profile) : List Value :=
  (p.map (·.1)).filter fun key => !profileKeys.any fun name => key.isText name

/-- Texts in ascending order. -/
def sortedTexts (texts : List String) : List String :=
  texts.mergeSort fun a b => decide (a ≤ b)

/-- Refuses unknown keys. They are listed in order, which only texts have. -/
def checkKeys (p : Profile) : Except Fault Unit :=
  let unknown := p.unknownKeys
  if unknown.isEmpty then .ok ()
  else
    match unknown.mapM fun key => match key with | .text s => some s | _ => none with
    | none => .error .wrongType
    | some names => .error (.invalid
        ("Unknown profile section(s): " ++ ", ".intercalate (sortedTexts names) ++ ". Valid: " ++
          ", ".intercalate profileKeys))

/-- The value under a key, if it counts as present. -/
def present? (p : Profile) (name : String) : Option Value :=
  (member? name p).filter Value.isPresent

/-- The settings of a profile beside its sections. -/
def plainSettings (p : Profile) : Except Fault Settings := do
  let s : Settings := {}
  let s ← match p.present? "name" with
    | some v => do pure { s with name := .text (← v.textOf) }
    | none => pure s
  let s ← match p.present? "workdir" with
    | some v => do pure { s with workdir := ← pathSetting v }
    | none => pure s
  match member? "env" p with
  | some v => return { s with env := variablesValue (← variablesSetting v) }
  | none => return s

/-- Sets the settings of one section. -/
def applySection (p : Profile) (s : Settings) (sec : SectionName) : Except Fault Settings :=
  s.setSection sec ((member? sec.name p).getD .null)

/-- The settings that a profile gives. -/
def settings (p : Profile) : Except Fault Settings := do
  p.checkKeys
  let s ← p.plainSettings
  SectionName.all.foldlM p.applySection s

end Profile

/-- A setting that counts more than the profile: its name, a section and a key with a point between
them or one of the settings beside the sections, and its value. -/
abbrev Override := String × Value

/-- Names with a point before them belong to a section. -/
def splitKey (dotted : String) : Option (String × String) :=
  let cs := dotted.toList
  let first := cs.takeWhile (· != '.')
  match cs.drop first.length with
  | _ :: rest => some (String.ofList first, String.ofList rest)
  | [] => none

namespace Settings

/-- Fails when a plain value was put in the place of a section. -/
def requireSection (s : Settings) : SectionName → Except Fault Unit
  | .triggers => s.triggers.given.map fun _ => ()
  | .checkout => s.checkout.given.map fun _ => ()
  | .cache => s.cache.given.map fun _ => ()
  | .install => s.install.given.map fun _ => ()
  | .build => s.build.given.map fun _ => ()
  | .fixture => s.fixture.given.map fun _ => ()
  | .benchmark => s.benchmark.given.map fun _ => ()

/-- Puts a plain value in the place of a section. -/
def replaceSection (s : Settings) : SectionName → Settings
  | .triggers => { s with triggers := .replaced }
  | .checkout => { s with checkout := .replaced }
  | .cache => { s with cache := .replaced }
  | .install => { s with install := .replaced }
  | .build => { s with build := .replaced }
  | .fixture => { s with fixture := .replaced }
  | .benchmark => { s with benchmark := .replaced }

/-- The name under which the kind of the settings is known. Its defaults can be named and change
nothing; only the name of a run has one. -/
def kindName : String := "__class__"

/-- The name under which all settings are known together. -/
def wholeName : String := "__dict__"

def setKindDefault (s : Settings) (key : String) : Except Fault Settings :=
  if key = "name" then .ok s
  else if profileKeys.contains key then .error .noSuchMember
  else .error (unknownKey kindName profileKeys (.text key))

/-- Sets a setting below a name. What the name stands for is worked out first. -/
def setBelow (s : Settings) (homes : Homes) (first key : String) (v : Value) :
    Except Fault Settings :=
  match SectionName.ofName? first with
  | some sec => do
    s.requireSection sec
    s.setEntry sec (.text key) v
  | none =>
    if first = kindName then s.setKindDefault key
    else if first = "artifact_path" then do
      let _ ← s.artifactPath homes
      throw .noSuchMember
    else if first = "cache_dir" then do
      let _ ← s.cacheDir homes
      throw .noSuchMember
    else .error .noSuchMember

/-- Names that cannot be set: what the settings are derived to, and what is known about them. -/
def fixedNames : List String := ["artifact_path", "cache_dir", "__weakref__"]

/-- Sets what a name without a point stands for. A map in the place of all settings holds none of
their sections. -/
def setWhole (s : Settings) (name : String) (v : Value) : Except Fault Settings :=
  match SectionName.ofName? name with
  | some sec => .ok (s.replaceSection sec)
  | none =>
    if name = "workdir" then (pathSetting v).map fun p => { s with workdir := p }
    else if name = "name" then .ok { s with name := v }
    else if name = "env" then .ok { s with env := v }
    else if fixedNames.contains name then .error .noSuchMember
    else if name = kindName then .error .wrongType
    else if name = wholeName then
      match v with
      | .map _ => .ok (SectionName.all.foldl replaceSection s)
      | _ => .error .wrongType
    else .ok s

/-- Applies one override. A missing value overrides nothing. -/
def override (homes : Homes) (s : Settings) (o : Override) : Except Fault Settings :=
  if o.2.isNull then .ok s
  else
    match splitKey o.1 with
    | some (first, key) => s.setBelow homes first key o.2
    | none => s.setWhole o.1 o.2

/-- The settings that a profile and overrides give. -/
def ofProfile (homes : Homes) (p : Profile) (overrides : List Override) :
    Except Fault Settings := do
  overrides.foldlM (override homes) (← p.settings)

end Settings

end BuildBench
