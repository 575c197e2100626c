import BuildBench.Command.Words
import BuildBench.Command.Environment
import BuildBench.Text.Template

/-!
# Installation

Each package that is not on the search path yet is installed by a command. When the installer that
the command needs is missing, another command provides it first, once.
-/

namespace BuildBench.Installation

open BuildBench.Action

/-- A program that is on the search path after installation. -/
structure Tool where
  package : Value
  path : Value
  alreadyPresent : Bool

def failure (message : String) (exitCode : Int := 1) (output : String := "") : Fault :=
  .stage
    { stage := "install", kind := .setup, message := message, exitCode := exitCode
      output := output }

/-- Runs a command that installs something, and gives its output. -/
def runInstaller (command : Value) (what : String) (install : InstallSettings)
    (env : Environment) : Action String := do
  let p ← tryCatch (Command.run command none (some env) install.timeout) fun
    | .system .notFound path =>
      throw (failure ("Installer not found for '" ++ command.display ++ "': " ++ path))
    | .timedOut limit =>
      throw (failure ("Installing " ++ what ++ " timed out after " ++ limit.display ++ "s"))
    | f => throw f
  if p.exitCode = 0 then return p.output
  else
    throw (failure ("Installing " ++ what ++ " failed (exit " ++ intText p.exitCode ++ ")")
      p.exitCode p.output)

/-- Provides the installer, which is missing. -/
def bootstrap (install : InstallSettings) (env : Environment) : Action Unit := do
  let name := install.installer.display
  if !install.bootstrap.isPresent then
    throw (failure (name ++ " is not on PATH and no bootstrap command is configured"))
  else
    log .info "install" (name ++ " not found; bootstrapping with: " ++ install.bootstrap.display)
    let output ← runInstaller install.bootstrap name install env
    if (← Disk.which install.installer env.searchPath).isNone then
      throw (failure ("Bootstrap finished but " ++ name ++ " is not on PATH (" ++
        env.searchPath.display ++ ")") 1 output)

/-- Makes sure that the installer is on the search path, unless that was checked before. -/
def ensureInstaller (install : InstallSettings) (env : Environment) (checked : Bool) :
    Action Unit := do
  if install.installer.isPresent && !checked then
    if (← Disk.which install.installer env.searchPath).isNone then bootstrap install env

/-- The command that installs a package. -/
def installCommand (install : InstallSettings) (package : Value) : Except Fault String :=
  match install.command with
  | .text template => Text.Template.expand template [("package", package)]
  | _ => .error .noSuchMember

/-- Installs a package that is not there yet. -/
def installPackage (install : InstallSettings) (env : Environment) (package : Value) :
    Action Tool := do
  let name := package.display
  log .info "install" ("Installing " ++ name)
  let command ← ofResult (installCommand install package)
  let output ← runInstaller (.text command) name install env
  match ← Disk.which package env.searchPath with
  | some path =>
    log .info "install" ("Installed " ++ name ++ " at " ++ path.display)
    return ⟨package, path, false⟩
  | none =>
    throw (failure (name ++ " was installed but is not on PATH (" ++
      env.searchPath.display ++ ")") 1 output)

/-- Installs packages in order. The installer is looked for before the first package that needs it.
-/
def installAll (install : InstallSettings) (env : Environment) (checked : Bool) :
    List Value → Action (List Tool)
  | [] => return []
  | package :: rest => do
    match ← Disk.which package env.searchPath with
    | some path =>
      log .info "install" (package.display ++ " already installed at " ++ path.display)
      return ⟨package, path, true⟩ :: (← installAll install env checked rest)
    | none =>
      ensureInstaller install env checked
      let tool ← installPackage install env package
      return tool :: (← installAll install env true rest)

/-- Installs every configured package. -/
def install (settings : InstallSettings) (env : Environment) : Action (List Tool) :=
  installAll settings env false settings.packages

end BuildBench.Installation
