import BuildBench.Command.Words
import BuildBench.Text.Blank
import BuildBench.Value.Shown

/-!
# Checkouts

The source of a run comes from a repository: an existing checkout is brought up to date, else the
repository is cloned. Then the revision is read; a revision that cannot be read is no failure.
-/

namespace BuildBench.Checkout

open BuildBench.Action

def setupFailure (message : String) (exitCode : Int := 1) (output : String := "") : Fault :=
  .stage
    { stage := "prepare", kind := .setup, message := message, exitCode := exitCode
      output := output }

/-- The arguments of a version control command. Each has to be a text. -/
def arguments (args : List Value) : Except Fault (List String) :=
  args.mapM fun v => match v with
    | .text s => .ok s
    | _ => .error .wrongType

/-- Runs a version control command in a folder. -/
def git (args : List Value) (folder : Option PathName) : Action Program.Completed := do
  let args ← ofResult (arguments args)
  log .debug "prepare" ("Running: git " ++ " ".intercalate args)
  tryCatch (Program.run { argv := "git" :: args, folder := folder.map PathName.display }) fun
    | .system .notFound _ => throw (setupFailure "git is not installed")
    | f => throw f

/-- The revision that is checked out in a folder, if it can be read. -/
def headRevision (folder : PathName) : Action (Option String) := do
  let read : Action (Option String) := do
    let p ← git [.text "rev-parse", .text "HEAD"] (some folder)
    return if p.exitCode = 0 then some (Text.strip p.stdout) else none
  tryCatch read fun
    | .stage f => do
      log .debug "prepare" ("Cannot read revision of " ++ folder.display ++ ": " ++ f.message)
      return none
    | f => throw f

/-- Whether a name is a commit: 7 to 40 hexadecimal digits in lower case. -/
def isCommit (ref : String) : Bool :=
  let cs := ref.toList
  7 ≤ cs.length && cs.length ≤ 40 && cs.all fun c => c.isDigit || ('a' ≤ c && c ≤ 'f')

/-- One command of a script, and where it runs. -/
structure Step where
  args : List Value
  folder : Option PathName

/-- How the source gets to its folder: the commands for it, and what is said when the last of them
fails. -/
structure Script where
  announcement : String
  steps : Except Fault (List Step)

/-- The option that says how many revisions are wanted. -/
def depthOption (depth : Value) : Except Fault Value := do
  return .text ("--depth=" ++ (← depth.textOf))

/-- The script that brings an existing checkout up to date. -/
def fetchScript (folder : PathName) (ref depth : Value) : Script where
  announcement := "Reusing checkout in " ++ folder.display
  steps := do
    return [
      ⟨[.text "fetch", ← depthOption depth, .text "origin",
        if ref.isPresent then ref else .text "HEAD"], some folder⟩,
      ⟨[.text "checkout", .text "--force", .text "FETCH_HEAD"], some folder⟩]

/-- The script that clones a whole repository and checks out one of its commits. -/
def commitScript (repo : Value) (folder : PathName) (commit : String) : Script where
  announcement :=
    "Cloning " ++ repo.display ++ " into " ++ folder.display ++ " at commit " ++ commit
  steps := .ok [
    ⟨[.text "clone", repo, .text folder.display], none⟩,
    ⟨[.text "checkout", .text commit], some folder⟩]

/-- The script that clones the newest revisions of a branch. -/
def cloneScript (repo : Value) (folder : PathName) (ref depth : Value) : Script where
  announcement := "Cloning " ++ repo.display ++ " into " ++ folder.display
  steps := do
    return [
      ⟨[.text "clone", ← depthOption depth] ++
        (if ref.isPresent then [.text "--branch", ref] else []) ++
        [repo, .text folder.display], none⟩]

/-- The script for a repository and a folder. -/
def script (repo : Value) (folder : PathName) (ref depth : Value) (isCheckout : Bool) :
    Except Fault Script :=
  if isCheckout then .ok (fetchScript folder ref depth)
  else if !ref.isPresent then .ok (cloneScript repo folder ref depth)
  else
    match ref with
    | .text s =>
      .ok (if isCommit s then commitScript repo folder s else cloneScript repo folder ref depth)
    | _ => .error .wrongType

/-- What is said when a command of a script fails. -/
def failureText (repo : Value) (step : Step) (exitCode : Int) : String :=
  match step.args with
  | .text "fetch" :: _ => "git fetch failed (exit " ++ intText exitCode ++ ")"
  | _ => "Checkout of " ++ repo.display ++ " failed (exit " ++ intText exitCode ++ ")"

/-- Runs the commands of a script up to the first one that fails. -/
def runSteps (repo : Value) : List Step → Action Unit
  | [] => return ()
  | step :: rest => do
    let p ← git step.args step.folder
    if p.exitCode = 0 then runSteps repo rest
    else throw (setupFailure (failureText repo step p.exitCode) p.exitCode p.output)

/-- Brings the source to a folder and gives its revision. Without a repository the folder has to be
there. -/
def checkOut (repo : Value) (folder : PathName) (ref depth : Value) : Action (Option String) := do
  if !repo.isPresent then
    if ← Disk.isFolder folder then headRevision folder
    else throw (setupFailure ("Working directory does not exist: " ++ folder.display))
  else
    let isCheckout ← Disk.exists? (folder.child ".git")
    let s ← ofResult (script repo folder ref depth isCheckout)
    log .info "prepare" s.announcement
    runSteps repo (← ofResult s.steps)
    let revision ← headRevision folder
    log .info "prepare" ("Checked out " ++
      ((revision.filter (!·.isEmpty)).getD "(unknown revision)"))
    return revision

end BuildBench.Checkout
