import BuildBench.Value.Basic

/-!
# Causes of failure

Everything that can keep an operation from finishing, by cause, with its wording in one place.
A stage of a run fails with a `StageFailure`; every other fault ends the whole program unless
someone handles it.
-/

namespace BuildBench

/-- The reasons for which an operation on files or processes fails. -/
inductive SystemError where
  | notFound
  | noProcess
  | notPermitted
  | exists
  | notDirectory
  | isDirectory
  | notEmpty
  | invalidArgument
  | nameTooLong
  | tooManyLinks
  deriving Repr, DecidableEq

def SystemError.number : SystemError → Nat
  | .notFound => 2
  | .noProcess => 3
  | .notPermitted => 13
  | .exists => 17
  | .notDirectory => 20
  | .isDirectory => 21
  | .invalidArgument => 22
  | .nameTooLong => 36
  | .notEmpty => 39
  | .tooManyLinks => 40

def SystemError.wording : SystemError → String
  | .notFound => "No such file or directory"
  | .noProcess => "No such process"
  | .notPermitted => "Permission denied"
  | .exists => "File exists"
  | .notDirectory => "Not a directory"
  | .isDirectory => "Is a directory"
  | .invalidArgument => "Invalid argument"
  | .nameTooLong => "File name too long"
  | .notEmpty => "Directory not empty"
  | .tooManyLinks => "Too many levels of symbolic links"

/-- What kind of work a stage failed at. All kinds end a run in the same way. -/
inductive FailureKind where
  | setup
  | build
  | fixture
  | measure
  deriving Repr, DecidableEq

def FailureKind.name : FailureKind → String
  | .setup => "setup"
  | .build => "build"
  | .fixture => "fixture"
  | .measure => "measure"

def FailureKind.ofName? (s : String) : Option FailureKind :=
  [FailureKind.setup, .build, .fixture, .measure].find? (·.name == s)

/-- A failure that ends a stage: which stage reports it, what kind of work failed, the exit code of
the process behind it, and the output that explains it. -/
structure StageFailure where
  stage : String
  kind : FailureKind
  message : String
  exitCode : Int := 1
  output : String := ""
  deriving Repr, DecidableEq

/-- The failure with its stage in front. -/
def StageFailure.display (f : StageFailure) : String := "[" ++ f.stage ++ "] " ++ f.message

/-- The problems of a download, by the party that reports them: the connection, the clock, or the
request itself. -/
inductive DownloadProblem where
  | connection
  | timeout
  | request
  deriving Repr, DecidableEq

inductive Fault where
  /-- A stage failed. -/
  | stage (failure : StageFailure)
  /-- A value of the right type that is not acceptable. -/
  | invalid (reason : String)
  /-- A document that does not follow its grammar; the reason tells where. -/
  | unreadable (reason : String)
  /-- Bytes that are no text; the reason tells where. -/
  | undecodable (reason : String)
  /-- Text that has no bytes; the reason tells where. -/
  | unencodable (reason : String)
  /-- An operation on values of types that it does not take. -/
  | wrongType
  /-- A value that does not have the part or the operation asked for. -/
  | noSuchMember
  /-- A position outside a sequence. -/
  | badPosition
  /-- A key that is not in a map. -/
  | missingKey (key : Value)
  /-- A result too large for a float, or an infinite one where a whole number is needed. -/
  | tooLarge
  /-- A text with more characters than there is room for. -/
  | noRoom
  /-- Something whose parts nest too deep; what was done with it is said behind the fault. -/
  | tooDeep (doing : String)
  /-- A home directory that nobody has. -/
  | noHome
  /-- A path that leads back to itself through links. -/
  | linkLoop (path : String)
  /-- A search pattern that starts at the root. -/
  | absolutePattern
  /-- A profile that does not exist. -/
  | noProfile (path : String)
  /-- An operation on files that failed, with the path it concerned. -/
  | system (error : SystemError) (path : String)
  /-- An operation that failed for several files, one reason each. -/
  | several (reasons : List String)
  /-- A download that failed. -/
  | download (problem : DownloadProblem) (text : String)
  /-- A process that did not end in time. -/
  | timedOut (limit : Value)
  /-- The user interrupted the program. -/
  | interrupted

/-- What is said about a fault. -/
def Fault.message : Fault → String
  | .stage f => f.display
  | .invalid reason => reason
  | .unreadable reason => reason
  | .undecodable reason => reason
  | .unencodable reason => reason
  | .wrongType | .noSuchMember | .badPosition | .tooLarge | .noRoom => ""
  | .missingKey key => key.quoted
  | .tooDeep doing => "maximum recursion depth exceeded" ++ doing
  | .noHome => "Could not determine home directory."
  | .linkLoop path => "Symlink loop from " ++ Text.quoted path
  | .absolutePattern => "Non-relative patterns are unsupported"
  | .noProfile path => "Profile not found: " ++ path
  | .system error path =>
    "[Errno " ++ toString error.number ++ "] " ++ error.wording ++ ": " ++ Text.quoted path
  | .several reasons => ", ".intercalate reasons
  | .download _ text => text
  | .timedOut limit => "timed out after " ++ limit.display ++ " seconds"
  | .interrupted => ""

/-- Whether a fault concerns files or a download, that is, the world outside the program. -/
def Fault.isOutside : Fault → Bool
  | .noProfile _ | .system _ _ | .several _ | .download _ _ => true
  | _ => false

/-- Whether a fault is about a value that is not acceptable. -/
def Fault.isInvalidValue : Fault → Bool
  | .invalid _ | .unreadable _ | .undecodable _ | .unencodable _ => true
  | _ => false

end BuildBench
