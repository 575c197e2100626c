import BuildBench.Text.Lines
import BuildBench.Text.Quoted

/-!
# Log records

A record has a level, the name of who wrote it, and a text. It is written to the console when its
level reaches the console's, and always to the log file, if there is one. A record without bytes
cannot be written to a file: it is left out there, and the console tells about it.
-/

namespace BuildBench

/-- How much a record matters. -/
structure Level where
  rank : Int
  deriving Repr, DecidableEq

namespace Level

def debug : Level := ⟨10⟩

def info : Level := ⟨20⟩

def warning : Level := ⟨30⟩

def error : Level := ⟨40⟩

def critical : Level := ⟨50⟩

/-- Levels without a name of their own are numbered. -/
def name (level : Level) : String :=
  let names : List (Level × String) :=
    [(debug, "DEBUG"), (info, "INFO"), (warning, "WARNING"), (error, "ERROR"),
     (critical, "CRITICAL"), (⟨0⟩, "NOTSET")]
  (names.lookup level).getD ("Level " ++ toString level.rank)

end Level

/-- The name under which all records of the program are written. -/
def programName : String := "binbench"

structure Record where
  level : Level
  source : String
  text : String
  deriving Repr, DecidableEq

/-- The name of one part of the program. -/
def sourceName (part : String) : String := programName ++ "." ++ part

/-- A record on the console: its level, padded, and its text. -/
def Record.consoleLine (r : Record) : String :=
  Text.padEnd 8 r.level.name ++ " " ++ r.text ++ "\n"

/-- A record in a log file: when it was written, its level, who wrote it, and its text. -/
def Record.fileLine (time : String) (r : Record) : String :=
  time ++ " " ++ Text.padEnd 8 r.level.name ++ " " ++ r.source ++ ": " ++ r.text ++ "\n"

/-- Whether a record has bytes. -/
def Record.hasBytes (time : String) (r : Record) : Bool :=
  (Text.encodingDefect? (fun _ => false) (r.fileLine time)).isNone

/-- What is added to a log file for a record. -/
def Record.fileBytes (time : String) (r : Record) : ByteArray :=
  if r.hasBytes time then (r.fileLine time).toUTF8 else ByteArray.empty

/-- A record in one line, for who collects records. -/
def Record.summary (r : Record) : String := r.level.name ++ " " ++ r.source ++ " " ++ r.text

/-- Where records go. -/
inductive Handler where
  /-- Collects every record. -/
  | journal
  /-- Shows records from a level on. -/
  | console (least : Level)
  /-- Adds records to the file at a location. -/
  | file (location : List String)
  deriving Repr, DecidableEq

/-- What stands before a line of captured output. -/
def outputGutter : String := "  | "

/-- The texts under which captured output is recorded, one line each. Line feeds at the very end
make no lines. -/
def outputLines (output : String) : List String :=
  (Text.lines (Text.stripFinalNewlines output)).map (outputGutter ++ ·)

end BuildBench
