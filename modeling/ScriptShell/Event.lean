import ScriptShell.Report

namespace ScriptShell

inductive Stream where
  | out
  | err
  deriving DecidableEq, Repr

inductive Level where
  | debug
  | error
  deriving DecidableEq, Repr

inductive Origin where
  | shell
  | condition
  | runner
  | mode
  | store
  | editor
  deriving DecidableEq, Repr

inductive Event where
  | reported (report : Report)
  | shown (name content : String)
  | cleared
  | printed (stream : Stream) (text : String)
  | launched (arguments : List String)
  | paused
  | logged (level : Level) (origin : Origin) (message : String)
  deriving DecidableEq, Repr

inductive Output where
  | text (stream : Stream) (text : String)
  | launch (arguments : List String)
  | pause
  deriving DecidableEq, Repr

namespace Level

def label : Level → String
  | .debug => "DEBUG"
  | .error => "ERROR"

end Level

def Origin.label : Origin → String
  | .shell => "shell"
  | .condition => "if_parser"
  | .runner => "runner"
  | .mode => "shell_state"
  | .store => "file_store"
  | .editor => "editor"

inductive Verbosity where
  | silent
  | errors
  | everything
  deriving DecidableEq, Repr

def Verbosity.shows : Verbosity → Level → Bool
  | .silent, _ => false
  | .errors, level => level = .error
  | .everything, _ => true

/-- How events are shown. The `trace` is written below an error in the log. -/
structure Console where
  color : Bool
  terminal : Bool
  verbosity : Verbosity
  trace : String
  deriving DecidableEq, Repr

namespace Console

def colorByDefault (terminal : Bool) (noColor : Option String) : Bool :=
  terminal && noColor.isNone

def colorOf : Category → String
  | .info => ""
  | .success => "\x1b[32m"
  | .error => "\x1b[31m"

def resetColor : String := "\x1b[0m"

def clearScreen : String := "\x1b[2J\x1b[H"

def streamOf : Category → Stream
  | .error => .err
  | _ => .out

def line (console : Console) (report : Report) : String :=
  if console.color ∧ colorOf report.category ≠ "" then
    colorOf report.category ++ report.text ++ resetColor ++ "\n"
  else report.text ++ "\n"

def render (console : Console) : Event → List Output
  | .reported report => [.text (streamOf report.category) (console.line report)]
  | .shown name content =>
    [.text .out (s!"=== {name} ===\n" ++ (if content = "" then "" else content ++ "\n") ++
      s!"=== end of {name} ===\n")]
  | .cleared => if console.terminal then [.text .out clearScreen] else []
  | .printed stream text => [.text stream text]
  | .launched arguments => [.launch arguments]
  | .paused => [.pause]
  | .logged level origin message =>
    if console.verbosity.shows level then
      [.text .err (s!"{level.label} {origin.label}: {message}\n" ++
        (if level = .error then console.trace ++ "\n" else ""))]
    else []

def renderAll (console : Console) (events : List Event) : List Output :=
  events.flatMap console.render

end Console

end ScriptShell
