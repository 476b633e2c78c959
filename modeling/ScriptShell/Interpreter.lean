import ScriptShell.Command
import ScriptShell.Value
import ScriptShell.Verb

namespace ScriptShell

inductive Reply where
  | done (report : Option Report)
  | interrupted
  deriving DecidableEq, Repr

namespace Interpreter

def gateReport : Report := .error "Currently in editor mode. Use SAVE or CLOSE."

def isEditorVerb (verb : String) : Bool := verb = "SAVE" || verb = "CLOSE"

def conclude (line : String) : Step (Option Report) → Reply × Session
  | (.ok report, s) => (.done report, s)
  | (.error (.fault (.refusal refusal)), s) =>
    (.done (some (.error s!"ERROR: {refusal.message}")), s)
  | (.error (.fault (.failure failure)), s) =>
    (.done (some (.error s!"An unexpected error occurred: {failure.message}")),
      s.record (.logged .error .shell s!"command failed: {Text.trim line}"))
  | (.error .interrupt, s) => (.interrupted, s)

def call (host : Host) (runScript : String → Session → Step Report) (i : Invocation)
    (s : Session) : Step (Option Report) :=
  match Verb.ofName? i.verb with
  | some verb => verb.perform host runScript i s
  | none => (.ok (some (.error s!"UNKNOWN COMMAND: {i.verb}")), s)

def noted (line : String) (s : Session) : Session :=
  s.log .shell s!"Executing command: {Text.trim line}"

def isBarred (verb : String) (s : Session) : Bool := s.isEditing && !isEditorVerb verb

def gate (verb line : String) (s : Session) (proceed : Session → Reply × Session) :
    Reply × Session :=
  if isBarred verb s then (.done (some gateReport), noted line s) else proceed (noted line s)

def inCondition : Refusal → Refusal
  | .undefinedVariable name => .undefinedInCondition name
  | refusal => refusal

def weighed (c : Condition) (body : String) (s : Session) : Session :=
  s.log .condition s!"IF {c.left.describe} {c.operator.symbol} {c.right.describe} -> {body}"

def branched (body : String) (s : Session) : Session :=
  s.emit (.success s!"IF condition met. Executing: {body}")

def executeCommand (host : Host) (runScript : String → Session → Step Report) :
    Command → String → Session → Reply × Session
  | .blank, _, s => (.done none, s)
  | .call i, line, s => gate i.verb line s fun s => conclude line (call host runScript i s)
  | .malformed refusal, line, s =>
    gate "IF" line s fun s => conclude line (.error (.refusal refusal), s)
  | .conditional c body command, line, s =>
    gate "IF" line s fun s =>
      match c.evaluate s.vars with
      | .error refusal =>
        conclude line (.error (.refusal (inCondition refusal)), weighed c body s)
      | .ok false => (.done (some (.info "IF condition not met.")), weighed c body s)
      | .ok true => executeCommand host runScript command body (branched body (weighed c body s))

def executeWith (host : Host) (runScript : String → Session → Step Report) (line : String)
    (s : Session) : Reply × Session :=
  executeCommand host runScript (.ofLine line) line s

def conveyed : Reply × Session → Reply × Session
  | (.done (some report), s) => (.done (some report), { s.emit report with last := some report })
  | (reply, s) => (reply, s)

def dispatchWith (host : Host) (runScript : String → Session → Step Report) (line : String)
    (s : Session) : Reply × Session :=
  conveyed (executeWith host runScript line s)

def pauseBefore (host : Host) (first : Bool) (s : Session) : Bool × Session :=
  if host.pausing && !first then s.pause host else (false, s)

def echoed (line : String) (s : Session) : Session := s.emit (.info s!"> {line}")

def runLines (host : Host) (dispatch : String → Session → Reply × Session) (first : Bool) :
    List String → Session → Bool × Session
  | [], s => (false, s)
  | line :: rest, s =>
    match pauseBefore host first s with
    | (true, s) => (true, s)
    | (false, s) =>
      match dispatch line (echoed line s) with
      | (.interrupted, s) => (true, s)
      | (.done _, s) => runLines host dispatch false rest s

def entered (name : String) (s : Session) : Session :=
  let told := s.emit (.success s!"--- RUNNING SCRIPT {name} ---")
  let count := (s.script name).length
  { told.log .runner s!"running {name} ({count} lines, depth {s.depth + 1})" with
    depth := s.depth + 1 }

def left (s : Session) : Session := { s with depth := s.depth - 1 }

def finish (name : String) : Bool × Session → Step Report
  | (true, s) => (.error .interrupt, left s)
  | (false, s) => (.ok (.success s!"--- SCRIPT {name} FINISHED ---"), left s)

/-- Run a script that is allowed `room` levels of scripts below and including itself. The level of
nesting is counted up while its lines run, and down again however they end. -/
def runScript (host : Host) : Nat → String → Session → Step Report
  | 0, _, s => (.error host.scriptRefused, s)
  | room + 1, name, s =>
    if host.allowsScript s.depth then
      finish name <| runLines host (dispatchWith host (runScript host room)) true (s.script name)
        (entered name s)
    else (.error host.scriptRefused, s)

end Interpreter

namespace Session

def room (s : Session) (host : Host) : Nat :=
  match host.limit with
  | .of limit => (limit - s.depth).toNat
  | .empty => 0

def execute (s : Session) (host : Host) (line : String) : Reply × Session :=
  Interpreter.executeWith host (Interpreter.runScript host (s.room host)) line s

def dispatch (s : Session) (host : Host) (line : String) : Reply × Session :=
  Interpreter.dispatchWith host (Interpreter.runScript host (s.room host)) line s

def boot (s : Session) (host : Host) : Reply × Session :=
  if s.store.contains startupScript then s.dispatch host s!"RUN {startupScript}"
  else (.done none, s)

/-- One turn of a dialogue: carry out a line, or none if reading was interrupted. An interrupt ends
the line of output. -/
def turn (s : Session) (host : Host) : Option String → Session
  | none => s.print .out ""
  | some line =>
    match s.dispatch host line with
    | (.done _, s) => s
    | (.interrupted, s) => s.print .out ""

def ask (s : Session) (prompt : String) : Session := s.record (.printed .out prompt)

def endDialogue (s : Session) : Session := (s.print .out "").close

def takeTurns (s : Session) (host : Host) (prompt : String) (lines : List (Option String)) : Session :=
  lines.foldl (fun s line => (s.ask prompt).turn host line) s

def interact (s : Session) (host : Host) (prompt : String) : List (Option String) → Session
  | [] => (s.ask prompt).endDialogue
  | line :: rest => ((s.ask prompt).turn host line).interact host prompt rest

end Session

end ScriptShell
