import ScriptShell.Interpreter
import ScriptShell.Options

/-!
A whole run of the program from its command line: one command, one script, or a dialogue that ends
with the input.
-/

namespace ScriptShell.Program

/-- The input as it can be read: the text of its lines, and why what follows them is no text, where
that is so. -/
structure Input where
  text : String
  torn : Option Text.Utf8.Failure
  deriving DecidableEq, Repr

def Input.lines (input : Input) : List String := Text.inputLines input.text

/-- What a run is given. An argument is bytes, which need not be a text. -/
structure Request where
  arguments : List (List UInt8)
  input : Input
  terminal : Bool
  storePath : Option String
  homeStore : String
  visual : Option String
  editor : Option String
  noColor : Option String

/-- What a run does with its surroundings. Not every delay can be slept, for clocks have an end. -/
structure Surroundings where
  naming : Naming
  sleeps : Number.Binary64 → Bool
  breaks : Nat → Bool
  launch : Nat → Launch
  trace : String

inductive Crash where
  | emptyStore
  | emptyDelay
  | emptyCommand
  | tornInput (failure : Text.Utf8.Failure)
  deriving DecidableEq, Repr

def Crash.message : Crash → String
  | .emptyStore => "expected str, bytes or os.PathLike object, not list"
  | .emptyDelay => "'>' not supported between instances of 'list' and 'int'"
  | .emptyCommand => "'list' object has no attribute 'split'"
  | .tornInput failure => failure.message

inductive Ending where
  | finished (status : Nat)
  | onCommandLine (status : Nat)
  | crashed (crash : Crash)
  deriving DecidableEq, Repr

/-- Where nothing is told of how a run goes on: it is handed half a character, in an argument or in a
name or text of its store, or it comes to a pause that cannot be slept. -/
inductive Untold where
  | notText
  | oversleep
  deriving DecidableEq, Repr

def Untold.message : Untold → String
  | .notText => "surrogates not allowed"
  | .oversleep => "timestamp too large"

structure Outcome where
  ending : Ending
  delay : Number.Binary64
  outputs : List Output
  disk : Disk
  scratch : Scratch

def prompt : String := "CMD> "

def consoleOf (surroundings : Surroundings) (request : Request) (o : Options) : Console where
  color := Console.colorByDefault request.terminal request.noColor
  terminal := request.terminal
  verbosity := if o.debug then .everything else .errors
  trace := surroundings.trace

def hostOf (surroundings : Surroundings) (o : Options) (delay : Number.Binary64) : Host where
  naming := surroundings.naming
  limit := o.maxDepth
  pausing := delay.isPositive
  breaks := surroundings.breaks
  launch := surroundings.launch

def openStore (naming : Naming) (o : Options) (disk : Disk) : Except Crash Store.Opened :=
  if o.memory then .ok ⟨.ok (.inMemory Store.defaultFiles), disk, []⟩
  else
    match o.store with
    | .of path => .ok (Store.openAt naming path disk)
    | .empty => .error .emptyStore

def begin (request : Request) (store : Store) (opened : Store.Opened) : Session :=
  let surface := Surface.external (Editor.commandOf request.visual request.editor)
  { Session.start store opened.disk surface with history := opened.events.reverse }

def lineOf (o : Options) : Option (Setting String) :=
  match o.command with
  | some command => some command
  | none => o.script.map fun script => .of s!"RUN {script}"

def runLine (host : Host) (line : String) (s : Session) : Nat × Session :=
  match s.dispatch host line with
  | (.interrupted, s) => (130, s.close)
  | (.done (some report), s) => (if report.category = .error then 1 else 0, s.close)
  | (.done none, s) => (0, s.close)

def startUp (host : Host) (o : Options) (s : Session) : Session :=
  if o.noAutoexec then s
  else
    match s.boot host with
    | (.done _, s) => s
    | (.interrupted, s) => s.print .out ""

/-- Carry out the input line by line. A session is ended where the input ends, and is not where the
input cannot be read. -/
def runDialogue (host : Host) (o : Options) (input : Input) (s : Session) : Ending × Session :=
  let started := startUp host o s
  let lines := input.lines.map some
  match input.torn with
  | none => (.finished 0, started.interact host prompt lines)
  | some failure =>
    (.crashed (.tornInput failure), (started.takeTurns host prompt lines).ask prompt)

def runSession (surroundings : Surroundings) (request : Request) (o : Options) (s : Session) :
    Ending × Session :=
  match o.delay with
  | .empty => (.crashed .emptyDelay, s)
  | .of delay =>
    let host := hostOf surroundings o delay
    match lineOf o with
    | some .empty => (.crashed .emptyCommand, s)
    | some (.of line) =>
      let (status, s) := runLine host line s
      (.finished status, s)
    | none => runDialogue host o request.input s

def delayOf (o : Options) : Number.Binary64 :=
  match o.delay with
  | .of delay => delay
  | .empty => Options.defaultDelay

def oversleeps (surroundings : Surroundings) (o : Options) (s : Session) : Bool :=
  s.pauses ≠ 0 && !surroundings.sleeps (delayOf o)

def runWith (surroundings : Surroundings) (request : Request) (o : Options) (disk : Disk) :
    Except Untold Outcome :=
  let console := consoleOf surroundings request o
  match openStore surroundings.naming o disk with
  | .error crash => .ok ⟨.crashed crash, delayOf o, [], disk, .empty⟩
  | .ok opened =>
    match opened.result with
    | .error .unpaired => .error .notText
    | .error failure =>
      let told : Event := .printed .err s!"iqsh: cannot open store: {failure.message}\n"
      .ok ⟨.finished 2, delayOf o, console.renderAll (opened.events ++ [told]), opened.disk, .empty⟩
    | .ok store =>
      let (ending, s) := runSession surroundings request o (begin request store opened)
      if oversleeps surroundings o s then .error .oversleep
      else .ok ⟨ending, delayOf o, console.renderAll s.events, s.disk, s.scratch⟩

def Request.read? (request : Request) : Option Options.Verdict :=
  (request.arguments.mapM fun argument => (Text.Utf8.decode argument).toOption).map
    (Options.read (request.storePath.getD request.homeStore))

def run (surroundings : Surroundings) (request : Request) (disk : Disk) : Except Untold Outcome :=
  let ended (status : Nat) (stream : Stream) (text : String) : Except Untold Outcome :=
    .ok ⟨.onCommandLine status, Options.defaultDelay, [.text stream text], disk, .empty⟩
  match request.read? with
  | none => .error .notText
  | some (.refused problem) => ended 2 .err (Options.refusalText problem)
  | some .help => ended 0 .out Options.helpText
  | some .version => ended 0 .out Options.versionText
  | some (.run o) => runWith surroundings request o disk

end ScriptShell.Program
