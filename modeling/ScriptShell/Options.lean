import ScriptShell.Number.Literal
import ScriptShell.Options.Flag
import ScriptShell.Setting

/-!
The options of the command line, read as argparse 3.11 did before two minus signs attached to an
option were kept as its value: here they leave it empty. Words are taken from left to right; asking
for help or the version ends the reading there, and so does the first problem. Words nobody takes
are told at the end.
-/

namespace ScriptShell

structure Options where
  script : Option String
  command : Option (Setting String)
  store : Setting String
  memory : Bool
  delay : Setting Number.Binary64
  maxDepth : Setting Int
  noAutoexec : Bool
  debug : Bool
  deriving DecidableEq, Repr

namespace Options

def defaultDelay : Number.Binary64 := (⟨false, 3, -1⟩ : Number.Decimal).toBinary64

def default (store : String) : Options where
  script := none
  command := none
  store := .of store
  memory := false
  delay := .of defaultDelay
  maxDepth := .of 16
  noAutoexec := false
  debug := false

inductive BadLimit where
  | notAnInteger (text : String)
  | tooSmall (value : Int)
  deriving DecidableEq, Repr

def BadLimit.message : BadLimit → String
  | .notAnInteger text => s!"invalid int value: '{text}'"
  | .tooSmall value => s!"must be at least 1, not {value}"

inductive Problem where
  | ambiguous (ambiguity : Ambiguity)
  | expectedOne (flag : Flag)
  | ignored (flag : Flag) (text : String)
  | badDelay (text : String)
  | badLimit (reason : BadLimit)
  | unrecognized (words : List String)
  deriving DecidableEq, Repr

def Problem.message : Problem → String
  | .ambiguous a =>
    let several := Text.join ", " a.spellings
    s!"ambiguous option: {a.text} could match {several}"
  | .expectedOne flag => s!"argument {flag.title}: expected one argument"
  | .ignored flag text =>
    s!"argument {flag.title}: ignored explicit argument {Text.quoted text}"
  | .badDelay text => s!"argument {Flag.delay.title}: invalid float value: {Text.quoted text}"
  | .badLimit reason => s!"argument {Flag.maxDepth.title}: {reason.message}"
  | .unrecognized words =>
    let all := Text.join " " words
    s!"unrecognized arguments: {all}"

inductive Verdict where
  | run (options : Options)
  | help
  | version
  | refused (problem : Problem)
  deriving DecidableEq, Repr

def readLimit (text : String) : Except BadLimit Int :=
  match Number.Literal.integer? text with
  | none => .error (.notAnInteger text)
  | some n => if n < 1 then .error (.tooSmall n) else .ok n

def clearValue (o : Options) : Flag → Options
  | .command => { o with command := some .empty }
  | .store => { o with store := .empty }
  | .delay => { o with delay := .empty }
  | .maxDepth => { o with maxDepth := .empty }
  | _ => o

def setValue (o : Options) (flag : Flag) (text : String) : Except Problem Options :=
  -- The separator is dropped even where it is the value, and nothing is left to convert.
  if text = "--" then .ok (o.clearValue flag)
  else
    match flag with
    | .command => .ok { o with command := some (.of text) }
    | .store => .ok { o with store := .of text }
    | .delay =>
      match Number.Literal.real? text with
      | some delay => .ok { o with delay := .of delay }
      | none => .error (.badDelay text)
    | .maxDepth =>
      match readLimit text with
      | .ok limit => .ok { o with maxDepth := .of limit }
      | .error reason => .error (.badLimit reason)
    | _ => .ok o

def raise (o : Options) : Flag → Except Verdict Options
  | .help => .error .help
  | .version => .error .version
  | .memory => .ok { o with memory := true }
  | .noAutoexec => .ok { o with noAutoexec := true }
  | .debug => .ok { o with debug := true }
  | _ => .ok o

/-- What short flags written together come to, the first being the one for help. They are looked
through before help is given. -/
def helpCluster (valueFollows : Bool) : List Char → Verdict
  | [] => .help
  | c :: cs =>
    if c = 'h' then helpCluster valueFollows cs
    else if c = 'c' then
      if cs.isEmpty && !valueFollows then .refused (.expectedOne .command) else .help
    else .refused (.ignored .help (String.ofList (c :: cs)))

def startsWithArgument : List Word → Bool
  | .argument _ :: _ => true
  | _ => false

def attachedVerdict (flag : Flag) (short : Bool) (text : String) (valueFollows : Bool) : Verdict :=
  -- Of the flags that take no value only that for help has a short spelling.
  if short && text ≠ "" then helpCluster valueFollows text.toList
  else .refused (.ignored flag text)

/-- Read classified words. The script can be named once, by the first argument, together with a
separator on either side of it. -/
def readWords (o : Options) (scriptOpen : Bool) (extras : List String) : List Word → Verdict
  | [] => if extras = [] then .run o else .refused (.unrecognized extras.reverse)
  | .unknown text :: rest => readWords o scriptOpen (text :: extras) rest
  | .argument text :: .separator :: rest =>
    if scriptOpen then readWords { o with script := some text } false extras rest
    else readWords o false ("--" :: text :: extras) rest
  | .argument text :: rest =>
    if scriptOpen then readWords { o with script := some text } false extras rest
    else readWords o false (text :: extras) rest
  | .separator :: .argument text :: rest =>
    if scriptOpen then readWords { o with script := some text } false extras rest
    else readWords o false (text :: "--" :: extras) rest
  | .separator :: rest => readWords o false (if scriptOpen then extras else "--" :: extras) rest
  | .flag flag short (some attached) :: rest =>
    if flag.takesValue then
      match o.setValue flag attached with
      | .ok o => readWords o scriptOpen extras rest
      | .error problem => .refused problem
    else attachedVerdict flag short attached (startsWithArgument rest)
  | .flag flag _ none :: .argument text :: rest =>
    if flag.takesValue then
      match o.setValue flag text with
      | .ok o => readWords o scriptOpen extras rest
      | .error problem => .refused problem
    else
      match o.raise flag with
      | .ok o => readWords o scriptOpen extras (.argument text :: rest)
      | .error verdict => verdict
  | .flag flag _ none :: rest =>
    if flag.takesValue then .refused (.expectedOne flag)
    else
      match o.raise flag with
      | .ok o => readWords o scriptOpen extras rest
      | .error verdict => verdict

def read (store : String) (words : List String) : Verdict :=
  match classifyAll words with
  | .error ambiguity => .refused (.ambiguous ambiguity)
  | .ok words => readWords (default store) true [] words

def usageText : String :=
  "usage: iqsh [-h] [-c COMMAND] [--store PATH] [--memory] [--delay SECONDS]\n" ++
  "            [--max-depth N] [--no-autoexec] [--debug] [--version]\n" ++
  "            [FILE.ISH]\n"

def helpText : String :=
  usageText ++
  "\nIQ-System shell: a tiny command and .ISH script interpreter\n" ++
  "\npositional arguments:\n" ++
  "  FILE.ISH         Run this script from the store instead of starting the\n" ++
  "                   prompt\n" ++
  "\noptions:\n" ++
  "  -h, --help       show this help message and exit\n" ++
  "  -c COMMAND       Run a single command and exit\n" ++
  "  --store PATH     JSON file holding the files (default: $IQSH_STORE or\n" ++
  "                   ~/.iqsh.json)\n" ++
  "  --memory         Keep files in memory only; nothing is saved\n" ++
  "  --delay SECONDS  Pause between script lines (default: 0.3, 0 disables)\n" ++
  "  --max-depth N    Limit on scripts RUN from inside scripts (default: 16)\n" ++
  "  --no-autoexec    Do not run AUTOEXEC.ISH at startup\n" ++
  "  --debug          Log every command to stderr\n" ++
  "  --version        show program's version number and exit\n"

def versionText : String := "iqsh 3.1.0\n"

def refusalText (problem : Problem) : String :=
  usageText ++ s!"iqsh: error: {problem.message}\n"

end Options

end ScriptShell
