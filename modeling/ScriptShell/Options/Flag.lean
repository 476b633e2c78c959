import ScriptShell.Text.Digit
import ScriptShell.Text.Quoted
import ScriptShell.Text.Search

namespace ScriptShell.Options

inductive Flag where
  | help
  | command
  | store
  | memory
  | delay
  | maxDepth
  | noAutoexec
  | debug
  | version
  deriving DecidableEq, Repr

namespace Flag

def spellings : Flag → List String
  | .help => ["-h", "--help"]
  | .command => ["-c"]
  | .store => ["--store"]
  | .memory => ["--memory"]
  | .delay => ["--delay"]
  | .maxDepth => ["--max-depth"]
  | .noAutoexec => ["--no-autoexec"]
  | .debug => ["--debug"]
  | .version => ["--version"]

def all : List Flag :=
  [.help, .command, .store, .memory, .delay, .maxDepth, .noAutoexec, .debug, .version]

def table : List (String × Flag) := all.flatMap fun flag => flag.spellings.map fun s => (s, flag)

def ofSpelling? (spelling : String) : Option Flag := table.lookup spelling

def title (flag : Flag) : String := Text.join "/" flag.spellings

def takesValue : Flag → Bool
  | .command | .store | .delay | .maxDepth => true
  | _ => false

end Flag

/-- What a word of the command line is. A flag is spelled with one minus sign or with two, and text
may be attached to it, after an equals sign or directly. -/
inductive Word where
  | argument (text : String)
  | separator
  | flag (flag : Flag) (short : Bool) (attached : Option String)
  | unknown (text : String)
  deriving DecidableEq, Repr

structure Ambiguity where
  text : String
  spellings : List String
  deriving DecidableEq, Repr

def cutEquals (word : List Char) : List Char × Option String :=
  match Text.cutChars ['='] word with
  | some (before, after) => (before, some (String.ofList after))
  | none => (word, none)

def isNegativeNumber : List Char → Bool
  | '-' :: cs =>
    let cs := if cs.getLast? = some '\n' then cs.dropLast else cs
    let whole := cs.takeWhile Text.isDigit
    match cs.dropWhile Text.isDigit with
    | [] => !whole.isEmpty
    | '.' :: fraction => !fraction.isEmpty && fraction.all Text.isDigit
    | _ => false
  | _ => false

def candidates : List Char → List (String × Flag × Option String)
  | '-' :: '-' :: cs =>
    let (start, attached) := cutEquals ('-' :: '-' :: cs)
    (Flag.table.filter fun entry => start.isPrefixOf entry.1.toList).map fun (spelling, flag) =>
      (spelling, flag, attached)
  | '-' :: c :: cs =>
    (Flag.table.filter fun entry => entry.1.toList = ['-', c]).map fun (spelling, flag) =>
      (spelling, flag, some (String.ofList cs))
  | _ => []

def classify (word : String) : Except Ambiguity Word :=
  match word.toList with
  | '-' :: c :: cs =>
    let whole := Flag.ofSpelling? word
    let (before, attached) := cutEquals ('-' :: c :: cs)
    let short := c ≠ '-'
    match whole, attached, Flag.ofSpelling? (String.ofList before) with
    | some flag, _, _ => .ok (.flag flag short none)
    | none, some text, some flag => .ok (.flag flag short (some text))
    | none, _, _ =>
      match candidates ('-' :: c :: cs) with
      | [(_, flag, attached)] => .ok (.flag flag short attached)
      | [] =>
        if isNegativeNumber ('-' :: c :: cs) || cs.contains ' ' || c = ' ' then
          .ok (.argument word)
        else .ok (.unknown word)
      | several => .error ⟨word, several.map fun (spelling, _, _) => spelling⟩
  | _ => .ok (.argument word)

def classifyAll : List String → Except Ambiguity (List Word)
  | [] => .ok []
  | word :: rest =>
    if word = "--" then .ok (.separator :: rest.map .argument)
    else
      match classify word, classifyAll rest with
      | .ok word, .ok words => .ok (word :: words)
      | .error ambiguity, _ => .error ambiguity
      | _, .error ambiguity => .error ambiguity

end ScriptShell.Options
