import ScriptShell.Command.Invocation
import ScriptShell.Session

namespace ScriptShell

inductive Verb where
  | var
  | help
  | echo
  | cls
  | ls
  | view
  | rm
  | edit
  | save
  | close
  | run
  | format
  deriving DecidableEq, Repr

namespace Verb

def name : Verb → String
  | .var => "VAR"
  | .help => "HELP"
  | .echo => "ECHO"
  | .cls => "CLS"
  | .ls => "LS"
  | .view => "VIEW"
  | .rm => "RM"
  | .edit => "EDIT"
  | .save => "SAVE"
  | .close => "CLOSE"
  | .run => "RUN"
  | .format => "FORMAT"

def ofName? (name : String) : Option Verb :=
  [var, help, echo, cls, ls, view, rm, edit, save, close, run, format].find? fun verb =>
    verb.name = name

def helpText : String :=
  "--- AVAILABLE COMMANDS ---\n" ++
  "VAR [NAME] = [VALUE] - Define or update a variable. [VALUE] may be $NAME.\n" ++
  "IF (<CONDITION>) \x7b<COMMAND>\x7d - Execute command based on condition (===, >, <).\n" ++
  "VIEW [F]   - Displays a file in the viewer.\n" ++
  "EDIT [F]   - Edits a file. Allowed extensions: .TXT, .ISH\n" ++
  "SAVE       - Saves the file being edited.\n" ++
  "CLOSE      - Closes the editor without saving.\n" ++
  "RUN [F.ISH]- Executes an IQ-System Shell script.\n" ++
  "LS         - Lists all files.\n" ++
  "RM [F]     - Deletes a file.\n" ++
  "CLS        - Clears the terminal.\n" ++
  "FORMAT     - Wipes all local files.\n" ++
  "ECHO [MSG] - Prints a message."

def fileNotFound : Report := .error "ERROR: FILE NOT FOUND"

def notEditing : Report := .error "ERROR: NOT IN EDIT MODE"

def followedBy (step : Step Unit) (next : Session → Session) (report : Report) : Step Report :=
  match step with
  | (.ok _, s) => (.ok report, next s)
  | (.error stop, s) => (.error stop, s)

def names (s : Session) (name : String) : Bool := name ≠ "" && s.store.contains name

/-- `VAR name = value`: exactly one equals sign, and something on both sides of it. The value is
looked up before anything is set. -/
def setVariable (i : Invocation) (s : Session) : Step Report :=
  match (Text.pieces '=' i.argumentText).map Text.trim with
  | [name, word] =>
    if name = "" ∨ word = "" then (.error (.refusal .malformedVar), s)
    else
      match s.vars.resolve word with
      | .error refusal => (.error (.refusal refusal), s)
      | .ok value =>
        (.ok (.success s!"Variable '{Text.upper name}' set to '{value}'."),
          { s with vars := s.vars.set (Text.upper name) value })
  | _ => (.error (.refusal .malformedVar), s)

def listFiles (s : Session) : Report :=
  if s.store.list = [] then .info "No files found." else .info (Text.join "\n" s.store.list)

def viewFile (name : String) (s : Session) : Step Report :=
  if names s name then
    (.ok (.info s!"Viewing file '{name}'."), s.showFile name ((s.store.get? name).getD ""))
  else (.ok fileNotFound, s)

def removeFile (host : Host) (name : String) (s : Session) : Step Report :=
  if names s name then
    followedBy (s.deleteFile host.naming name) (·.hideFile (some name))
      (.success s!"File '{name}' deleted.")
  else (.ok fileNotFound, s)

def editFile (host : Host) (name : String) (s : Session) : Step Report :=
  if isEditableName name then
    followedBy (s.openEditor host name ((s.store.get? name).getD "")) (·.enterEdit name)
      (.info s!"Editing file '{name}'. Use SAVE or CLOSE when done.")
  else (.ok (.error "ERROR: Filename must end with .TXT or .ISH"), s)

def saveFile (host : Host) (s : Session) : Step Report :=
  match s.editing with
  | none => (.ok notEditing, s)
  | some name =>
    match s.editor.text s.scratch with
    | .error failure => (.error (.failure failure), s)
    | .ok text =>
      followedBy (s.putFile host.naming name text) (·.closeEditor.leaveEdit)
        (.success s!"File '{name}' saved.")

def closeFile (s : Session) : Step Report :=
  match s.editing with
  | none => (.ok notEditing, s)
  | some name =>
    (.ok (.info s!"Closed editor for '{name}' without saving."), s.closeEditor.leaveEdit)

def formatStore (host : Host) (arguments : List String) (s : Session) : Step Report :=
  if arguments.head?.map Text.upper = some "YES" then
    followedBy (s.clearFiles host.naming) (·.hideFile none) (.success "Local storage formatted.")
  else
    (.ok (.error "WARNING: This will delete all files. Type 'FORMAT YES' to confirm."), s)

def runFile (runScript : String → Session → Step Report) (name : String) (s : Session) :
    Step Report :=
  if isScriptName name ∧ s.store.contains name then runScript name s
  else (.ok (.error "ERROR: Can only run .ISH script files."), s)

def perform (host : Host) (runScript : String → Session → Step Report) (i : Invocation)
    (s : Session) : Verb → Step (Option Report)
  | .var => reporting (setVariable i s)
  | .help => (.ok (some (.info helpText)), s)
  | .echo => (.ok (some (.info i.argumentText)), s)
  | .cls => (.ok none, s.clearScreen)
  | .ls => (.ok (some (listFiles s)), s)
  | .view => reporting (viewFile i.fileName s)
  | .rm => reporting (removeFile host i.fileName s)
  | .edit => reporting (editFile host i.fileName s)
  | .save => reporting (saveFile host s)
  | .close => reporting (closeFile s)
  | .run => reporting (runFile runScript i.fileName s)
  | .format => reporting (formatStore host i.arguments s)
where
  reporting : Step Report → Step (Option Report)
    | (.ok report, s) => (.ok (some report), s)
    | (.error stop, s) => (.error stop, s)

end Verb

end ScriptShell
