import ScriptShell.Editor
import ScriptShell.Setting
import ScriptShell.Store
import ScriptShell.Variables

/-!
A session of the shell: everything a line can read or change, and what the session has done so far.
The surroundings that answer for it, such as the outside editor or a key that breaks off a pause,
are a `Host`.
-/

namespace ScriptShell

inductive Touch where
  | leaves
  | removes
  | writes (bytes : List UInt8)
  deriving DecidableEq, Repr

def Touch.apply (scratch : Scratch) (number : Nat) : Touch → Scratch
  | .leaves => scratch
  | .removes => scratch.remove number
  | .writes bytes => scratch.write number bytes

inductive LaunchEnd where
  | returned
  | failed (message : String)
  | interrupted
  deriving DecidableEq, Repr

/-- What comes of starting the outside editor. It may have touched its file before it fails. -/
inductive Launch where
  | notFound
  | ran (touch : Touch) (ending : LaunchEnd)
  deriving DecidableEq, Repr

def Launch.isInterrupted : Launch → Bool
  | .ran _ .interrupted => true
  | _ => false

/-- The surroundings of a session: the limit on scripts inside scripts, whether there are pauses
between their lines, which pauses are broken off and how launches end, each counted from zero. -/
structure Host where
  naming : Naming
  limit : Setting Int
  pausing : Bool
  breaks : Nat → Bool
  launch : Nat → Launch

structure Session where
  vars : Variables
  editing : Option String
  store : Store
  disk : Disk
  editor : Editor
  scratch : Scratch
  viewing : Option String
  depth : Nat
  last : Option Report
  pauses : Nat
  launches : Nat
  -- The latest one first.
  history : List Event
  deriving DecidableEq, Repr

inductive Stop where
  | fault (fault : Fault)
  | interrupt
  deriving DecidableEq, Repr

namespace Stop

def refusal (r : Refusal) : Stop := .fault (.refusal r)

def failure (f : Failure) : Stop := .fault (.failure f)

end Stop

namespace Host

def allowsScript (host : Host) (depth : Nat) : Bool :=
  match host.limit with
  | .of limit => depth < limit
  | .empty => false

def scriptRefused (host : Host) : Stop :=
  match host.limit with
  | .of limit => .refusal (.nestedTooDeep limit)
  | .empty => .failure .emptyLimit

end Host

abbrev Step (α : Type) := Except Stop α × Session

namespace Session

def start (store : Store) (disk : Disk) (surface : Surface) : Session where
  vars := .empty
  editing := none
  store := store
  disk := disk
  editor := .closed surface
  scratch := .empty
  viewing := none
  depth := 0
  last := none
  pauses := 0
  launches := 0
  history := []

def events (s : Session) : List Event := s.history.reverse

def record (s : Session) (event : Event) : Session := { s with history := event :: s.history }

def emit (s : Session) (report : Report) : Session := s.record (.reported report)

def print (s : Session) (stream : Stream) (text : String) : Session :=
  s.record (.printed stream (text ++ "\n"))

def log (s : Session) (origin : Origin) (message : String) : Session :=
  s.record (.logged .debug origin message)

def clearScreen (s : Session) : Session := s.record .cleared

def showFile (s : Session) (name content : String) : Session :=
  { s.record (.shown name content) with viewing := some name }

def hideFile (s : Session) : Option String → Session
  | none => { s with viewing := none }
  | some name => if s.viewing = some name then { s with viewing := none } else s

def isEditing (s : Session) : Bool := s.editing.isSome

def enterEdit (s : Session) (name : String) : Session :=
  { s.log .mode s!"mode: editing {name}" with editing := some name }

def leaveEdit (s : Session) : Session :=
  let name := s.editing.getD "None"
  { s.log .mode s!"mode: normal (was editing {name})" with editing := none }

def applyChange (s : Session) (change : Store.Change) : Step Unit :=
  let changed := { s with store := change.store, disk := change.disk }
  match change.result with
  | .ok _ => (.ok (), { changed with history := change.store.flushed.reverse ++ changed.history })
  | .error failure => (.error (.failure failure), changed)

def putFile (s : Session) (naming : Naming) (name content : String) : Step Unit :=
  s.applyChange (s.store.put naming s.disk name content)

def deleteFile (s : Session) (naming : Naming) (name : String) : Step Unit :=
  s.applyChange (s.store.delete naming s.disk name)

def clearFiles (s : Session) (naming : Naming) : Step Unit :=
  s.applyChange (s.store.clear naming s.disk)

def script (s : Session) (name : String) : List String :=
  scriptLines ((s.store.get? name).getD "")

def pause (s : Session) (host : Host) : Bool × Session :=
  (host.breaks s.pauses, { s.record .paused with pauses := s.pauses + 1 })

def closeEditor (s : Session) : Session :=
  let closed := { s with editor := .closed s.editor.surface }
  match s.editor.temp with
  | none => closed
  | some temp =>
    let removed := { closed with scratch := s.scratch.remove temp.number }
    if (s.scratch.read? temp.number).isSome then removed
    else removed.log .editor s!"editor file {temp.path} already removed"

def launchEditor (s : Session) (host : Host) (command : String) (temp : TempFile) : Step Unit :=
  match Editor.splitCommand command with
  | .error failure => (.error (.failure failure), s.closeEditor)
  | .ok words =>
    let launched :=
      { s.record (.launched (words ++ [temp.path])) with launches := s.launches + 1 }
    match host.launch s.launches with
    | .notFound =>
      (.ok (), launched.print .err s!"{command}: command not found; edit {temp.path} instead")
    | .ran touch ending =>
      let touched := { launched with scratch := touch.apply launched.scratch temp.number }
      match ending with
      | .returned => (.ok (), touched)
      | .failed message => (.error (.failure (.launch message)), touched.closeEditor)
      | .interrupted => (.error .interrupt, touched.closeEditor)

def openEditor (s : Session) (host : Host) (name content : String) : Step Unit :=
  let held := { s with editor := { s.editor with fileName := some name, buffer := content } }
  match s.editor.surface with
  | .buffer => (.ok (), held)
  | .external command =>
    match s.scratch.create host.naming (Text.lower (Editor.extension name))
      (Text.Utf8.encode content) with
    | .error failure => (.error (.failure (.disk failure)), held)
    | .ok (temp, scratch) =>
      let opened :=
        { held with editor := { held.editor with temp := some temp }, scratch := scratch }
      match command with
      | none => (.ok (), opened.print .out s!"Edit {temp.path}, then SAVE or CLOSE.")
      | some command =>
        if command = "" then
          (.ok (), opened.print .out s!"Edit {temp.path}, then SAVE or CLOSE.")
        else opened.launchEditor host command temp

def typeText (s : Session) (bytes : List UInt8) : Session :=
  match s.editor.temp with
  | some temp => { s with scratch := s.scratch.write temp.number bytes }
  | none => { s with editor := { s.editor with buffer := Text.Utf8.decodeLossy bytes } }

def close (s : Session) : Session := if s.isEditing then s.closeEditor.leaveEdit else s

end Session

end ScriptShell
