import ScriptShell.Editor.CommandLine
import ScriptShell.Text.Case
import ScriptShell.Text.Newline

namespace ScriptShell

structure TempFile where
  number : Nat
  path : String
  deriving DecidableEq, Repr

structure Scratch where
  files : List (Nat × List UInt8)
  next : Nat
  deriving DecidableEq, Repr

namespace Scratch

def empty : Scratch := ⟨[], 0⟩

instance : Inhabited Scratch := ⟨empty⟩

def read? (scratch : Scratch) (number : Nat) : Option (List UInt8) := scratch.files.lookup number

def remove (scratch : Scratch) (number : Nat) : Scratch :=
  { scratch with files := scratch.files.filter fun file => file.1 ≠ number }

def write (scratch : Scratch) (number : Nat) (bytes : List UInt8) : Scratch :=
  { scratch with files := (number, bytes) :: (scratch.remove number).files }

def create (scratch : Scratch) (naming : Naming) (ending : String) (bytes : List UInt8) :
    Except Disk.Failure (TempFile × Scratch) :=
  let name := s!"iqsh-{naming.tag scratch.next}{ending}"
  let path := s!"{naming.temporary}/{name}"
  if Disk.hasNull path then .error .nullInPath
  else if Disk.isLongName name then .error (.access .nameTooLong path)
  else
    .ok (⟨scratch.next, path⟩, ⟨(scratch.next, bytes) :: scratch.files, scratch.next + 1⟩)

def count (scratch : Scratch) : Nat := scratch.files.length

end Scratch

inductive Surface where
  | buffer
  | external (command : Option String)
  deriving DecidableEq, Repr

structure Editor where
  surface : Surface
  fileName : Option String
  buffer : String
  temp : Option TempFile
  deriving DecidableEq, Repr

namespace Editor

def closed (surface : Surface) : Editor := ⟨surface, none, "", none⟩

def commandOf (first second : Option String) : Option String :=
  match first with
  | some command => if command = "" then second else some command
  | none => second

def command (editor : Editor) : Option String :=
  match editor.surface with
  | .buffer => none
  | .external command => command

/-- What follows the last dot of a file name, with the dot. A name that has its dots only in front
has none of this. -/
def extension (name : String) : String :=
  let last := (name.toList.reverse.takeWhile (· ≠ '/')).reverse
  let body := last.dropWhile (· = '.')
  if body.contains '.' then String.ofList ('.' :: (body.reverse.takeWhile (· ≠ '.')).reverse)
  else ""

def text (editor : Editor) (scratch : Scratch) : Except Failure String :=
  match editor.temp with
  | none => .ok editor.buffer
  | some temp =>
    match scratch.read? temp.number with
    | some bytes => .ok (Text.unifyNewlines (Text.Utf8.decodeLossy bytes))
    | none => .error (.disk (.access .missing temp.path))

end Editor

end ScriptShell
