import ScriptShell.Event
import ScriptShell.Failure
import ScriptShell.Json.Writer
import ScriptShell.Script
import ScriptShell.Table
import ScriptShell.Text.Newline

namespace ScriptShell

structure Store where
  files : Table String
  path : Option String
  deriving DecidableEq, Repr

namespace Store

def defaultFiles : Table String :=
  ⟨[(startupScript, "ECHO \"Welcome to IQsystem v3.1\"\nECHO \"Type HELP for command list.\""),
    ("EXAMPLE.TXT", "This is a standard text file.")]⟩

def inMemory (files : Table String) : Store := ⟨files, none⟩

def get? (store : Store) (name : String) : Option String := store.files.get? name

def contains (store : Store) (name : String) : Bool := store.files.contains name

def list (store : Store) : List String := store.files.names

def flush (naming : Naming) (store : Store) (disk : Disk) : Except Failure Unit × Disk :=
  match store.path with
  | none => (.ok (), disk)
  | some path =>
    match disk.replace naming path (Text.Utf8.encode (Json.write store.files)) with
    | (.ok _, disk) => (.ok (), disk)
    | (.error failure, disk) => (.error (.disk failure), disk)

def flushed (store : Store) : List Event :=
  match store.path with
  | none => []
  | some path => [.logged .debug .store s!"wrote {store.files.size} file(s) to {path}"]

def named? (field : List Json.Letter × Json.Value) : Option (String × Option String) :=
  (Json.text? field.1).map fun name => (Text.upper name, field.2.text?)

def held? (entry : String × Option String) : Option (String × String) :=
  entry.2.map fun text => (entry.1, text)

/-- The files of a document, where of two names that become the same the later one counts. A store
holds texts only, so there are none where a surrogate is left in a name or in a content. -/
def filesOf (fields : List (List Json.Letter × Json.Value)) : Option (Table String) :=
  (fields.mapM named?).bind fun named => ((Table.insertAll named).mapM held?).map Table.mk

def load (disk : Disk) (path : String) : Except Failure (Option (Table String)) :=
  match disk.read path with
  | .error (.access .missing _) => .ok none
  | .error failure => .error (.disk failure)
  | .ok bytes =>
    match Text.Utf8.decode bytes with
    | .error failure => .error (.encoding failure)
    | .ok text =>
      match Json.read (Text.unifyNewlines text) with
      | .error failure => .error (.document failure)
      | .ok (.object fields) =>
        match filesOf fields with
        | some files => .ok (some files)
        | none => .error .unpaired
      | .ok _ => .error (.notAnObject path)

structure Opened where
  result : Except Failure Store
  disk : Disk
  events : List Event

/-- Open the store at a path. A new one begins with the default files and is written at once. -/
def openAt (naming : Naming) (path : String) (disk : Disk) : Opened :=
  match load disk path with
  | .error failure => ⟨.error failure, disk, []⟩
  | .ok (some files) => ⟨.ok ⟨files, some path⟩, disk, []⟩
  | .ok none =>
    let store : Store := ⟨defaultFiles, some path⟩
    let missing : Event := .logged .debug .store s!"no store at {path}, using default files"
    match store.flush naming disk with
    | (.ok _, disk) => ⟨.ok store, disk, missing :: store.flushed⟩
    | (.error failure, disk) => ⟨.error failure, disk, [missing]⟩

/-- A store after a change, with the disk it was written to. The change stands in memory even where
writing it failed. -/
structure Change where
  store : Store
  disk : Disk
  result : Except Failure Unit

def commit (naming : Naming) (store : Store) (disk : Disk) : Change :=
  match store.flush naming disk with
  | (result, disk) => ⟨store, disk, result⟩

def put (naming : Naming) (store : Store) (disk : Disk) (name content : String) : Change :=
  commit naming ⟨store.files.insert name content, store.path⟩ disk

def delete (naming : Naming) (store : Store) (disk : Disk) (name : String) : Change :=
  if store.contains name then commit naming ⟨store.files.erase name, store.path⟩ disk
  else ⟨store, disk, .error (.unknownFile name)⟩

def clear (naming : Naming) (store : Store) (disk : Disk) : Change :=
  commit naming ⟨.empty, store.path⟩ disk

end Store

end ScriptShell
