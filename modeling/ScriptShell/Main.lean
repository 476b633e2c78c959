import ScriptShell.Program

namespace ScriptShell.Terminal

structure Scene where
  naming : Naming
  console : Console
  host : Host
  delay : Number.Binary64
  storePath : Option String

def readBytes? (path : String) : IO (Option (List UInt8)) := do
  try
    let bytes ← IO.FS.readBinFile path
    return some bytes.toList
  catch _ => return none

/-- What is at a path. What is there and cannot be read counts as a directory. -/
def entryAt (path : String) : IO (Option Entry) := do
  match ← readBytes? path with
  | some bytes => return some (.file bytes)
  | none =>
    try
      let _ ← IO.FS.realPath path
      return some .directory
    catch _ => return none

def snapshot (naming : Naming) (path : String) : IO Disk := do
  let place := Place.ofPath path
  let mut entries := []
  for n in List.range place.names.length do
    let here : Place := ⟨place.base, place.names.take (n + 1)⟩
    if let some entry ← entryAt (naming.fullName here) then entries := (here, entry) :: entries
  return ⟨entries, [], none⟩

def commit (path : String) (before after : Disk) : IO Unit := do
  let place := Place.ofPath path
  match after.entry? place with
  | some (.file bytes) =>
    if before.entry? place ≠ some (.file bytes) then
      let beside := path ++ ".iqsh-new"
      IO.FS.writeBinFile beside ⟨bytes.toArray⟩
      IO.FS.rename beside path
  | _ => pure ()

def collect (s : Session) : IO Session := do
  match s.editor.temp with
  | none => return s
  | some temp =>
    match ← readBytes? temp.path with
    | some bytes => return { s with scratch := s.scratch.write temp.number bytes }
    | none => return { s with scratch := s.scratch.remove temp.number }

def settle (before after : Session) : IO Unit := do
  if let some temp := before.editor.temp then
    if (after.scratch.read? temp.number).isNone then
      try IO.FS.removeFile temp.path catch _ => pure ()
  if let some temp := after.editor.temp then
    if let some bytes := after.scratch.read? temp.number then
      if before.scratch.read? temp.number ≠ some bytes then
        IO.FS.writeBinFile temp.path ⟨bytes.toArray⟩

def milliseconds (delay : Number.Binary64) : UInt32 :=
  (min (delay.units * 1000 / Nat.pow 2 1074) 86400000).toUInt32

def put (delay : Number.Binary64) : Output → IO Unit
  | .text .out text => do
    IO.print text
    (← IO.getStdout).flush
  | .text .err text => IO.eprint text
  | .launch _ => pure ()
  | .pause => IO.sleep (milliseconds delay)

def present (scene : Scene) (s : Session) : IO Session := do
  for output in scene.console.renderAll s.events do
    put scene.delay output
  return { s with history := [] }

def step (scene : Scene) (s : Session) (act : Session → Session) : IO Session := do
  let current ← collect s
  let disk ←
    match scene.storePath with
    | some path => snapshot scene.naming path
    | none => pure current.disk
  let before := { current with disk := disk }
  let after := act before
  if let some path := scene.storePath then commit path before.disk after.disk
  settle before after
  present scene after

partial def dialogue (scene : Scene) (s : Session) : IO Session := do
  let asked ← present scene (s.ask Program.prompt)
  let line ← (← IO.getStdin).getLine
  if line.isEmpty then step scene asked Session.endDialogue
  else
    let bare := (Text.inputLines line).headD ""
    dialogue scene (← step scene asked fun s => s.turn scene.host (some bare))

def exitCode : Program.Ending → IO UInt32
  | .finished status | .onCommandLine status => return status.toUInt32
  | .crashed crash => do
    IO.eprintln crash.message
    return 1

def finish : Except Program.Untold Program.Outcome → IO UInt32
  | .ok outcome => do
    for output in outcome.outputs do
      put outcome.delay output
    exitCode outcome.ending
  | .error untold => do
    IO.eprintln untold.message
    return 1

def converse (scene : Scene) (o : Options) (s : Session) : IO UInt32 := do
  match Program.lineOf o with
  | some (.of line) =>
    let (status, _) := Program.runLine scene.host line s
    let _ ← step scene s fun s => (Program.runLine scene.host line s).2
    return status.toUInt32
  | some .empty => exitCode (.crashed .emptyCommand)
  | none =>
    let started ← step scene s (Program.startUp scene.host o)
    let _ ← dialogue scene started
    return 0

def storePathOf (o : Options) : Option String :=
  match o.memory, o.store with
  | false, .of path => some path
  | _, _ => none

def tagFrom (seed : Nat) (n : Nat) : String :=
  let written := Nat.toDigits 10 ((seed + n) % 100000000)
  String.ofList (List.replicate (8 - written.length) '0' ++ written)

def parentOf (path : String) : String :=
  String.ofList ((path.toList.reverse.dropWhile (· ≠ '/')).drop 1).reverse

end ScriptShell.Terminal

open ScriptShell in
def main (arguments : List String) : IO UInt32 := do
  let work := toString (← IO.currentDir)
  let seed ← IO.rand 0 99999999
  let temporary := (← IO.getEnv "TMPDIR").getD "/tmp"
  let naming : Naming := ⟨work, Terminal.parentOf work, temporary, Terminal.tagFrom seed⟩
  let home := (← IO.getEnv "HOME").getD ""
  let request : Program.Request :=
    { arguments := arguments.map Text.Utf8.encode
      input := ⟨"", none⟩
      terminal := ← (← IO.getStdout).isTty
      storePath := ← IO.getEnv "IQSH_STORE"
      homeStore := home ++ "/.iqsh.json"
      visual := ← IO.getEnv "VISUAL"
      editor := ← IO.getEnv "EDITOR"
      noColor := ← IO.getEnv "NO_COLOR" }
  -- No outside editor is started from here: the user is told where the text is and edits it there.
  let surroundings : Program.Surroundings :=
    ⟨naming, fun _ => true, fun _ => false, fun _ => .notFound, ""⟩
  match request.read? with
  | some (.run o) =>
    let storePath := Terminal.storePathOf o
    let disk ←
      match storePath with
      | some path => Terminal.snapshot naming path
      | none => pure .empty
    let whole := Program.runWith surroundings request o disk
    match Program.openStore naming o disk with
    | .error _ => Terminal.finish whole
    | .ok opened =>
      if let some path := storePath then Terminal.commit path disk opened.disk
      match opened.result, o.delay with
      | .ok store, .of delay =>
        let scene : Terminal.Scene :=
          { naming := naming
            console := Program.consoleOf surroundings request o
            host := Program.hostOf surroundings o delay
            delay := delay
            storePath := storePath }
        let s ← Terminal.present scene (Program.begin request store opened)
        Terminal.converse scene o s
      | _, _ => Terminal.finish whole
  | _ => Terminal.finish (Program.run surroundings request .empty)
