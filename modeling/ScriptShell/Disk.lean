import ScriptShell.Text.Quoted
import ScriptShell.Text.Search

/-!
The directory tree a session works in. Places are told from the working directory, from a directory
above it, or from the top of the tree, all of which are there. A path is walked name by name, and
every place on the way has to be a directory. Names and paths are limited in length.
-/

namespace ScriptShell

/-- A directory that is always there: so many levels above the working directory, or the top. -/
inductive Base where
  | above (levels : Nat)
  | top
  deriving DecidableEq, Repr

structure Place where
  base : Base
  names : List String
  deriving DecidableEq, Repr

def Base.parent : Base → Base
  | .above levels => .above (levels + 1)
  | .top => .top

namespace Place

def work : Place := ⟨.above 0, []⟩

def parent (p : Place) : Place :=
  if p.names = [] then ⟨p.base.parent, []⟩ else ⟨p.base, p.names.dropLast⟩

def enter (p : Place) (name : String) : Place :=
  if name = "" ∨ name = "." then p
  else if name = ".." then p.parent
  else ⟨p.base, p.names ++ [name]⟩

def startOf (path : String) : Place :=
  if path.toList.head? = some '/' then ⟨.top, []⟩ else work

def ofPath (path : String) : Place := (Text.pieces '/' path).foldl enter (startOf path)

end Place

structure Naming where
  work : String
  parent : String
  temporary : String
  tag : Nat → String

def Naming.baseName (naming : Naming) : Base → String
  | .above 0 => naming.work
  | .above _ => naming.parent
  | .top => ""

def Naming.fullName (naming : Naming) (p : Place) : String :=
  Text.join "/" (naming.baseName p.base :: p.names)

def Naming.fullPath (naming : Naming) (path : String) : String :=
  if path.toList.head? = some '/' then path else naming.work ++ "/" ++ path

inductive Entry where
  | file (bytes : List UInt8)
  | directory
  deriving DecidableEq, Repr

/-- The files and directories that are there. A draft is a temporary file that has its directory and
its bytes but no name of its own, so it never stands in the way of an entry. -/
structure Disk where
  entries : List (Place × Entry)
  drafts : List (Place × List UInt8)
  -- The most bytes a draft can have, if there is a limit.
  room : Option Nat
  deriving DecidableEq, Repr

namespace Disk

/-! ## Failures -/

inductive Cause where
  | missing
  | notADirectory
  | isADirectory
  | nameTooLong
  | exists
  deriving DecidableEq, Repr

inductive Failure where
  | access (cause : Cause) (path : String)
  | replace (cause : Cause) (source target : String)
  | noSpace
  | nullInPath
  deriving DecidableEq, Repr

def Cause.message : Cause → String
  | .missing => "[Errno 2] No such file or directory"
  | .notADirectory => "[Errno 20] Not a directory"
  | .isADirectory => "[Errno 21] Is a directory"
  | .nameTooLong => "[Errno 36] File name too long"
  | .exists => "[Errno 17] File exists"

def Failure.message : Failure → String
  | .access cause path => s!"{cause.message}: {Text.quoted path}"
  | .replace cause source target =>
    s!"{cause.message}: {Text.quoted source} -> {Text.quoted target}"
  | .noSpace => "[Errno 28] No space left on device"
  | .nullInPath => "embedded null byte"

/-! ## Entries -/

def empty : Disk := ⟨[], [], none⟩

instance : Inhabited Disk := ⟨empty⟩

def entry? (d : Disk) (p : Place) : Option Entry :=
  if p.names = [] then some .directory else d.entries.lookup p

def erase (d : Disk) (p : Place) : Disk :=
  { d with entries := d.entries.filter fun entry => entry.1 ≠ p }

def put (d : Disk) (p : Place) (e : Entry) : Disk :=
  { d with entries := (d.erase p).entries ++ [(p, e)] }

/-! ## Walking -/

def isLongName (name : String) : Bool := 255 < name.utf8ByteSize

def isLongPath (path : String) : Bool := 4095 < path.utf8ByteSize

/-- Where names lead from a place. The last one need not be there. -/
def walk (d : Disk) : Place → List String → Except Cause Place
  | p, [] => .ok p
  | p, name :: rest =>
    match d.entry? p with
    | some .directory =>
      if isLongName name then .error .nameTooLong else walk d (p.enter name) rest
    | some (.file _) => .error .notADirectory
    | none => .error .missing

def resolve (d : Disk) (path : String) : Except Cause Place :=
  if path = "" then .error .missing
  else if isLongPath path then .error .nameTooLong
  else d.walk (Place.startOf path) (Text.pieces '/' path)

def contains (d : Disk) (path : String) : Bool :=
  match d.resolve path with
  | .ok p => (d.entry? p).isSome
  | .error _ => false

def endsInSlash (path : String) : Bool := path.toList.getLast? = some '/'

def withoutSlashes (path : String) : String :=
  String.ofList (path.toList.reverse.dropWhile (· = '/')).reverse

def parentOf (d : Disk) (path : String) : Except Cause (Place × String) :=
  let names := Text.pieces '/' (withoutSlashes path)
  match d.walk (Place.startOf path) (names.dropLast ++ ["."]) with
  | .error cause => .error cause
  | .ok p => .ok (p, names.getLastD "")

/-! ## Files -/

def hasNull (path : String) : Bool := path.toList.contains (Char.ofNat 0)

def find (d : Disk) (path : String) : Except Failure Place :=
  if hasNull path then .error .nullInPath
  else
    match d.resolve path with
    | .error cause => .error (.access cause path)
    | .ok p => .ok p

def read (d : Disk) (path : String) : Except Failure (List UInt8) :=
  match d.find path with
  | .error failure => .error failure
  | .ok p =>
    match d.entry? p with
    | some (.file bytes) => .ok bytes
    | some .directory => .error (.access .isADirectory path)
    | none => .error (.access .missing path)

def write (d : Disk) (naming : Naming) (path : String) (bytes : List UInt8) :
    Except Failure Disk :=
  let full := naming.fullPath path
  if hasNull path then .error .nullInPath
  else if isLongPath full then .error (.access .nameTooLong full)
  else
    match d.parentOf path with
    | .error cause => .error (.access cause full)
    | .ok (p, name) =>
      if endsInSlash path then .error (.access .isADirectory full)
      else
        match d.walk p [name] with
        | .error cause => .error (.access cause full)
        | .ok p =>
          if d.entry? p = some .directory then .error (.access .isADirectory full)
          else .ok (d.put p (.file bytes))

def remove (d : Disk) (path : String) : Except Failure Disk :=
  match d.find path with
  | .error failure => .error failure
  | .ok p =>
    match d.entry? p with
    | some (.file _) => .ok (d.erase p)
    | some .directory => .error (.access .isADirectory path)
    | none => .error (.access .missing path)

/-! ## Directories -/

def vacancy (d : Disk) (path : String) : Except Cause Place :=
  if path = "" then .error .missing
  else if isLongPath path then .error .nameTooLong
  else
    match d.parentOf path with
    | .error cause => .error cause
    | .ok (p, name) =>
      match d.walk p [name] with
      | .error cause => .error cause
      | .ok p => if (d.entry? p).isSome then .error .exists else .ok p

def makeDirectory (d : Disk) (path : String) : Except Failure Disk :=
  if hasNull path then .error .nullInPath
  else
    match d.vacancy path with
    | .error cause => .error (.access cause path)
    | .ok p => .ok (d.put p .directory)

def withoutFile (d : Disk) (path : String) : Disk :=
  match d.remove path with
  | .ok removed => removed
  | .error _ => d

def block (d : Disk) (path : String) : Except Failure Disk :=
  (d.withoutFile path).makeDirectory path

/-! ## Drafts -/

def stage (d : Disk) (directory : Place) (bytes : List UInt8) : Disk :=
  { d with drafts := (directory, bytes) :: d.drafts }

def hasRoom (d : Disk) (bytes : List UInt8) : Bool := d.room.all (bytes.length ≤ ·)

def discard (d : Disk) : Disk := { d with drafts := d.drafts.tail }

def promote (d : Disk) (p : Place) : Disk :=
  match d.drafts with
  | (_, bytes) :: rest => { d with drafts := rest }.put p (.file bytes)
  | [] => d

/-! ## Replacing a file in one step -/

/-- Where a file moved to this path would go. A path that ends in a slash names a directory, and a
directory is not replaced. -/
def target (d : Disk) (path : String) : Except Cause Place :=
  match d.resolve (withoutSlashes path) with
  | .error cause => .error cause
  | .ok p =>
    if endsInSlash path then .error .notADirectory
    else if d.entry? p = some .directory then .error .isADirectory
    else .ok p

def startsDoubled (path : String) : Bool :=
  match path.toList with
  | '/' :: '/' :: '/' :: _ => false
  | '/' :: '/' :: _ => true
  | _ => false

def draftName (naming : Naming) : String := ".iqsh-" ++ naming.tag 0

def draftPath (naming : Naming) (path : String) : String :=
  let directory := naming.fullName (Place.ofPath path).parent
  -- Two slashes in front are kept, three are one.
  (if startsDoubled path then "/" else "") ++ directory ++ "/" ++ draftName naming

/-- Write a file by way of a draft beside it. If that fails the draft is taken away again, so the
file holds either all of the new bytes or what it held before. -/
def replace (d : Disk) (naming : Naming) (path : String) (bytes : List UInt8) :
    Except Failure Unit × Disk :=
  let directory := (Place.ofPath path).parent
  let source := draftPath naming path
  if isLongPath source then (.error (.access .nameTooLong source), d)
  else
    match d.walk ⟨directory.base, []⟩ (directory.names ++ [draftName naming]) with
    | .error cause => (.error (.access cause source), d)
    | .ok _ =>
      let staged := d.stage directory bytes
      if staged.hasRoom bytes then
        match staged.target path with
        | .error cause => (.error (.replace cause source path), staged.discard)
        | .ok p => (.ok (), staged.promote p)
      else (.error .noSpace, staged.discard)

/-! ## Listing -/

def listing (d : Disk) : List (String × Entry) :=
  ((d.entries.filter fun entry => entry.1.base = .above 0).map fun (p, e) =>
    (Text.join "/" p.names, e)).mergeSort fun a b => a.1 ≤ b.1

end Disk

end ScriptShell
