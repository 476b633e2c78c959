import ScriptShell.Disk
import ScriptShell.Json.Reader
import ScriptShell.Refusal
import ScriptShell.Text.Utf8

namespace ScriptShell

def Text.Utf8.Flaw.message : Text.Utf8.Flaw → String
  | .start => "invalid start byte"
  | .continuation => "invalid continuation byte"
  | .truncated => "unexpected end of data"

def Text.Utf8.Failure.message (f : Text.Utf8.Failure) : String :=
  let place :=
    match f.bytes with
    | [b] => s!"byte 0x{String.ofList (Text.hexDigits 2 b.toNat)} in position {f.position}"
    | bytes => s!"bytes in position {f.position}-{f.position + bytes.length - 1}"
  s!"'utf-8' codec can't decode {place}: {f.flaw.message}"

inductive Failure where
  | disk (failure : Disk.Failure)
  | unknownFile (name : String)
  | encoding (failure : Text.Utf8.Failure)
  | document (failure : Json.Failure)
  | notAnObject (path : String)
  | unclosedQuote
  | danglingEscape
  | unpaired
  | launch (message : String)
  | emptyLimit
  deriving DecidableEq, Repr

def Failure.message : Failure → String
  | .disk failure => failure.message
  | .unknownFile name => Text.quoted name
  | .encoding failure => failure.message
  | .document failure => failure.message
  | .notAnObject path => s!"{path}: expected a JSON object of files"
  | .unclosedQuote => "No closing quotation"
  | .danglingEscape => "No escaped character"
  | .unpaired => "surrogates not allowed"
  | .launch message => message
  | .emptyLimit => "'>=' not supported between instances of 'int' and 'list'"

inductive Fault where
  | refusal (refusal : Refusal)
  | failure (failure : Failure)
  deriving DecidableEq, Repr

end ScriptShell
