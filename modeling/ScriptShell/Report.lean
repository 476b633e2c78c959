import ScriptShell.Text.Quoted

namespace ScriptShell

inductive Category where
  | info
  | success
  | error
  deriving DecidableEq, Repr

namespace Category

def word : Category → String
  | .info => "info"
  | .success => "success"
  | .error => "error"

def ofWord? (word : String) : Option Category :=
  [info, success, error].find? fun category => category.word = word

def ofWordOrInfo (word : String) : Category := (ofWord? word).getD .info

end Category

structure Report where
  text : String
  category : Category
  deriving DecidableEq, Repr

namespace Report

def info (text : String) : Report := ⟨text, .info⟩

def success (text : String) : Report := ⟨text, .success⟩

def error (text : String) : Report := ⟨text, .error⟩

def ofWord (text word : String) : Except String Report :=
  match Category.ofWord? word with
  | some category => .ok ⟨text, category⟩
  | none => .error s!"unknown result category: {word}"

def describe (r : Report) : String :=
  s!"Result({Text.quoted r.text}, {Text.quoted r.category.word})"

end Report

end ScriptShell
