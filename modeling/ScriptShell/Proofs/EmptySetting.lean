import Mathlib.Data.List.Chain
import ScriptShell.Options

namespace ScriptShell.Options

structure Filled (o : Options) : Prop where
  command : o.command ≠ some .empty
  store : o.store ≠ .empty
  delay : o.delay ≠ .empty
  maxDepth : o.maxDepth ≠ .empty

structure Plain (words : List Word) : Prop where
  attached : ∀ flag short, .flag flag short (some "--") ∉ words
  followed : words.IsChain fun word next =>
    ∀ flag short, word = .flag flag short none → next ≠ .argument "--"

variable {o o' : Options} {flag : Flag} {text : String}

theorem Filled.withScript (filled : o.Filled) (script : Option String) :
    Filled { o with script := script } :=
  ⟨filled.command, filled.store, filled.delay, filled.maxDepth⟩

theorem Filled.setValue (filled : o.Filled) (proper : text ≠ "--")
    (set : o.setValue flag text = .ok o') : o'.Filled := by
  obtain ⟨command, store, delay, maxDepth⟩ := filled
  unfold Options.setValue at set
  rw [if_neg proper] at set
  cases flag with
  | command =>
    cases set
    exact ⟨by simp, store, delay, maxDepth⟩
  | store =>
    cases set
    exact ⟨command, by simp, delay, maxDepth⟩
  | delay =>
    simp only at set
    split at set
    · cases set
      exact ⟨command, store, by simp, maxDepth⟩
    · contradiction
  | maxDepth =>
    simp only at set
    split at set
    · cases set
      exact ⟨command, store, delay, by simp⟩
    · contradiction
  | _ =>
    cases set
    exact ⟨command, store, delay, maxDepth⟩

theorem Filled.raise (filled : o.Filled) (raised : o.raise flag = .ok o') : o'.Filled := by
  obtain ⟨command, store, delay, maxDepth⟩ := filled
  cases flag <;> cases raised <;> exact ⟨command, store, delay, maxDepth⟩

theorem raise_ne_run {verdict : Verdict} (ended : o.raise flag = .error verdict) :
    verdict ≠ .run o' := by
  cases flag <;> cases ended <;> nofun

theorem helpCluster_ne_run (valueFollows : Bool) (cs : List Char) :
    helpCluster valueFollows cs ≠ .run o' := by
  induction cs with
  | nil => nofun
  | cons c cs ih =>
    unfold helpCluster
    split
    · exact ih
    · split
      · split <;> nofun
      · nofun

theorem attachedVerdict_ne_run (flag : Flag) (short : Bool) (text : String) (valueFollows : Bool) :
    attachedVerdict flag short text valueFollows ≠ .run o' := by
  unfold attachedVerdict
  split
  · exact helpCluster_ne_run _ _
  · nofun

theorem Plain.tail {word : Word} {words : List Word} (plain : Plain (word :: words)) :
    Plain words :=
  ⟨fun flag short member => plain.attached flag short (.tail _ member), plain.followed.tail⟩

theorem Filled.readWords {scriptOpen : Bool} {extras : List String} {words : List Word}
    (filled : o.Filled) (plain : Plain words)
    (read : o.readWords scriptOpen extras words = .run o') : o'.Filled := by
  fun_induction Options.readWords o scriptOpen extras words with
  | case1 o =>
    cases read
    exact filled
  | case3 o scriptOpen extras text rest ih => exact ih filled plain.tail read
  | case4 o extras text rest ih => exact ih (filled.withScript _) plain.tail.tail read
  | case5 o scriptOpen extras text rest closed ih => exact ih filled plain.tail.tail read
  | case6 o extras text rest other ih => exact ih (filled.withScript _) plain.tail read
  | case7 o scriptOpen extras text rest other closed ih => exact ih filled plain.tail read
  | case8 o extras text rest ih => exact ih (filled.withScript _) plain.tail.tail read
  | case9 o scriptOpen extras text rest closed ih => exact ih filled plain.tail.tail read
  | case10 o scriptOpen extras rest other ih => exact ih filled plain.tail read
  -- An option gets a value in two ways: attached to it, or as the word after it.
  | case11 o scriptOpen extras flag short attached rest takes o' set ih =>
    have proper : attached ≠ "--" := fun same => plain.attached flag short (by simp [same])
    exact ih (filled.setValue proper set) plain.tail read
  | case14 o scriptOpen extras flag short text rest takes o' set ih =>
    have proper : text ≠ "--" := fun same => plain.followed.rel flag short rfl (by rw [same])
    exact ih (filled.setValue proper set) plain.tail.tail read
  | case16 o scriptOpen extras flag short text rest takes o' raised ih =>
    exact ih (filled.raise raised) plain.tail read
  | case19 o scriptOpen extras flag short rest other takes o' raised ih =>
    exact ih (filled.raise raised) plain.tail read
  | case13 => exact absurd read (attachedVerdict_ne_run _ _ _ _)
  | case17 o scriptOpen extras flag short text rest takes verdict ended =>
    exact absurd read (raise_ne_run ended)
  | case20 o scriptOpen extras flag short rest other takes verdict ended =>
    exact absurd read (raise_ne_run ended)
  | case2 | case12 | case15 | case18 => contradiction

end ScriptShell.Options
