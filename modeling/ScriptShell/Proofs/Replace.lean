import ScriptShell.Disk

namespace ScriptShell

section

variable {κ β : Type} [BEq κ] [LawfulBEq κ] [DecidableEq κ]

theorem lookup_filter_ne {p q : κ} (other : q ≠ p) (entries : List (κ × β)) :
    (entries.filter fun entry => entry.1 ≠ p).lookup q = entries.lookup q := by
  induction entries with
  | nil => rfl
  | cons entry rest ih =>
    by_cases here : entry.1 = p
    · have miss : (q == entry.1) = false := by simp [here, other]
      rw [List.filter_cons_of_neg (by simpa using here), ih, List.lookup_cons, miss]
    · rw [List.filter_cons_of_pos (by simpa using here), List.lookup_cons, List.lookup_cons, ih]

theorem lookup_filter_self (p : κ) (entries : List (κ × β)) :
    (entries.filter fun entry => entry.1 ≠ p).lookup p = none := by
  rw [List.lookup_eq_none_iff]
  intro entry member
  have other : entry.1 ≠ p := by simpa using (List.mem_filter.mp member).2
  simpa using Ne.symm other

end

namespace Disk

variable {d : Disk} {p q : Place} {e : Entry}

theorem entry?_put_of_ne (other : q ≠ p) : entry? (d.put p e) q = d.entry? q := by
  have miss : (q == p) = false := by simp [other]
  unfold entry? put erase
  simp only [List.lookup_append, lookup_filter_ne other, List.lookup_cons, miss, List.lookup_nil,
    Option.or_none]

theorem entry?_put_self (named : p.names ≠ []) : entry? (d.put p e) p = some e := by
  unfold entry? put erase
  rw [if_neg named]
  simp only [List.lookup_append, lookup_filter_self, Option.none_or, List.lookup_cons_self]

theorem named_of_not_directory (file : d.entry? p ≠ some .directory) : p.names ≠ [] := by
  intro base
  apply file
  unfold entry?
  rw [if_pos base]

theorem directory_put (file : d.entry? p ≠ some .directory) (here : d.entry? q = some .directory) :
    entry? (d.put p e) q = some .directory := by
  have other : q ≠ p := by
    rintro rfl
    exact file here
  rw [entry?_put_of_ne other, here]

theorem walk_of_directories {d' : Disk}
    (kept : ∀ p, d.entry? p = some .directory → d'.entry? p = some .directory) {names : List String}
    (walked : d.walk p names = .ok q) : d'.walk p names = .ok q := by
  induction names generalizing p with
  | nil => exact walked
  | cons name rest ih =>
    rw [walk] at walked ⊢
    split at walked
    next here =>
      rw [kept p here]
      simp only
      split at walked
      · contradiction
      next short =>
        rw [if_neg short]
        exact ih walked
    · contradiction
    · contradiction

theorem resolve_of_directories {d' : Disk}
    (kept : ∀ p, d.entry? p = some .directory → d'.entry? p = some .directory) {path : String}
    (found : d.resolve path = .ok q) : d'.resolve path = .ok q := by
  unfold resolve at found ⊢
  split at found
  · contradiction
  split at found
  · contradiction
  next named short =>
    rw [if_neg named, if_neg short]
    exact walk_of_directories kept found

theorem withoutSlashes_of_not_endsInSlash {path : String} (plain : endsInSlash path = false) :
    withoutSlashes path = path := by
  have last : path.toList.reverse.head? ≠ some '/' := by
    simpa [endsInSlash, List.head?_reverse] using plain
  have kept : path.toList.reverse.dropWhile (· = '/') = path.toList.reverse := by
    cases turned : path.toList.reverse with
    | nil => rfl
    | cons c rest =>
      rw [turned, List.head?_cons] at last
      have other : c ≠ '/' := fun same => last (congrArg some same)
      simp [List.dropWhile, other]
  rw [withoutSlashes, kept, List.reverse_reverse, String.ofList_toList]

theorem target_eq_ok_iff {path : String} :
    d.target path = .ok p ↔
      endsInSlash path = false ∧ d.resolve path = .ok p ∧ d.entry? p ≠ some .directory := by
  constructor
  · intro found
    rw [target] at found
    split at found
    · contradiction
    next q resolved =>
      split at found
      · contradiction
      next plain =>
        have plain : endsInSlash path = false := by simpa using plain
        rw [withoutSlashes_of_not_endsInSlash plain] at resolved
        split at found
        · contradiction
        next file =>
          cases found
          exact ⟨plain, resolved, file⟩
  · rintro ⟨plain, resolved, file⟩
    rw [target, withoutSlashes_of_not_endsInSlash plain, resolved]
    simp only [plain, Bool.false_eq_true, if_false, file]

theorem target_stage (directory : Place) (bytes : List UInt8) (path : String) :
    (d.stage directory bytes).target path = .ok p ↔ d.target path = .ok p := by
  rw [target_eq_ok_iff, target_eq_ok_iff]
  have same (q : Place) : entry? (d.stage directory bytes) q = d.entry? q := rfl
  have resolves : (d.stage directory bytes).resolve path = .ok p ↔ d.resolve path = .ok p := by
    constructor
    · exact resolve_of_directories fun q here => (same q).symm.trans here
    · exact resolve_of_directories fun q here => (same q).trans here
  rw [resolves, same]

/-- What it takes to replace a file by any bytes: the draft has a place beside it and room there, and
the path leads to a file or to where one can be. -/
structure Replaceable (d : Disk) (naming : Naming) (path : String) : Prop where
  short : isLongPath (draftPath naming path) = false
  beside : ∃ q, d.walk ⟨(Place.ofPath path).parent.base, []⟩
    ((Place.ofPath path).parent.names ++ [draftName naming]) = .ok q
  roomy : d.room = none
  found : ∃ p, d.target path = .ok p

variable {naming : Naming} {path : String} {bytes : List UInt8}

theorem replace_cases (d : Disk) (naming : Naming) (path : String) (bytes : List UInt8) :
    (∃ failure, d.replace naming path bytes = (.error failure, d)) ∨
      ∃ p, d.target path = .ok p ∧
        d.replace naming path bytes = (.ok (), d.put p (.file bytes)) := by
  unfold replace
  simp only
  split
  · exact .inl ⟨_, rfl⟩
  split
  · exact .inl ⟨_, rfl⟩
  split
  · split
    · exact .inl ⟨_, rfl⟩
    next p found => exact .inr ⟨p, (target_stage _ _ _).mp found, rfl⟩
  · exact .inl ⟨_, rfl⟩

theorem Replaceable.replace (able : d.Replaceable naming path) (bytes : List UInt8) :
    (d.replace naming path bytes).1 = .ok () := by
  obtain ⟨short, ⟨q, walked⟩, roomy, ⟨p, found⟩⟩ := able
  have staged := (target_stage (Place.ofPath path).parent bytes path).mpr found
  have room : (d.stage (Place.ofPath path).parent bytes).hasRoom bytes = true := by
    simp [hasRoom, stage, roomy]
  simp only [Disk.replace, short, Bool.false_eq_true, if_false, walked, room, if_true, staged]

theorem Replaceable.put (able : d.Replaceable naming path) {p : Place}
    (found : d.target path = .ok p) : (d.put p (.file bytes)).Replaceable naming path := by
  obtain ⟨short, ⟨q, walked⟩, roomy, -⟩ := able
  obtain ⟨plain, resolved, file⟩ := target_eq_ok_iff.mp found
  have kept (q : Place) (here : d.entry? q = some .directory) :
      entry? (d.put p (.file bytes)) q = some .directory := directory_put file here
  have isFile : entry? (d.put p (.file bytes)) p ≠ some .directory := by
    rw [entry?_put_self (named_of_not_directory file)]
    simp
  exact ⟨short, ⟨q, walk_of_directories kept walked⟩, roomy,
    ⟨p, target_eq_ok_iff.mpr ⟨plain, resolve_of_directories kept resolved, isFile⟩⟩⟩

theorem read_put (noNull : hasNull path = false) {p : Place} (found : d.target path = .ok p) :
    (d.put p (.file bytes)).read path = .ok bytes := by
  obtain ⟨-, resolved, file⟩ := target_eq_ok_iff.mp found
  have again : (d.put p (.file bytes)).resolve path = .ok p :=
    resolve_of_directories (fun q here => directory_put file here) resolved
  simp only [read, find, noNull, Bool.false_eq_true, if_false, again, entry?_put_self (named_of_not_directory file)]

end Disk

end ScriptShell
