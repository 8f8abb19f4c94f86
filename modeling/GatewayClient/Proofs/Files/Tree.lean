import GatewayClient.Files.Tree
/-!
# Files that were written

A file that was written is read through the same path. Writing puts one entry into the tree, in
a place where no directory was, so every way that could be gone before can be gone afterwards
(`follow_of_keeps`).

Main statement: `read_of_write`.
-/

namespace GatewayClient.Tree

variable {tree tree' : Tree} {location : Location} {path : Path}

/-! ## Entries -/

theorem lookup_map_replace {entries : List (Location × Entry)} {entry : Entry} (other : Location) :
    (entries.map fun old => if old.1 = location then (location, entry) else old).lookup other
      = if other = location then (entries.lookup location).map fun _ => entry
        else entries.lookup other := by
  induction entries with
  | nil => simp
  | cons old entries ih =>
    rw [List.map_cons, List.lookup_cons, List.lookup_cons, List.lookup_cons, ih]
    by_cases hold : old.1 = location
    · subst hold
      by_cases hother : other = old.1
      · simp [hother]
      · simp [beq_eq_false_iff_ne.2 hother, hother]
    · rw [if_neg hold]
      by_cases hother : other = location
      · subst hother
        simp [beq_eq_false_iff_ne.2 (Ne.symm hold)]
      · simp [hother]

theorem entry?_put (tree : Tree) (hlocation : location ≠ []) (entry : Entry) (other : Location) :
    Tree.entry? (tree.put location entry) other
      = if other = location then some entry else tree.entry? other := by
  unfold put
  split
  · next hthere =>
    obtain ⟨old, hold, hlookup⟩ := List.any_eq_true.1 hthere
    have hsome : (tree.entries.lookup location).isSome = true :=
      List.lookup_isSome_iff.2 ⟨old, hold, beq_iff_eq.2 (of_decide_eq_true hlookup).symm⟩
    obtain ⟨found, hfound⟩ := Option.isSome_iff_exists.1 hsome
    simp only [ entry?, lookup_map_replace, hfound, Option.map_some]
    by_cases hroot : other = []
    · rw [if_pos hroot, if_pos hroot, if_neg (hroot ▸ Ne.symm hlocation)]
    · rw [if_neg hroot, if_neg hroot]
  · next hnew =>
    have hnone : tree.entries.lookup location = none := by
      refine List.lookup_eq_none_iff.2 fun old hold => bne_iff_ne.2 ?_
      rintro rfl
      exact hnew (List.any_eq_true.2 ⟨old, hold, decide_eq_true rfl⟩)
    simp only [ entry?, List.lookup_append]
    by_cases hother : other = location
    · subst hother
      simp [hlocation, hnone]
    · simp [hother, List.lookup_cons, beq_eq_false_iff_ne.2 hother]

/-! ## Ways -/

/-- Where the first tree has a directory, the second has one too. -/
structure Keeps (tree tree' : Tree) : Prop where
  here : tree'.here = tree.here
  directory : ∀ location, tree.entry? location = some .directory →
    tree'.entry? location = some .directory

theorem keeps_put {entry : Entry} (hlocation : location ≠ [])
    (h : tree.entry? location ≠ some .directory) : Keeps tree (tree.put location entry) where
  here := by unfold put; split <;> rfl
  directory other hother := by
    rw [ entry?_put tree hlocation, if_neg]
    · exact hother
    · rintro rfl; exact h hother

theorem Keeps.trans {tree'' : Tree} (h : Keeps tree tree') (h' : Keeps tree' tree'') :
    Keeps tree tree'' :=
  ⟨h'.here.trans h.here, fun _ hlocation => h'.directory _ (h.directory _ hlocation)⟩

/-- A name that is neither dot leads on if a directory has it. -/
theorem enter_name {start next : Location} {name : String} (hdot : name ≠ ".") (hback : name ≠ "..") :
    tree.enter start name = .ok next
      ↔ next = start ++ [name] ∧ name.utf8ByteSize ≤ 255
        ∧ tree.entry? (start ++ [name]) = some .directory := by
  rw [Tree.enter, if_neg hdot, if_neg hback, look]
  by_cases hlong : name.utf8ByteSize > 255
  · rw [if_pos hlong]
    constructor
    · rintro ⟨⟩
    · rintro ⟨-, hshort, -⟩
      omega
  · rw [if_neg hlong]
    cases hentry : tree.entry? (start ++ [name]) with
    | none => simp
    | some entry =>
      cases entry with
      | directory => simp [eq_comm]; omega
      | file mode content => simp

theorem Keeps.enter (h : Keeps tree tree') {start next : Location} {name : String}
    (henter : tree.enter start name = .ok next) : tree'.enter start name = .ok next := by
  by_cases hdot : name = "."
  · rwa [Tree.enter, if_pos hdot] at henter ⊢
  by_cases hback : name = ".."
  · rwa [Tree.enter, if_neg hdot, if_pos hback] at henter ⊢
  obtain ⟨hnext, hlength, hentry⟩ := (enter_name hdot hback).1 henter
  exact (enter_name hdot hback).2 ⟨hnext, hlength, h.directory _ hentry⟩

/-- Every way that could be gone before can be gone afterwards. -/
theorem Keeps.follow (h : Keeps tree tree') {start : Location} {names : List String} {target : Target}
    (hfollow : tree.follow start names = .ok target) : tree'.follow start names = .ok target := by
  induction names generalizing start with
  | nil => exact hfollow
  | cons name names ih =>
    match names with
    | [] =>
      rw [Tree.follow] at hfollow ⊢
      split at hfollow
      · next hdots =>
        rw [if_pos hdots]
        cases henter : tree.enter start name with
        | error e => rw [henter] at hfollow; cases hfollow
        | ok next => rw [henter] at hfollow; rwa [h.enter henter]
      · next hdots => rwa [if_neg hdots]
    | other :: names =>
      rw [Tree.follow] at hfollow ⊢
      · cases henter : tree.enter start name with
        | error e => rw [henter] at hfollow; cases hfollow
        | ok next =>
          rw [henter] at hfollow
          rw [h.enter henter]
          exact ih hfollow
      all_goals rintro ⟨⟩

theorem Keeps.resolve (h : Keeps tree tree') {target : Target}
    (hresolve : tree.resolve path = .ok target) : tree'.resolve path = .ok target := by
  unfold Tree.resolve at hresolve ⊢
  split at hresolve
  · cases hresolve
  next hnul =>
  split at hresolve
  · cases hresolve
  next hempty =>
  split at hresolve
  · cases hresolve
  next hlong =>
  rw [if_neg hnul, if_neg hempty, if_neg hlong, h.here]
  exact h.follow hresolve

/-! ## Files -/

/-- A file that was opened for writing is empty, and stands where no directory was. -/
theorem create_eq_ok {mode : Nat} (h : tree.create path mode = .ok (location, tree')) :
    ∃ directory name mode', location = directory ++ [name]
      ∧ tree.resolve path = .ok (.named directory name) ∧ path.endsInSlash = false
      ∧ name.utf8ByteSize ≤ 255 ∧ tree.entry? location ≠ some .directory
      ∧ tree' = tree.put location (.file mode' []) := by
  simp only [create, bind, Except.bind] at h
  split at h
  · cases h
  next target hresolve =>
  split at h
  · cases h
  next directory name =>
  split at h
  · cases h
  next hslash =>
  split at h
  · cases h
  next found hlook =>
  have hname : ¬name.utf8ByteSize > 255 := by
    intro hlong
    rw [look, if_pos hlong] at hlook
    cases hlook
  rw [look, if_neg hname] at hlook
  have hfound := Except.ok.inj hlook
  split at h
  · cases h
  · next mode' content =>
    cases h
    exact ⟨directory, name, mode', rfl, hresolve, by simpa using hslash, by omega,
      by rw [hfound]; simp, rfl⟩
  · cases h
    exact ⟨directory, name, mode, rfl, hresolve, by simpa using hslash, by omega,
      by rw [hfound]; simp, rfl⟩

theorem read_of_file {directory : Location} {name : String} {mode : Nat} {content : List UInt8}
    (hresolve : tree.resolve path = .ok (.named directory name)) (hslash : path.endsInSlash = false)
    (hname : name.utf8ByteSize ≤ 255)
    (hentry : tree.entry? (directory ++ [name]) = some (.file mode content)) :
    tree.read path = .ok content := by
  have hlook : tree.look directory name = .ok (some (.file mode content)) := by
    rw [look, if_neg (by omega), hentry]
  have hfind : tree.find path = .ok (.file mode content) := by
    simp only [find, hresolve, hlook, bind, Except.bind, hslash]
    rfl
  simp only [read, hfind, bind, Except.bind]

/-- What is written into a file that was opened is read from it. -/
theorem read_of_write {mode : Nat} {bytes : List UInt8}
    (h : tree.create path mode = .ok (location, tree')) :
    (tree'.change location fun mode content => .file mode (content ++ bytes)).read path
      = .ok bytes := by
  obtain ⟨directory, name, mode', rfl, hresolve, hslash, hname, hentry, rfl⟩ := create_eq_ok h
  have hlocation : directory ++ [name] ≠ [] := by simp
  have hopened : Tree.entry? (tree.put (directory ++ [name]) (.file mode' [])) (directory ++ [name])
      = some (.file mode' []) := by rw [ entry?_put tree hlocation, if_pos rfl]
  rw [change, hopened]
  have hkeeps := (keeps_put hlocation hentry).trans (@keeps_put
    (tree.put (directory ++ [name]) (.file mode' [])) (directory ++ [name])
    (.file mode' ([] ++ bytes)) hlocation (by rw [hopened]; simp))
  exact read_of_file (hkeeps.resolve hresolve) hslash hname
    (by rw [ entry?_put _ hlocation, if_pos rfl]; rfl)

end GatewayClient.Tree
