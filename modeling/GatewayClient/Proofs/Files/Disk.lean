import GatewayClient.Files.Disk
import GatewayClient.Proofs.Files.Tree
import Mathlib.Data.List.Infix
/-!
# Files after requests that failed

What is made on the way to a file, before a request fails, is directories. So no file is lost
by it, and no file is found that was not there before: only a path that leads back through a
directory that was missing can lead to a file in the end (`Grown.read_of_closed`).

Main statements: `Tree.Grown.read`, `Tree.Grown.read_of_closed`, `Disk.grows_ensureParent`.
-/

namespace GatewayClient

namespace Tree

variable {tree tree' tree'' : Tree} {location : Location} {path : Path} {content : List UInt8}

/-! ## Trees that are whole -/

/-- Whatever is in a directory is in one that is there. -/
def Closed (tree : Tree) : Prop :=
  ∀ old ∈ tree.entries, tree.entry? old.1.dropLast = some .directory

instance (tree : Tree) : Decidable tree.Closed :=
  inferInstanceAs (Decidable (∀ old ∈ tree.entries, _))

theorem Closed.parent (h : tree.Closed) {directory : Location} {name : String} {entry : Entry}
    (hentry : tree.entry? (directory ++ [name]) = some entry) :
    tree.entry? directory = some .directory := by
  have hlookup : tree.entries.lookup (directory ++ [name]) = some entry := by
    rwa [ entry?, if_neg (by simp)] at hentry
  obtain ⟨before, after, hentries, -⟩ := List.lookup_eq_some_iff.mp hlookup
  have hparent := h (directory ++ [name], entry) (by simp [hentries])
  rwa [List.dropLast_concat] at hparent

/-- Every directory on the way to a directory is there. -/
theorem Closed.above (h : tree.Closed) {above directory : Location} (hbelow : above <+: directory)
    (hentry : tree.entry? directory = some .directory) : tree.entry? above = some .directory := by
  obtain ⟨names, rfl⟩ := hbelow
  induction names using List.reverseRecOn with
  | nil => simpa using hentry
  | append_singleton names name ih =>
      rw [← List.append_assoc] at hentry
      exact ih (h.parent hentry)

/-! ## Trees with more directories -/

/-- The second tree has what the first one has, and beyond that only directories. -/
structure Grown (tree tree' : Tree) : Prop where
  here : tree'.here = tree.here
  entry : ∀ location entry, tree.entry? location = some entry → tree'.entry? location = some entry
  file : ∀ location mode content, tree'.entry? location = some (.file mode content) →
    tree.entry? location = some (.file mode content)

theorem Grown.refl (tree : Tree) : Grown tree tree := ⟨rfl, fun _ _ => id, fun _ _ _ => id⟩

theorem Grown.trans (h : Grown tree tree') (h' : Grown tree' tree'') : Grown tree tree'' where
  here := h'.here.trans h.here
  entry location entry hentry := h'.entry location entry (h.entry location entry hentry)
  file location mode content hfile := h.file location mode content (h'.file _ _ _ hfile)

theorem Grown.keeps (h : Grown tree tree') : Keeps tree tree' :=
  ⟨h.here, fun location => h.entry location .directory⟩

/-- A directory is made where nothing was. -/
theorem grown_of_makeDirectory (h : tree.makeDirectory path = .ok tree') : Grown tree tree' := by
  simp only [makeDirectory, bind, Except.bind] at h
  split at h
  · cases h
  next target hresolve =>
  split at h
  · cases h
  next directory name =>
  split at h
  · cases h
  next found hlook =>
  split at h
  · cases h
  cases h
  have hnone : tree.entry? (directory ++ [name]) = none := by
    unfold look at hlook
    split at hlook
    · cases hlook
    · exact Except.ok.inj hlook
  have hput : ∀ other, Tree.entry? (tree.put (directory ++ [name]) .directory) other =
      if other = directory ++ [name] then some .directory else tree.entry? other :=
    entry?_put tree (by simp) .directory
  refine ⟨(keeps_put (by simp) (by simp [hnone])).here, fun other entry hentry => ?_,
    fun other mode content hfile => ?_⟩
  · have hother : other ≠ directory ++ [name] := by rintro rfl; simp [hnone] at hentry
    rw [hput, if_neg hother, hentry]
  · rw [hput] at hfile
    split at hfile
    · cases hfile
    · exact hfile

/-! ## Reading -/

theorem read_eq_ok_iff : tree.read path = .ok content ↔ ∃ directory name mode,
    tree.resolve path = .ok (.named directory name) ∧ path.endsInSlash = false
      ∧ name.utf8ByteSize ≤ 255
      ∧ tree.entry? (directory ++ [name]) = some (.file mode content) := by
  constructor
  · intro h
    simp only [read, find, look, bind, Except.bind] at h
    cases hresolve : tree.resolve path with
    | error e => simp [hresolve] at h
    | ok target =>
        cases target with
        | place location => simp [hresolve] at h
        | named directory name =>
            by_cases hlong : name.utf8ByteSize > 255
            · simp [hresolve, hlong] at h
            · rcases hentry : tree.entry? (directory ++ [name]) with _ | _ | ⟨mode, bytes⟩
              · simp [hresolve, hlong, hentry] at h
              · simp [hresolve, hlong, hentry] at h
              · cases hslash : path.endsInSlash with
                | true => simp [hresolve, hlong, hentry, hslash] at h
                | false =>
                    simp only [hresolve, if_neg hlong, hentry, hslash] at h
                    cases h
                    exact ⟨directory, name, mode, rfl, rfl, Nat.not_lt.mp hlong, hentry⟩
  · rintro ⟨directory, name, mode, hresolve, hslash, hname, hentry⟩
    exact read_of_file hresolve hslash hname hentry

/-- A file that could be read can be read still. -/
theorem Grown.read (h : Grown tree tree') (hread : tree.read path = .ok content) :
    tree'.read path = .ok content := by
  obtain ⟨directory, name, mode, hresolve, hslash, hname, hentry⟩ := read_eq_ok_iff.mp hread
  exact read_of_file (h.keeps.resolve hresolve) hslash hname (h.entry _ _ hentry)

/-! ## Ways without a step back -/

/-- Unless it leads back, a way ends below its start. -/
theorem start_of_follow {start directory : Location} {names : List String} {name : String}
    (hback : ".." ∉ names) (h : tree.follow start names = .ok (.named directory name)) :
    start <+: directory := by
  induction names generalizing start with
  | nil => cases h
  | cons first names ih =>
      obtain ⟨hfirst, hrest⟩ := not_or.mp (mt List.mem_cons.mpr hback)
      match names with
      | [] =>
          rw [follow] at h
          split at h
          · next hdots =>
            rw [enter, if_pos (hdots.resolve_right (Ne.symm hfirst))] at h
            cases h
          · cases h
            exact List.prefix_refl _
      | second :: names =>
          rw [follow] at h
          · cases henter : tree.enter start first with
            | error e => rw [henter] at h; cases h
            | ok next =>
                rw [henter] at h
                have hnext := ih hrest h
                by_cases hdot : first = "."
                · rw [enter, if_pos hdot] at henter
                  cases henter
                  exact hnext
                · obtain ⟨rfl, -, -⟩ := (enter_name hdot (Ne.symm hfirst)).mp henter
                  exact (List.prefix_append start [first]).trans hnext
          all_goals rintro ⟨⟩

/-- A way that does not lead back, to a directory that was there before, could be gone before. -/
theorem Closed.follow (hclosed : tree.Closed) {start directory : Location} {names : List String}
    {name : String} (hback : ".." ∉ names) (hdirectory : tree.entry? directory = some .directory)
    (h : tree'.follow start names = .ok (.named directory name)) :
    tree.follow start names = .ok (.named directory name) := by
  induction names generalizing start with
  | nil => exact h
  | cons first names ih =>
      obtain ⟨hfirst, hrest⟩ := not_or.mp (mt List.mem_cons.mpr hback)
      match names with
      | [] =>
          rw [Tree.follow] at h ⊢
          split at h
          · next hdots =>
            rw [enter, if_pos (hdots.resolve_right (Ne.symm hfirst))] at h
            cases h
          · next hdots => rwa [if_neg hdots]
      | second :: names =>
          rw [Tree.follow] at h ⊢
          · cases henter : tree'.enter start first with
            | error e => rw [henter] at h; cases h
            | ok next =>
                rw [henter] at h
                have hnext : tree.enter start first = .ok next := by
                  by_cases hdot : first = "."
                  · rwa [enter, if_pos hdot] at henter ⊢
                  · obtain ⟨hstep, hname, -⟩ := (enter_name hdot (Ne.symm hfirst)).mp henter
                    -- the step ends above the directory, so it is a directory in the old tree
                    have habove := hclosed.above (start_of_follow hrest h) hdirectory
                    exact (enter_name hdot (Ne.symm hfirst)).mpr ⟨hstep, hname, hstep ▸ habove⟩
                rw [hnext]
                exact ih hrest h
          all_goals rintro ⟨⟩

/-- New directories do not lead to old files, unless the path leads back through them. -/
theorem Grown.read_of_closed (h : Grown tree tree') (hclosed : tree.Closed)
    (hback : ".." ∉ path.names) (hread : tree'.read path = .ok content) :
    tree.read path = .ok content := by
  obtain ⟨directory, name, mode, hresolve, hslash, hname, hentry⟩ := read_eq_ok_iff.mp hread
  -- the file is an old one, so its directory was there, and all directories above it
  have hfile := h.file _ _ _ hentry
  have hfollow : tree.resolve path = .ok (.named directory name) := by
    unfold resolve at hresolve ⊢
    split at hresolve
    · cases hresolve
    next hnul =>
    split at hresolve
    · cases hresolve
    next hempty =>
    split at hresolve
    · cases hresolve
    next hlong =>
    rw [if_neg hnul, if_neg hempty, if_neg hlong]
    rw [h.here] at hresolve
    exact hclosed.follow hback (hclosed.parent hfile) hresolve
  exact read_of_file hfollow hslash hname hfile

/-! ## Open files -/

/-- The path leads to the file at the location. -/
def Holds (tree : Tree) (path : Path) (location : Location) (content : List UInt8) : Prop :=
  ∃ directory name mode, location = directory ++ [name]
    ∧ tree.resolve path = .ok (.named directory name) ∧ path.endsInSlash = false
    ∧ name.utf8ByteSize ≤ 255 ∧ tree.entry? location = some (.file mode content)

theorem Holds.read (h : tree.Holds path location content) : tree.read path = .ok content := by
  obtain ⟨directory, name, mode, rfl, hresolve, hslash, hname, hentry⟩ := h
  exact read_of_file hresolve hslash hname hentry

/-- Putting a file where no directory is leads the path to that file. -/
theorem holds_put {directory : Location} {name : String} {mode : Nat}
    (hresolve : tree.resolve path = .ok (.named directory name)) (hslash : path.endsInSlash = false)
    (hname : name.utf8ByteSize ≤ 255) (hentry : tree.entry? (directory ++ [name]) ≠ some .directory) :
    Holds (tree.put (directory ++ [name]) (.file mode content)) path (directory ++ [name]) content :=
  ⟨directory, name, mode, rfl, (keeps_put (by simp) hentry).resolve hresolve, hslash, hname,
    by rw [ entry?_put tree (by simp), if_pos rfl]⟩

/-- A file is empty when it has been opened. -/
theorem holds_of_create {mode : Nat} (h : tree.create path mode = .ok (location, tree')) :
    tree'.Holds path location [] := by
  obtain ⟨directory, name, mode', rfl, hresolve, hslash, hname, hentry, rfl⟩ := create_eq_ok h
  exact holds_put hresolve hslash hname hentry

theorem Holds.change {mode : Nat → Nat} {written : List UInt8 → List UInt8}
    (h : tree.Holds path location content) :
    Holds (tree.change location fun old content => .file (mode old) (written content)) path location
      (written content) := by
  obtain ⟨directory, name, old, rfl, hresolve, hslash, hname, hentry⟩ := h
  rw [Tree.change, hentry]
  exact holds_put hresolve hslash hname (by simp [hentry])

end Tree

/-! ## Requests -/

namespace Disk

variable {disk disk' : Disk} {α β : Type} {act : ExceptT FileError (StateM Disk) α}
  {next : α → ExceptT FileError (StateM Disk) β} {f : Disk → Except FileError (α × Tree)}
  {error : FileError}

/-- What comes of an act. -/
def outcome (act : ExceptT FileError (StateM Disk) α) (disk : Disk) : Except FileError α × Disk :=
  act.run.run disk

/-- An act that fails is the end; one that does not is followed by the next. -/
theorem outcome_bind : outcome (act >>= next) disk =
    match outcome act disk with
    | (.ok a, between) => outcome (next a) between
    | (.error e, between) => (.error e, between) := by
  have hbind : outcome (act >>= next) disk =
      outcome (ExceptT.mk (ExceptT.bindCont next (outcome act disk).1)) (outcome act disk).2 := rfl
  rw [hbind]
  rcases outcome act disk with ⟨result, between⟩
  cases result <;> rfl

theorem outcome_bind_eq_ok {b : β} (h : outcome (act >>= next) disk = (.ok b, disk')) :
    ∃ a between, outcome act disk = (.ok a, between) ∧ outcome (next a) between = (.ok b, disk') := by
  rw [outcome_bind] at h
  split at h
  · next a between hact => exact ⟨a, between, hact, h⟩
  · cases h

theorem outcome_bind_eq_error (h : outcome (act >>= next) disk = (.error error, disk')) :
    outcome act disk = (.error error, disk') ∨ ∃ a between,
      outcome act disk = (.ok a, between) ∧ outcome (next a) between = (.error error, disk') := by
  rw [outcome_bind] at h
  split at h
  · next a between hact => exact .inr ⟨a, between, hact, h⟩
  · next e between hact =>
    cases h
    exact .inl hact

theorem outcome_tryCatch (handle : FileError → ExceptT FileError (StateM Disk) α) :
    outcome (tryCatch act handle) disk =
      match outcome act disk with
      | (.ok a, between) => (.ok a, between)
      | (.error e, between) => outcome (handle e) between := by
  simp only [outcome, tryCatch, tryCatchThe, MonadExceptOf.tryCatch, ExceptT.tryCatch, ExceptT.mk,
    ExceptT.run, StateT.run_bind]
  rcases StateT.run act disk with ⟨result, between⟩
  cases result <;> rfl

/-- A request fails because of a fault, or because of what it asks for. -/
theorem outcome_request (partly : Fault → Disk → Tree)
    (f : Disk → Except FileError (α × Tree)) :
    (∃ fault faults, disk.faults = some fault :: faults ∧ outcome (request partly f) disk =
      (.error fault.error, { disk with tree := partly fault disk, faults }))
    ∨ outcome (request partly f) disk = match f disk with
      | .ok (a, tree) => (.ok a, { disk with tree, faults := disk.faults.tail })
      | .error e => (.error e, { disk with faults := disk.faults.tail }) := by
  have hrequest : outcome (request partly f) disk = request partly f disk := rfl
  rw [hrequest, request]
  split
  · next fault faults hfaults => exact .inl ⟨fault, faults, hfaults, rfl⟩
  · exact .inr rfl

/-- An attempt that fails changes nothing. -/
theorem attempt_failed (h : outcome (attempt f) disk = (.error error, disk')) :
    disk'.tree = disk.tree ∧ disk'.kept = disk.kept := by
  obtain ⟨fault, faults, -, hfault⟩ | hcarried := outcome_request (fun _ disk => disk.tree) f
  · rw [attempt, hfault] at h
    cases h
    exact ⟨rfl, rfl⟩
  · rw [attempt, hcarried] at h
    split at h <;> cases h
    exact ⟨rfl, rfl⟩

theorem attempt_done {a : α} (h : outcome (attempt f) disk = (.ok a, disk')) :
    f disk = .ok (a, disk'.tree) ∧ disk'.kept = disk.kept := by
  obtain ⟨fault, faults, -, hfault⟩ | hcarried := outcome_request (fun _ disk => disk.tree) f
  · rw [attempt, hfault] at h
    cases h
  · rw [attempt, hcarried] at h
    split at h
    · next a tree hf =>
      cases h
      exact ⟨hf, rfl⟩
    · cases h

/-! ## Acts that make directories -/

structure Grown (disk disk' : Disk) : Prop where
  tree : disk.tree.Grown disk'.tree
  kept : disk'.kept = disk.kept

/-- Whatever comes of the act, it has made directories and done nothing else. -/
def Grows (act : ExceptT FileError (StateM Disk) α) : Prop := ∀ disk, Grown disk (outcome act disk).2

theorem grows_result (result : Except FileError α) : Grows (ExceptT.mk (pure result)) :=
  fun _ => ⟨.refl _, rfl⟩

theorem Grows.bind (h : Grows act) (hnext : ∀ a, Grows (next a)) : Grows (act >>= next) := by
  intro disk
  have hact := h disk
  rw [outcome_bind]
  generalize outcome act disk = result at hact
  obtain ⟨result, between⟩ := result
  cases result with
  | error e => exact hact
  | ok a =>
      have hrest := hnext a between
      exact ⟨hact.tree.trans hrest.tree, hrest.kept.trans hact.kept⟩

theorem Grows.tryCatch {handle : FileError → ExceptT FileError (StateM Disk) α} (h : Grows act)
    (hhandle : ∀ e, Grows (handle e)) : Grows (tryCatch act handle) := by
  intro disk
  have hact := h disk
  rw [outcome_tryCatch]
  generalize outcome act disk = result at hact
  obtain ⟨result, between⟩ := result
  cases result with
  | ok a => exact hact
  | error e =>
      have hrest := hhandle e between
      exact ⟨hact.tree.trans hrest.tree, hrest.kept.trans hact.kept⟩

theorem grows_attempt (h : ∀ disk a tree, f disk = .ok (a, tree) → disk.tree.Grown tree) :
    Grows (attempt f) := by
  intro disk
  rcases hact : outcome (attempt f) disk with ⟨error | a, disk'⟩
  · obtain ⟨htree, hkept⟩ := attempt_failed hact
    exact ⟨htree ▸ .refl _, hkept⟩
  · obtain ⟨hf, hkept⟩ := attempt_done hact
    exact ⟨h disk a _ hf, hkept⟩

theorem grows_makeDirectory (path : Path) : Grows (system.makeDirectory path) := by
  refine grows_attempt fun disk _ tree h => ?_
  cases hmade : disk.tree.makeDirectory path with
  | error e => simp [hmade, bind, Except.bind] at h
  | ok made =>
      simp only [hmade, bind, Except.bind, pure, Except.pure, Except.ok.injEq, Prod.mk.injEq] at h
      exact h.2 ▸ Tree.grown_of_makeDirectory hmade

theorem grows_isDirectory (path : Path) : Grows (ExceptT.lift (system.isDirectory path)) :=
  grows_attempt (f := fun disk => .ok (disk.tree.isDirectory path, disk.tree)) (by
    rintro disk answer tree ⟨⟩
    exact .refl _)

theorem grows_ensureDirectory (path : Path) : Grows (system.ensureDirectory path) := by
  refine (grows_makeDirectory path).tryCatch fun error => (grows_isDirectory path).bind fun answer => ?_
  cases answer with
  | true => exact grows_result (.ok ())
  | false => exact grows_result (.error error)

theorem grows_ensureFirst (paths : List Path) : Grows (system.ensureFirst paths) := by
  induction paths with
  | nil => exact grows_result (.error _)
  | cons path ancestors ih =>
      rw [FileSystem.ensureFirst]
      split
      · exact grows_result (.ok ())
      · refine (grows_ensureDirectory path).tryCatch fun error => ?_
        split
        · exact ih.bind fun _ => grows_ensureDirectory path
        · exact grows_result (.error _)

/-- On the way to a file nothing is made but directories. -/
theorem grows_ensureParent (path : Path) : Grows (system.ensureParent path) := by
  unfold FileSystem.ensureParent
  split
  · exact grows_ensureFirst _
  · exact grows_result (.ok ())

/-! ## Open files -/

variable {path : Path} {location : Location} {mode : Nat} {bytes : List UInt8}

/-- A file that was opened is empty, unless it is the system's own. -/
theorem create_done (h : outcome (system.create path mode) disk = (.ok location, disk')) :
    disk'.kept = disk.kept ∧ (location ∈ disk.kept → disk'.tree = disk.tree)
      ∧ (location ∉ disk.kept → disk'.tree.Holds path location []) := by
  obtain ⟨hopened, hkept⟩ := attempt_done h
  cases hcreate : disk.tree.create path mode with
  | error e => simp [hcreate, bind, Except.bind] at hopened
  | ok result =>
      obtain ⟨place, tree⟩ := result
      simp only [hcreate, bind, Except.bind, pure, Except.pure, Except.ok.injEq, Prod.mk.injEq]
        at hopened
      obtain ⟨rfl, htree⟩ := hopened
      refine ⟨hkept, fun hmem => ?_, fun hmem => ?_⟩
      · rw [← htree, if_pos hmem]
      · rw [if_neg hmem] at htree
        exact htree ▸ Tree.holds_of_create hcreate

/-- Another mode leaves the content as it is. -/
theorem setMode_done (h : outcome (system.setMode location mode) disk = (.ok (), disk')) :
    location ∉ disk.kept ∧ disk'.kept = disk.kept ∧
      ∀ path content, disk.tree.Holds path location content →
        disk'.tree.Holds path location content := by
  obtain ⟨hchanged, hkept⟩ := attempt_done h
  unfold changing at hchanged
  split at hchanged
  · cases hchanged
  · next hmem =>
    have htree : disk.tree.change location (fun _ content => .file mode content) = disk'.tree :=
      congrArg Prod.snd (Except.ok.inj hchanged)
    exact ⟨hmem, hkept, fun path content hholds => htree ▸ hholds.change⟩

/-- Of what is written when there is a fault, the beginning is in the file. -/
theorem write_failed (hmem : location ∉ disk.kept)
    (h : outcome (system.write location bytes) disk = (.error error, disk')) :
    ∃ fault, disk.faults.head? = some (some fault) ∧ fault.error = error ∧
      ∀ path content, disk.tree.Holds path location content →
        disk'.tree.Holds path location (content ++ bytes.take fault.written) := by
  obtain ⟨fault, faults, hfaults, hfault⟩ | hcarried := outcome_request
    (fun fault disk => if location ∈ disk.kept then disk.tree
      else append location (bytes.take fault.written) disk.tree)
    (changing location (append location bytes))
  · cases hfault.symm.trans h
    refine ⟨fault, by rw [hfaults]; rfl, rfl, fun path content hholds => ?_⟩
    rw [if_neg hmem]
    exact hholds.change
  · rw [changing, if_neg hmem] at hcarried
    cases hcarried.symm.trans h

end Disk

end GatewayClient
