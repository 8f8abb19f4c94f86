import GatewayClient.Proofs.Files.Disk
import GatewayClient.Token.File
/-!
# Replacements that fail

A token is replaced in the file that holds it, which is emptied when it is opened. So an old
token outlives a replacement that fails before the file is open, and no other: what is in the
file afterwards is nothing, or the beginning of the new token.

Main statement: `held_after_failed_set`.
-/

namespace GatewayClient.Token.File

open Disk (outcome)

variable {file : File} {token : String} {disk disk' opened ready : Disk} {error : FileError}
  {location : Location} {bytes : List UInt8}

/-! ## The token in a file -/

/-- The token that is found when nothing goes wrong. -/
def held (file : File) (disk : Disk) : Option String := ((file.get Disk.system).run disk.calm).1

/-- The token that the content of a file stands for. -/
def tokenOf? (bytes : List UInt8) : Option String := do
  let text ← Utf8.decode? bytes
  if trim text = "" then none else some (trim text)

theorem outcome_read_calm (path : Path) :
    outcome (Disk.system.read path) disk.calm = (disk.tree.read path, disk.calm) := by
  obtain ⟨fault, faults, hfaults, -⟩ | hread := @Disk.outcome_request disk.calm _
    (fun _ disk => disk.tree) fun disk => do return (← disk.tree.read path, disk.tree)
  · cases hfaults
  · refine Eq.trans hread ?_
    simp only [Disk.calm, bind, Except.bind]
    cases disk.tree.read path <;> rfl

theorem held_eq (file : File) (disk : Disk) :
    file.held disk = (disk.tree.read file.path).toOption.bind tokenOf? := by
  have hget : file.held disk = (outcome (Disk.system.readText file.path) disk.calm).1.toOption.bind
      fun text => if trim text = "" then none else some (trim text) := by
    simp only [held, get, StateT.run_bind, outcome]
    generalize StateT.run (Disk.system.readText file.path).run disk.calm = result
    obtain ⟨result, between⟩ := result
    cases result <;> rfl
  rw [hget, FileSystem.readText, Disk.outcome_bind, outcome_read_calm]
  cases disk.tree.read file.path with
  | error e => rfl
  | ok bytes =>
      change _ = tokenOf? bytes
      dsimp only
      rw [tokenOf?]
      cases Utf8.decode? bytes <;> rfl

theorem held_of_read (h : disk.tree.read file.path = .ok bytes) : file.held disk = tokenOf? bytes := by
  rw [held_eq, h]
  rfl

theorem held_of_not_read (h : disk.tree.read file.path = .error error) : file.held disk = none := by
  rw [held_eq, h]
  rfl

/-! ## The steps of a replacement -/

/-- Opens the file, in a directory that is made for it if need be. -/
def opening (file : File) : ExceptT FileError (StateM Disk) Location := do
  Disk.system.ensureParent file.path
  Disk.system.create file.path 0o600

theorem set_eq (file : File) (token : String) : file.set Disk.system token = (do
    let location ← opening file
    Disk.system.setMode location 0o600
    Disk.system.write location (Utf8.encode (trim token))) := by
  simp only [set, opening, bind_assoc]

/-- The token is the one from before, unless there was none, and the path leads back through
directories that may have been missing. -/
def Unharmed (file : File) (disk disk' : Disk) : Prop :=
  file.held disk' = file.held disk ∨ file.held disk = none ∧ ".." ∈ file.path.names

theorem unharmed_of_grown (hclosed : disk.tree.Closed) (h : disk.tree.Grown disk'.tree) :
    file.Unharmed disk disk' := by
  cases hread : disk.tree.read file.path with
  | ok bytes => exact .inl (by rw [held_of_read (h.read hread), held_of_read hread])
  | error e =>
      have hnone := held_of_not_read hread
      by_cases hback : ".." ∈ file.path.names
      · exact .inr ⟨hnone, hback⟩
      · left
        cases hread' : disk'.tree.read file.path with
        | error e' => exact (held_of_not_read hread').trans hnone.symm
        | ok bytes =>
            have hbefore := h.read_of_closed hclosed hback hread'
            rw [hread] at hbefore
            cases hbefore

theorem grown_of_opening_failed (h : outcome (opening file) disk = (.error error, disk')) :
    disk.tree.Grown disk'.tree := by
  have hparent := Disk.grows_ensureParent file.path disk
  obtain hfailed | ⟨_, between, hmade, hfailed⟩ := Disk.outcome_bind_eq_error h
  · exact (hfailed ▸ hparent).tree
  · rw [hmade] at hparent
    exact (Disk.attempt_failed hfailed).1 ▸ hparent.tree

theorem opening_done (h : outcome (opening file) disk = (.ok location, opened)) :
    opened.kept = disk.kept ∧ (location ∈ disk.kept → disk.tree.Grown opened.tree)
      ∧ (location ∉ disk.kept → opened.tree.Holds file.path location []) := by
  have hparent := Disk.grows_ensureParent file.path disk
  obtain ⟨_, between, hmade, hcreated⟩ := Disk.outcome_bind_eq_ok h
  rw [hmade] at hparent
  obtain ⟨hkept, hsame, hempty⟩ := Disk.create_done hcreated
  rw [hparent.kept] at hkept hsame hempty
  exact ⟨hkept, fun hmem => hsame hmem ▸ hparent.tree, hempty⟩

/-! ## Replacements -/

theorem tokenOf?_nil : tokenOf? [] = none := by decide +kernel

/-- What is left of a token when its replacement has failed. As long as the file could not be
opened, the token is the one from before, but for a path that leads back. If its mode could not be
changed, there is none, but for a file of the system's own; and if the new token could not be
written, there is as much of it as was. -/
theorem held_after_failed_set (hclosed : disk.tree.Closed)
    (hset : outcome (file.set Disk.system token) disk = (.error error, disk')) :
    (outcome (opening file) disk = (.error error, disk') ∧ file.Unharmed disk disk')
    ∨ ∃ location opened, outcome (opening file) disk = (.ok location, opened)
      ∧ ((outcome (Disk.system.setMode location 0o600) opened = (.error error, disk')
          ∧ (location ∈ disk.kept → file.Unharmed disk disk')
          ∧ (location ∉ disk.kept → file.held disk' = none))
        ∨ ∃ ready fault, outcome (Disk.system.setMode location 0o600) opened = (.ok (), ready)
          ∧ outcome (Disk.system.write location (Utf8.encode (trim token))) ready
            = (.error error, disk')
          ∧ ready.faults.head? = some (some fault) ∧ fault.error = error
          ∧ file.held disk' = tokenOf? ((Utf8.encode (trim token)).take fault.written)) := by
  rw [set_eq] at hset
  obtain hopening | ⟨location, opened, hopening, hset⟩ := Disk.outcome_bind_eq_error hset
  · exact .inl ⟨hopening, unharmed_of_grown hclosed (grown_of_opening_failed hopening)⟩
  refine .inr ⟨location, opened, hopening, ?_⟩
  obtain ⟨hkept, hgrown, hempty⟩ := opening_done hopening
  obtain hmode | ⟨_, ready, hmode, hwrite⟩ := Disk.outcome_bind_eq_error hset
  · left
    -- the file is as it was opened: as before if it is the system's own, and empty otherwise
    have hsame := (Disk.attempt_failed hmode).1
    refine ⟨hmode, fun hmem => unharmed_of_grown hclosed (hsame ▸ hgrown hmem), fun hmem => ?_⟩
    rw [held_of_read (hsame ▸ (hempty hmem).read), tokenOf?_nil]
  · right
    -- a file whose mode was changed is not the system's own, so it was empty before the write
    obtain ⟨hmem, hkept', hmoded⟩ := Disk.setMode_done hmode
    obtain ⟨fault, hfault, herror, hwritten⟩ := Disk.write_failed (hkept' ▸ hmem) hwrite
    have hheld := hwritten _ _ (hmoded _ _ (hempty (hkept ▸ hmem)))
    exact ⟨ready, fault, hmode, hwrite, hfault, herror, held_of_read hheld.read⟩

def noSpace : FileError := .other "No space left on device (os error 28)"

/-- A token in a file, and what happens to the requests to come. -/
def holding (faults : List (Option Fault)) : Disk where
  tree := { entries := [(["token"], .file 0o600 (Utf8.encode "old"))] }
  faults := faults

/-- Two bytes fit on the disk. -/
theorem held_after_full_disk :
    ∃ disk', outcome (File.set ⟨⟨"token"⟩⟩ Disk.system "new") (holding [none, none, some ⟨noSpace, 2⟩])
        = (.error noSpace, disk')
      ∧ held ⟨⟨"token"⟩⟩ disk' = tokenOf? ((Utf8.encode (trim "new")).take 2) := by
  have hset : outcome (File.set ⟨⟨"token"⟩⟩ Disk.system "new")
      (holding [none, none, some ⟨noSpace, 2⟩]) =
        (.error noSpace, { tree := { entries := [(["token"], .file 0o600 (Utf8.encode "ne"))] } }) := by
    decide +kernel
  have hopened : outcome (opening ⟨⟨"token"⟩⟩) (holding [none, none, some ⟨noSpace, 2⟩]) =
      (.ok ["token"], { tree := { entries := [(["token"], .file 0o600 [])] },
                        faults := [none, some ⟨noSpace, 2⟩] }) := by decide +kernel
  have hmoded : outcome (Disk.system.setMode ["token"] 0o600)
      { tree := { entries := [(["token"], .file 0o600 [])] }, faults := [none, some ⟨noSpace, 2⟩] } =
      (.ok (), { tree := { entries := [(["token"], .file 0o600 [])] },
                 faults := [some ⟨noSpace, 2⟩] }) := by decide +kernel
  refine ⟨_, hset, ?_⟩
  obtain ⟨hopening, -⟩ | ⟨location, opened, hopening, hrest⟩ :=
    held_after_failed_set (by decide +kernel) hset
  · rw [hopened] at hopening
    cases congrArg Prod.fst hopening
  · rw [hopened] at hopening
    obtain ⟨hlocation, rfl⟩ := Prod.mk.inj hopening
    obtain rfl := Except.ok.inj hlocation
    obtain ⟨hmode, -⟩ | ⟨ready, fault, hmode, -, hfault, -, hheld⟩ := hrest
    · rw [hmoded] at hmode
      cases congrArg Prod.fst hmode
    · rw [hmoded] at hmode
      obtain ⟨-, rfl⟩ := Prod.mk.inj hmode
      obtain rfl := Option.some.inj (Option.some.inj hfault)
      exact hheld

/-- The answer to a replacement, and the tokens that are found before and after it. -/
def replacement (path token : String) (disk : Disk) :
    Except FileError Unit × Option String × Option String :=
  let file : File := ⟨⟨path⟩⟩
  let (answer, disk') := outcome (file.set Disk.system token) disk
  (answer, file.held disk, file.held disk')

/-- A token is lost when the mode of its file cannot be changed or the disk is full. One is found
that was not there when the directory through which the path leads back has been made, and then
the file cannot be opened, or is one of the system's own. -/
theorem old_token_not_kept :
    replacement "token" "new" (holding [none, some ⟨Disk.notPermitted, 0⟩])
        = (.error Disk.notPermitted, some "old", none)
    ∧ replacement "token" "new" (holding [none, none, some ⟨noSpace, 2⟩])
        = (.error noSpace, some "old", some "ne")
    ∧ replacement "x/../token" "new" (holding (.replicate 5 none ++ [some ⟨Disk.notPermitted, 0⟩]))
        = (.error Disk.notPermitted, none, some "old")
    ∧ replacement "x/../proc/self/coredump_filter" "abc" (Disk.linux {})
        = (.error Disk.notPermitted, none, some "00000033") := by
  refine ⟨?_, ?_, ?_, ?_⟩ <;> decide +kernel

end GatewayClient.Token.File
