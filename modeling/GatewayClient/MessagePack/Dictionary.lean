/-!
# Dictionaries

Tables from texts to values. Entries are kept in increasing order of their keys, so two
dictionaries with the same entries are the same, and a dictionary is made of its entries again
(`ofList_entries`).
-/

namespace GatewayClient.MessagePack

@[ext] structure Dictionary (α : Type) where
  entries : List (String × α)
  ordered : entries.Pairwise (·.1 < ·.1)

namespace Dictionary

variable {α : Type} {key : String} {value : α} {entries : List (String × α)}

/-- Sets the value of `key` in entries that are in order, and keeps them in order. -/
def insertEntry (key : String) (value : α) : List (String × α) → List (String × α)
  | [] => [(key, value)]
  | (k, v) :: entries =>
    if key < k then (key, value) :: (k, v) :: entries
    else if key = k then (key, value) :: entries
    else (k, v) :: insertEntry key value entries

theorem mem_insertEntry {entry : String × α} (h : entry ∈ insertEntry key value entries) :
    entry = (key, value) ∨ entry ∈ entries := by
  induction entries with
  | nil => exact .inl (List.mem_singleton.mp h)
  | cons first entries ih =>
      unfold insertEntry at h
      split at h
      · exact List.mem_cons.mp h
      split at h
      · exact (List.mem_cons.mp h).imp_right (List.mem_cons_of_mem _)
      rcases List.mem_cons.mp h with rfl | h
      · exact .inr List.mem_cons_self
      · exact (ih h).imp_right (List.mem_cons_of_mem _)

theorem pairwise_insertEntry (h : entries.Pairwise (·.1 < ·.1)) :
    (insertEntry key value entries).Pairwise (·.1 < ·.1) := by
  induction entries with
  | nil => exact List.pairwise_singleton _ _
  | cons first entries ih =>
      obtain ⟨hfirst, hrest⟩ := List.pairwise_cons.mp h
      unfold insertEntry
      split
      · case isTrue hlt =>
        refine List.pairwise_cons.mpr ⟨List.forall_mem_cons.mpr ⟨hlt, fun entry hentry => ?_⟩, h⟩
        exact String.lt_trans hlt (hfirst entry hentry)
      split
      · case isTrue heq =>
        subst heq
        exact List.pairwise_cons.mpr ⟨hfirst, hrest⟩
      · case isFalse hnot hne =>
        have hlt : first.1 < key := Std.lt_of_le_of_ne (String.not_lt.mp hnot) (Ne.symm hne)
        refine List.pairwise_cons.mpr ⟨fun entry hentry => ?_, ih hrest⟩
        rcases mem_insertEntry hentry with rfl | hentry
        · exact hlt
        · exact hfirst entry hentry

/-- A key after all others is put at the end. -/
theorem insertEntry_of_forall_lt (h : ∀ entry ∈ entries, entry.1 < key) :
    insertEntry key value entries = entries ++ [(key, value)] := by
  induction entries with
  | nil => rfl
  | cons first entries ih =>
      obtain ⟨hfirst, hrest⟩ := List.forall_mem_cons.mp h
      have hne : key ≠ first.1 := by
        rintro rfl
        exact String.lt_irrefl _ hfirst
      rw [insertEntry, if_neg (String.lt_asymm hfirst), if_neg hne, ih hrest]
      rfl

def empty : Dictionary α := ⟨[], .nil⟩

def insert (table : Dictionary α) (key : String) (value : α) : Dictionary α :=
  ⟨insertEntry key value table.entries, pairwise_insertEntry table.ordered⟩

/-- Of entries with equal keys the last one counts. -/
def ofList (entries : List (String × α)) : Dictionary α :=
  entries.foldl (fun table entry => table.insert entry.1 entry.2) empty

theorem entries_foldl_insert {table : Dictionary α}
    (h : (table.entries ++ entries).Pairwise (·.1 < ·.1)) :
    (entries.foldl (fun table entry => table.insert entry.1 entry.2) table).entries =
      table.entries ++ entries := by
  induction entries generalizing table with
  | nil => exact (List.append_nil _).symm
  | cons first entries ih =>
      have hlt : ∀ entry ∈ table.entries, entry.1 < first.1 := fun entry hentry =>
        (List.pairwise_append.mp h).2.2 entry hentry first List.mem_cons_self
      have hinsert : (table.insert first.1 first.2).entries = table.entries ++ [first] :=
        insertEntry_of_forall_lt hlt
      rw [List.append_cons, ← hinsert] at h
      rw [List.foldl_cons, ih h, hinsert, ← List.append_cons]

/-- A dictionary is made of its entries. -/
@[simp] theorem ofList_entries (table : Dictionary α) : ofList table.entries = table :=
  Dictionary.ext (entries_foldl_insert table.ordered)

end Dictionary

end GatewayClient.MessagePack
