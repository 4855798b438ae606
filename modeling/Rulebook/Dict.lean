/-!
# Dictionaries in key order

A dictionary is a list of entries in increasing order of their keys, compared by
code point, with no key twice. JSON objects, contexts, comparer tables and
partition levels are all dictionaries, so every walk over one of them is in key
order. The type does not force the order: `insert` keeps it, and the functions
that build dictionaries build them by `insert`. Reading after writing gives what
was written last.
-/

namespace Rulebook

/-- Entries in increasing order of their keys. -/
abbrev Dict (α : Type) := List (String × α)

namespace Dict

variable {α : Type}

/-- The value stored under a key. -/
def find? (key : String) : Dict α → Option α
  | [] => none
  | (k, value) :: rest => if k = key then some value else find? key rest

/-- The dictionary with `value` under `key`, in place of an older value. -/
def insert (key : String) (value : α) : Dict α → Dict α
  | [] => [(key, value)]
  | (k, old) :: rest =>
    if key = k then (key, value) :: rest
    else if key < k then (key, value) :: (k, old) :: rest
    else (k, old) :: insert key value rest

/-- The entries inserted one after the other, so that the last one of a key
stays. -/
def ofEntries (entries : List (String × α)) : Dict α :=
  entries.foldl (fun dict entry => insert entry.1 entry.2 dict) []

/-- The keys in their order. -/
def keys (dict : Dict α) : List String := dict.map Prod.fst

/-- The dictionary without the entry of a key. -/
def erase (key : String) (dict : Dict α) : Dict α :=
  dict.filter fun entry => entry.1 != key

/-- The keys increase, so none of them occurs twice. -/
def Ordered (dict : Dict α) : Prop := dict.Pairwise fun a b => a.1 < b.1

@[simp] theorem find?_nil (key : String) : find? key ([] : Dict α) = none := rfl

/-- Reading a key just written gives the value written. -/
theorem find?_insert_self (key : String) (value : α) (dict : Dict α) :
    find? key (insert key value dict) = some value := by
  induction dict with
  | nil => simp [insert, find?]
  | cons entry rest ih =>
    obtain ⟨k, old⟩ := entry
    unfold insert
    split
    · simp [find?]
    · split
      · simp [find?]
      · next hne _ =>
        have hk : k ≠ key := fun h => hne h.symm
        simp [find?, hk, ih]

/-- Writing a key leaves what is stored under every other key. -/
theorem find?_insert_of_ne {key other : String} (hne : other ≠ key) (value : α)
    (dict : Dict α) : find? other (insert key value dict) = find? other dict := by
  have hkey : key ≠ other := fun h => hne h.symm
  induction dict with
  | nil => simp [insert, find?, hkey]
  | cons entry rest ih =>
    obtain ⟨k, old⟩ := entry
    unfold insert
    split
    · next heq =>
      subst heq
      simp [find?, hkey]
    · split
      · simp [find?, hkey]
      · simp only [find?, ih]

/-- What is found under a key is stored with it. -/
theorem mem_of_find? {key : String} {value : α} {dict : Dict α} (h : find? key dict = some value) :
    (key, value) ∈ dict := by
  induction dict with
  | nil => cases h
  | cons entry rest ih =>
    obtain ⟨k, stored⟩ := entry
    unfold find? at h
    split at h
    · next hkey =>
      cases h
      exact hkey ▸ List.mem_cons_self
    · exact List.mem_cons_of_mem _ (ih h)

/-- No entry has a key under which nothing is found. -/
theorem ne_of_find?_eq_none {key : String} {dict : Dict α} (h : find? key dict = none) :
    ∀ entry ∈ dict, entry.1 ≠ key := by
  induction dict with
  | nil => exact fun entry hmem => absurd hmem List.not_mem_nil
  | cons first rest ih =>
    obtain ⟨k, value⟩ := first
    unfold find? at h
    split at h
    · cases h
    · next hkey => exact List.forall_mem_cons.mpr ⟨hkey, ih h⟩

/-- What is stored with a key is found under it. -/
theorem find?_of_mem {key : String} {value : α} {dict : Dict α} (hordered : Ordered dict)
    (hmem : (key, value) ∈ dict) : find? key dict = some value := by
  induction dict with
  | nil => exact absurd hmem List.not_mem_nil
  | cons entry rest ih =>
    obtain ⟨k, stored⟩ := entry
    obtain ⟨hfirst, hrest⟩ := List.pairwise_cons.mp hordered
    rcases List.mem_cons.mp hmem with heq | hmem
    · cases heq
      exact if_pos rfl
    · have hlt : k < key := hfirst _ hmem
      have hne : k ≠ key := fun heq => String.lt_irrefl key (heq ▸ hlt)
      rw [find?, if_neg hne]
      exact ih hrest hmem

/-- Later keys are not the key to erase. -/
theorem erase_eq_self {key : String} {dict : Dict α} (h : ∀ entry ∈ dict, key < entry.1) :
    erase key dict = dict := by
  refine List.filter_eq_self.mpr fun entry hmem => bne_iff_ne.mpr fun heq => ?_
  exact String.lt_irrefl key (heq ▸ h entry hmem)

/-- The entries after a write are the written one and those of other keys. -/
theorem perm_insert (key : String) (value : α) {dict : Dict α} (hordered : Ordered dict) :
    (insert key value dict).Perm ((key, value) :: erase key dict) := by
  induction dict with
  | nil => exact .refl _
  | cons entry rest ih =>
    obtain ⟨k, old⟩ := entry
    obtain ⟨hfirst, hrest⟩ := List.pairwise_cons.mp hordered
    unfold insert
    split
    · next heq =>
      subst heq
      have herase : erase key ((key, old) :: rest) = rest :=
        (List.filter_cons_of_neg (by simp)).trans (erase_eq_self hfirst)
      rw [herase]
    · next hne =>
      split
      · next hlt =>
        rw [erase_eq_self]
        intro entry hmem
        rcases List.mem_cons.mp hmem with rfl | hmem
        · exact hlt
        · exact String.lt_trans hlt (hfirst entry hmem)
      · have herase : erase key ((k, old) :: rest) = (k, old) :: erase key rest :=
          List.filter_cons_of_pos (bne_iff_ne.mpr fun heq => hne heq.symm)
        rw [herase]
        exact ((ih hrest).cons (k, old)).trans (.swap _ _ _)

/-- The entries after a write are the written one and those there before. -/
theorem mem_insert {key : String} {value : α} {dict : Dict α} {entry : String × α}
    (h : entry ∈ insert key value dict) : entry = (key, value) ∨ entry ∈ dict := by
  induction dict with
  | nil => exact Or.inl (List.mem_singleton.mp h)
  | cons first rest ih =>
    obtain ⟨k, old⟩ := first
    unfold insert at h
    split at h
    · rcases List.mem_cons.mp h with h | h
      · exact Or.inl h
      · exact Or.inr (List.mem_cons_of_mem _ h)
    · split at h
      · rcases List.mem_cons.mp h with h | h
        · exact Or.inl h
        · exact Or.inr h
      · rcases List.mem_cons.mp h with h | h
        · exact Or.inr (h ▸ List.mem_cons_self)
        · exact (ih h).imp_right (List.mem_cons_of_mem _)

/-- Writing a key keeps the order. -/
theorem ordered_insert (key : String) (value : α) {dict : Dict α} (h : Ordered dict) :
    Ordered (insert key value dict) := by
  induction dict with
  | nil => exact List.pairwise_singleton _ _
  | cons first rest ih =>
    obtain ⟨k, old⟩ := first
    obtain ⟨hfirst, hrest⟩ := List.pairwise_cons.mp h
    unfold insert
    split
    · next heq =>
      subst heq
      exact List.pairwise_cons.mpr ⟨hfirst, hrest⟩
    · next hne =>
      split
      · next hlt =>
        refine List.pairwise_cons.mpr ⟨fun entry hentry => ?_, h⟩
        rcases List.mem_cons.mp hentry with rfl | hentry
        · exact hlt
        · exact String.lt_trans hlt (hfirst entry hentry)
      · next hnot =>
        refine List.pairwise_cons.mpr ⟨fun entry hentry => ?_, ih hrest⟩
        rcases mem_insert hentry with rfl | hentry
        · have hle : k ≤ key := String.not_lt.mp hnot
          exact String.not_le.mp fun hge => hne (String.le_antisymm hge hle)
        · exact hfirst entry hentry

end Dict

end Rulebook
