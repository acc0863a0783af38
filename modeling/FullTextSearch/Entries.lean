/-
# `FullTextSearch.Entries` — entries in the order in which their keys first came.

Mappings keep the order of insertion, and some answers show it.  Writing to a key that is there
keeps the key and its place and changes the value; writing to a new key appends.  Which keys count
as one is a parameter, because equal keys may be written differently.

The statements here are about keys that are compared by equality: an entry that is there afterwards
was written or was there before (`mem_put`), and no key comes twice (`nodup_put`).
-/

namespace FullTextSearch.Entries

variable {κ α : Type}

/-- The entries after writing a value to a key. -/
def put (same : κ → κ → Bool) (key : κ) (value : α) : List (κ × α) → List (κ × α)
  | [] => [(key, value)]
  | (k, v) :: rest => if same k key then (k, value) :: rest else (k, v) :: put same key value rest

/-- The entries that writing a list of pairs in order leaves. -/
def ofPairs (same : κ → κ → Bool) (pairs : List (κ × α)) : List (κ × α) :=
  pairs.foldl (fun entries (k, v) => put same k v entries) []

/-- The value of a key. -/
def get? (same : κ → κ → Bool) (key : κ) (entries : List (κ × α)) : Option α :=
  (entries.find? fun (k, _) => same k key).map Prod.snd

/-! ## One write -/

section Lawful

variable [BEq κ] [LawfulBEq κ] {entries : List (κ × α)}

/-- An entry behind a write is the one that was written, or one that was there before. -/
theorem mem_put {key : κ} {value : α} {p : κ × α} (h : p ∈ put (· == ·) key value entries) :
    p = (key, value) ∨ p ∈ entries := by
  induction entries with
  | nil => exact Or.inl (List.mem_singleton.mp h)
  | cons e rest ih =>
      obtain ⟨k, v⟩ := e
      rw [put] at h
      split at h
      · next hkey =>
          rcases List.mem_cons.mp h with rfl | hp
          · exact Or.inl (by rw [eq_of_beq hkey])
          · exact Or.inr (List.mem_cons_of_mem _ hp)
      · rcases List.mem_cons.mp h with rfl | hp
        · exact Or.inr List.mem_cons_self
        · rcases ih hp with hnew | hold
          · exact Or.inl hnew
          · exact Or.inr (List.mem_cons_of_mem _ hold)

/-- A write makes a key of the one it writes to, and of no other. -/
theorem mem_keys_put {key k : κ} {value : α}
    (h : k ∈ (put (· == ·) key value entries).map Prod.fst) :
    k = key ∨ k ∈ entries.map Prod.fst := by
  obtain ⟨p, hp, rfl⟩ := List.mem_map.mp h
  rcases mem_put hp with rfl | hold
  · exact Or.inl rfl
  · exact Or.inr (List.mem_map_of_mem hold)

/-- Where no key comes twice, a write leaves it so. -/
theorem nodup_put (h : (entries.map Prod.fst).Nodup) (key : κ) (value : α) :
    ((put (· == ·) key value entries).map Prod.fst).Nodup := by
  induction entries with
  | nil => simp [put]
  | cons e rest ih =>
      obtain ⟨k, v⟩ := e
      obtain ⟨hk, hrest⟩ := List.nodup_cons.mp h
      rw [put]
      split
      · exact h
      · next hkey =>
          rw [List.map_cons, List.nodup_cons]
          refine ⟨fun hmem => ?_, ih hrest⟩
          -- the key of the head is in the rest only if it was written there, and then it is the head
          rcases mem_keys_put hmem with rfl | hold
          · exact hkey (beq_self_eq_true _)
          · exact hk hold

end Lawful

end FullTextSearch.Entries
