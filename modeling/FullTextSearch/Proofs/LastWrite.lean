/-
# `FullTextSearch.Proofs.LastWrite` — the entries that a row of writes leaves.

Writing pairs in order leaves every key once, with the value that was written to it last.  Two facts
follow, one for each way of looking at a row of writes.

* Seen from the writes: where no key comes twice nothing is overwritten, and the entries are the pairs
  as they were written (`ofPairs_of_pairwise`).
* Seen from one key: its value is carried along the writes by `heldAfter`, which keeps a value until
  the next write to that key.  `lookup_put` is the step and `lookup_ofPairs` the run; the last write is
  then found in the row itself (`foldl_heldAfter_eq_some_iff`).

`Weights` are such entries, clamped on the way in, so both facts hold of them: weights written one
after another are looked up by `lookup_ofPairs`, and weights that are written again are the same
weights (`Weights.ofPairs_entries`).
-/
import FullTextSearch.Rank.Options

namespace FullTextSearch

namespace Entries

variable {κ α : Type}

/-! ## Keys that differ -/

/-- A key that is not there yet comes last. -/
theorem put_of_fresh {same : κ → κ → Bool} {key : κ} {value : α} {entries : List (κ × α)}
    (h : ∀ e ∈ entries, same e.1 key = false) :
    put same key value entries = entries ++ [(key, value)] := by
  induction entries with
  | nil => rfl
  | cons e rest ih =>
      obtain ⟨hkey, hrest⟩ := List.forall_mem_cons.mp h
      rw [put, if_neg (by simp [hkey]), ih hrest]
      rfl

/-- **Where no key comes twice, the entries are the pairs that were written.**  The comparison of keys
need not be equality: the values of a mapping are keys of many kinds. -/
theorem ofPairs_of_pairwise {same : κ → κ → Bool} {pairs : List (κ × α)}
    (h : pairs.Pairwise fun p q => same p.1 q.1 = false) : ofPairs same pairs = pairs := by
  -- the induction is on what is still to be written, behind entries that differ from all of it
  have hfold : ∀ {written entries : List (κ × α)},
      (entries ++ written).Pairwise (fun p q => same p.1 q.1 = false) →
        written.foldl (fun entries e => put same e.1 e.2 entries) entries =
          entries ++ written := by
    intro written
    induction written with
    | nil =>
        intro entries _
        exact (List.append_nil entries).symm
    | cons e written ih =>
        intro entries hpairs
        have hfresh : ∀ p ∈ entries, same p.1 e.1 = false := fun p hp =>
          (List.pairwise_append.mp hpairs).2.2 p hp e List.mem_cons_self
        rw [List.append_cons] at hpairs
        rw [List.foldl_cons, put_of_fresh hfresh, ih hpairs, ← List.append_cons]
  exact hfold h

section Lawful

variable [BEq κ] [LawfulBEq κ]

/-! ## The last write to a key -/

/-- What a key holds after one more write: the new value if the write is to that key, and else what it
held before. -/
def heldAfter (key : κ) (held : Option α) (pair : κ × α) : Option α :=
  if key == pair.1 then some pair.2 else held

/-- A write is seen under its own key only.  The cases are those of the write: it replaces the head of
the entries or goes on behind it. -/
theorem lookup_put (key : κ) (pair : κ × α) (entries : List (κ × α)) :
    (put (· == ·) pair.1 pair.2 entries).lookup key =
      heldAfter key (entries.lookup key) pair := by
  obtain ⟨k, v⟩ := pair
  induction entries with
  | nil =>
      show List.lookup key [(k, v)] = _
      rw [List.lookup_cons, heldAfter]
      cases key == k <;> rfl
  | cons e rest ih =>
      obtain ⟨k', v'⟩ := e
      by_cases hk : k' = k
      · subst hk
        rw [put, if_pos (beq_self_eq_true k'), heldAfter, List.lookup_cons, List.lookup_cons]
        cases key == k' <;> rfl
      · rw [put, if_neg (by simpa using hk), List.lookup_cons, List.lookup_cons, ih, heldAfter,
          heldAfter]
        -- the head is found under its own key, which the write leaves alone
        by_cases hkey : key = k'
        · subst hkey
          simp [hk]
        · have hother : (key == k') = false := beq_eq_false_iff_ne.mpr hkey
          rw [hother]

/-- What a key holds after any writes is told by the writes alone: looking it up commutes with every
one of them. -/
theorem lookup_ofPairs (key : κ) (pairs : List (κ × α)) :
    (ofPairs (· == ·) pairs).lookup key = pairs.foldl (heldAfter key) none :=
  (List.foldl_hom (List.lookup key) fun entries pair => (lookup_put key pair entries).symm).symm

/-- Every entry was written. -/
theorem mem_of_mem_ofPairs {pairs : List (κ × α)} {p : κ × α} (h : p ∈ ofPairs (· == ·) pairs) :
    p ∈ pairs := by
  -- no write brings in anything but its own pair
  have hwritten : ∀ q ∈ ofPairs (· == ·) pairs, q ∈ pairs := by
    refine List.foldlRecOn (motive := fun entries => ∀ q ∈ entries, q ∈ pairs) pairs _
      (List.forall_mem_nil _) ?_
    intro entries hentries pair hpair q hq
    rcases mem_put hq with rfl | hold
    · exact hpair
    · exact hentries q hold
  exact hwritten p h

/-- A key holds nothing exactly if it held nothing before and nothing was written to it. -/
theorem foldl_heldAfter_eq_none_iff {key : κ} {pairs : List (κ × α)} {held : Option α} :
    pairs.foldl (heldAfter key) held = none ↔ held = none ∧ ∀ p ∈ pairs, p.1 ≠ key := by
  induction pairs generalizing held with
  | nil => simp
  | cons pair pairs ih =>
      rw [List.foldl_cons, ih, heldAfter, List.forall_mem_cons]
      by_cases hkey : key = pair.1
      · simp [hkey]
      · simp [hkey, Ne.symm hkey]

/-- **A key holds what was written to it last**, or what it held before if nothing was.  Read from the
left: the first write is either the last one to that key, or something later in the row decides. -/
theorem foldl_heldAfter_eq_some_iff {key : κ} {v : α} {pairs : List (κ × α)}
    {held : Option α} :
    pairs.foldl (heldAfter key) held = some v ↔
      (∃ before after, pairs = before ++ (key, v) :: after ∧ ∀ p ∈ after, p.1 ≠ key) ∨
        (held = some v ∧ ∀ p ∈ pairs, p.1 ≠ key) := by
  induction pairs generalizing held with
  | nil => simp
  | cons pair pairs ih =>
      rw [List.foldl_cons, ih]
      constructor
      · rintro (⟨before, after, rfl, hafter⟩ | ⟨hheld, hnone⟩)
        · exact Or.inl ⟨pair :: before, after, rfl, hafter⟩
        · -- nothing behind the first write is to this key, so the first write decides
          by_cases hkey : key = pair.1
          · subst hkey
            rw [heldAfter, if_pos (beq_self_eq_true _)] at hheld
            obtain rfl := Option.some.inj hheld
            exact Or.inl ⟨[], pairs, rfl, hnone⟩
          · rw [heldAfter, if_neg (by simpa using hkey)] at hheld
            exact Or.inr ⟨hheld, List.forall_mem_cons.mpr ⟨Ne.symm hkey, hnone⟩⟩
      · rintro (⟨before, after, hpairs, hafter⟩ | ⟨hheld, hnone⟩)
        · cases before with
          | nil =>
              obtain ⟨rfl, rfl⟩ := List.cons.inj hpairs
              refine Or.inr ⟨?_, hafter⟩
              rw [heldAfter, if_pos (beq_self_eq_true _)]
          | cons first before =>
              obtain ⟨-, rfl⟩ := List.cons.inj hpairs
              exact Or.inl ⟨before, after, rfl, hafter⟩
        · obtain ⟨hfirst, hrest⟩ := List.forall_mem_cons.mp hnone
          refine Or.inr ⟨?_, hrest⟩
          rw [heldAfter, if_neg (by simpa using Ne.symm hfirst), hheld]

/-- Where no key comes twice, to stand among the entries is to be found under one's key. -/
theorem mem_iff_lookup_eq_some {entries : List (κ × α)} (h : (entries.map Prod.fst).Nodup)
    {key : κ} {v : α} : (key, v) ∈ entries ↔ entries.lookup key = some v := by
  induction entries with
  | nil => simp
  | cons e rest ih =>
      obtain ⟨k, v'⟩ := e
      obtain ⟨hk, hrest⟩ := List.nodup_cons.mp h
      rw [List.mem_cons, List.lookup_cons, ih hrest]
      by_cases hkey : key = k
      · -- the head hides nothing: its key does not stand in the rest
        subst hkey
        have hnone : rest.lookup key ≠ some v :=
          fun hsome => hk (List.mem_map.mpr ⟨(key, v), (ih hrest).mpr hsome, rfl⟩)
        simp [hnone, eq_comm]
      · have hother : (key == k) = false := beq_eq_false_iff_ne.mpr hkey
        simp [hkey, hother]

end Lawful

end Entries

/-! ## Weights -/

namespace Weights

/-- A pair as it is written: its number is clamped. -/
def clampPair (pair : WeightLabel × Binary64) : WeightLabel × Binary64 := (pair.1, pair.2.clampUnit)

/-- Weights are the entries that their clamped numbers leave. -/
theorem entries_ofPairs (pairs : List (WeightLabel × Binary64)) :
    (ofPairs pairs).entries = Entries.ofPairs (· == ·) (pairs.map clampPair) := by
  rw [Entries.ofPairs, List.foldl_map]
  exact (List.foldl_hom Weights.entries fun _ _ => rfl).symm

/-- **Weights that are written again are the same weights**: no label comes twice among them, and
there is nothing left to clamp. -/
theorem ofPairs_entries (weights : Weights) : ofPairs weights.entries = weights := by
  have hclamped : weights.entries.map clampPair = weights.entries := by
    rw [List.map_congr_left fun pair hpair => ?_, List.map_id]
    exact Prod.ext rfl (weights.clamped pair hpair)
  have hlabels : weights.entries.Pairwise fun p q => (p.1 == q.1) = false := by
    apply (List.pairwise_map.mp weights.labels).imp
    intro p q hne
    exact beq_eq_false_iff_ne.mpr hne
  apply Weights.ext
  rw [entries_ofPairs, hclamped, Entries.ofPairs_of_pairwise hlabels]

end Weights

end FullTextSearch
