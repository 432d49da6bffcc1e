import Mathlib.Data.List.Perm.Subperm
import Std.Data.TreeMap
import Std.Data.TreeSet

/-!
# Qt's ordered containers

A `QMap` is an ordered map, so it is Lean's own `Std.TreeMap`, and a `QSet` a `Std.TreeSet`; the
operations and laws are theirs. What is added:

* `insertAll`, the loop that inserts every entry of one map into another one;
* `eraseFirst`, the loop that walks a map in key order and erases the first entry whose value meets
  a test, with what it does to the other entries;
* `QSet.nodup_toList`, and that a property of all elements of a finite set can be decided;
* `someValues`, the values of a map that may hold empty ones, with what an update does to them as a
  multiset.
-/

namespace Qt

/-- An ordered map. What Qt calls a key is `κ`. -/
abbrev QMap (κ α : Type) [Ord κ] := Std.TreeMap κ α compare

/-- A finite set, with the order only for its iteration. -/
abbrev QSet (κ : Type) [Ord κ] := Std.TreeSet κ compare

namespace QMap

variable {κ α : Type} [Ord κ] [Std.TransOrd κ] [Std.LawfulEqOrd κ]

/-! ## Lookups after an update

The three updates of a map, each with the lookup of any key after it. -/

/-- An entry is added, or replaces the one of its key. -/
theorem getElem?_insert [DecidableEq κ] (m : QMap κ α) (k k' : κ) (v : α) :
    (m.insert k v)[k']? = if k = k' then some v else m[k']? := by
  rw [Std.TreeMap.getElem?_insert]
  simp only [Std.compare_eq_iff_eq]

/-- The entry of the key is gone, and the others stay. -/
theorem getElem?_erase [DecidableEq κ] (m : QMap κ α) (k k' : κ) :
    (m.erase k)[k']? = if k = k' then none else m[k']? := by
  rw [Std.TreeMap.getElem?_erase]
  simp only [Std.compare_eq_iff_eq]

/-- The value of the key is updated, if there is one. -/
theorem getElem?_modify [DecidableEq κ] (m : QMap κ α) (k k' : κ) (f : α → α) :
    (m.modify k f)[k']? = if k = k' then m[k']?.map f else m[k']? := by
  rw [Std.TreeMap.getElem?_modify]
  simp only [Std.compare_eq_iff_eq]
  split
  · rename_i hk
    rw [hk]
  · rfl

/-! ## Inserting all entries of another map

The loop goes through the entries, and the last one of a key wins. -/

/-- Entries with different keys that are inserted one after the other go in front of those of the
map. -/
theorem getElem?_insertAll_list [DecidableEq κ] {entries : List (κ × α)}
    (hkeys : entries.Pairwise fun a b => a.1 ≠ b.1) (m : QMap κ α) (k : κ) :
    (entries.foldl (fun m entry => m.insert entry.1 entry.2) m)[k]? =
      ((entries.find? (fun entry => entry.1 = k)).map Prod.snd).or m[k]? := by
  induction entries generalizing m with
  | nil => rfl
  | cons entry entries ih =>
    obtain ⟨hentry, hkeys⟩ := List.pairwise_cons.mp hkeys
    rw [List.foldl_cons, ih hkeys, getElem?_insert]
    by_cases hk : entry.1 = k
    · -- the key does not come again
      have hnone : entries.find? (fun entry => entry.1 = k) = none := by
        rw [List.find?_eq_none]
        intro entry' hentry'
        simpa [← hk] using (hentry entry' hentry').symm
      simp [hk, hnone]
    · simp [hk]

/-- `m` with all entries of `entries`, one after the other. -/
def insertAll (m entries : QMap κ α) : QMap κ α :=
  entries.toList.foldl (fun m entry => m.insert entry.1 entry.2) m

/-- The same for the entries of another map, whose keys are different. -/
theorem getElem?_insertAll [DecidableEq κ] (m entries : QMap κ α) (k : κ) :
    (m.insertAll entries)[k]? = entries[k]?.or m[k]? := by
  have hkeys : entries.toList.Pairwise fun a b => a.1 ≠ b.1 :=
    entries.distinct_keys_toList.imp fun hne heq => hne (Std.compare_eq_iff_eq.mpr heq)
  rw [insertAll, getElem?_insertAll_list hkeys]
  congr 1
  cases hfind : entries.toList.find? (fun entry => entry.1 = k) with
  | none =>
    have hnone : entries[k]? = none := by
      rw [Option.eq_none_iff_forall_ne_some]
      intro v hv
      have hmem := Std.TreeMap.mem_toList_iff_getElem?_eq_some.mpr hv
      simpa using List.find?_eq_none.mp hfind _ hmem
    simp [hnone]
  | some entry =>
    have hmem := Std.TreeMap.mem_toList_iff_getElem?_eq_some.mp (List.mem_of_find?_eq_some hfind)
    have hk : entry.1 = k := by simpa using List.find?_some hfind
    simp [← hk, hmem]

/-! ## Erasing by value

The loop looks for the first entry whose value meets a test, and erases it. For a test that at
most one value meets the order of the keys does not matter. -/

/-- Erase the first entry, in key order, whose value meets `p`. -/
def eraseFirst (m : QMap κ α) (p : α → Bool) : QMap κ α :=
  match m.toList.find? (fun entry => p entry.2) with
  | some entry => m.erase entry.1
  | none => m

/-- One entry is erased at most, and it met the test. -/
theorem getElem?_eraseFirst (m : QMap κ α) (p : α → Bool) (k : κ) :
    (m.eraseFirst p)[k]? = m[k]? ∨
      (∃ v, m[k]? = some v ∧ p v = true) ∧ (m.eraseFirst p)[k]? = none := by
  unfold eraseFirst
  cases hfind : m.toList.find? (fun entry => p entry.2) with
  | none => exact .inl rfl
  | some entry =>
    obtain ⟨k', v⟩ := entry
    simp only [Std.TreeMap.getElem?_erase, Std.compare_eq_iff_eq]
    by_cases hk : k' = k
    · subst hk
      have hmem := Std.TreeMap.mem_toList_iff_getElem?_eq_some.mp (List.mem_of_find?_eq_some hfind)
      have hp : p v = true := by simpa using List.find?_some hfind
      exact .inr ⟨⟨v, hmem, hp⟩, by simp⟩
    · exact .inl (by simp [hk])

/-- A key whose value does not meet the test keeps it. -/
theorem getElem?_eraseFirst_of_not (m : QMap κ α) {p : α → Bool} {k : κ}
    (hk : ∀ v, m[k]? = some v → p v = false) : (m.eraseFirst p)[k]? = m[k]? := by
  rcases getElem?_eraseFirst m p k with h | ⟨⟨v, hv, hp⟩, -⟩
  · exact h
  · rw [hk v hv] at hp
    cases hp

/-- Nothing comes in by erasing. -/
theorem getElem?_of_eraseFirst {m : QMap κ α} {p : α → Bool} {k : κ} {v : α}
    (hk : (m.eraseFirst p)[k]? = some v) : m[k]? = some v := by
  rcases getElem?_eraseFirst m p k with h | ⟨-, h⟩
  · rwa [h] at hk
  · rw [h] at hk
    cases hk

/-- Without a value that meets the test the map stays as it is. -/
theorem eraseFirst_of_not {m : QMap κ α} {p : α → Bool}
    (hm : ∀ (k : κ) (v : α), m[k]? = some v → p v = false) : m.eraseFirst p = m := by
  have hnone : m.toList.find? (fun entry => p entry.2) = none := by
    rw [List.find?_eq_none]
    intro entry hentry
    simp [hm entry.1 entry.2 (Std.TreeMap.mem_toList_iff_getElem?_eq_some.mp hentry)]
  rw [eraseFirst, hnone]

/-- If only one key can hold a value that meets the test, none does afterwards. -/
theorem eraseFirst_spec {m : QMap κ α} {p : α → Bool}
    (huniq : ∀ (k k' : κ) (v v' : α),
      m[k]? = some v → m[k']? = some v' → p v = true → p v' = true → k = k')
    {k : κ} {v : α} (hk : (m.eraseFirst p)[k]? = some v) : p v = false := by
  have hv := getElem?_of_eraseFirst hk
  refine Bool.eq_false_iff.mpr fun hp => ?_
  have hmem : (k, v) ∈ m.toList := Std.TreeMap.mem_toList_iff_getElem?_eq_some.mpr hv
  unfold eraseFirst at hk
  cases hfind : m.toList.find? (fun entry => p entry.2) with
  | none =>
    have := List.find?_eq_none.mp hfind (k, v) hmem
    simp [hp] at this
  | some entry =>
    obtain ⟨k', v'⟩ := entry
    have hv' := Std.TreeMap.mem_toList_iff_getElem?_eq_some.mp (List.mem_of_find?_eq_some hfind)
    have hp' : p v' = true := by simpa using List.find?_some hfind
    rw [hfind] at hk
    simp [huniq k k' v v' hv hv' hp hp'] at hk

/-! ## Values that may be empty

A map whose values may be null, as a multiset of those that are not. -/

/-- The values that are there, in key order. -/
def someValues (m : QMap κ (Option α)) : List α := m.toList.filterMap Prod.snd

/-- The values that are not empty, by their keys. -/
theorem mem_someValues {m : QMap κ (Option α)} {v : α} :
    v ∈ m.someValues ↔ ∃ k : κ, m[k]? = some (some v) := by
  simp [someValues, Std.TreeMap.mem_toList_iff_getElem?_eq_some]

/-- The entries of a map have different keys, so none of them is listed twice. -/
theorem nodup_toList (m : QMap κ α) : m.toList.Nodup :=
  m.distinct_keys_toList.imp fun hne heq => hne (Std.compare_eq_iff_eq.mpr (congrArg Prod.fst heq))

/-- Two maps that differ at `k` only, where the second one has nothing: the values of the first are
those of the second and the one at `k`. -/
theorem someValues_perm {m m' : QMap κ (Option α)} {k : κ} (hnone : m'[k]? = none)
    (hother : ∀ k' : κ, k ≠ k' → m[k']? = m'[k']?) :
    m.someValues.Perm (m[k]?.join.toList ++ m'.someValues) := by
  -- no entry occurs twice in either list, so it is enough that they have the same entries
  cases hv : m[k]? with
  -- the entry is in neither of the two
  | none =>
    have hentries : m.toList.Perm m'.toList := by
      apply (List.perm_ext_iff_of_nodup m.nodup_toList m'.nodup_toList).mpr
      rintro ⟨k', v'⟩
      rw [Std.TreeMap.mem_toList_iff_getElem?_eq_some, Std.TreeMap.mem_toList_iff_getElem?_eq_some]
      by_cases hkk' : k = k'
      · rw [← hkk', hv, hnone]
      · rw [hother k' hkk']
    exact hentries.filterMap Prod.snd
  -- the entry is only in the first, and stands before the others
  | some v =>
    have hk : (k, v) ∉ m'.toList := fun hmem => by
      rw [Std.TreeMap.mem_toList_iff_getElem?_eq_some.mp hmem] at hnone
      cases hnone
    have hentries : m.toList.Perm ((k, v) :: m'.toList) := by
      apply (List.perm_ext_iff_of_nodup m.nodup_toList
        (List.nodup_cons.mpr ⟨hk, m'.nodup_toList⟩)).mpr
      rintro ⟨k', v'⟩
      rw [List.mem_cons, Std.TreeMap.mem_toList_iff_getElem?_eq_some,
        Std.TreeMap.mem_toList_iff_getElem?_eq_some, Prod.mk.injEq]
      by_cases hkk' : k = k'
      · subst hkk'
        simp [hv, hnone, eq_comm]
      · simp [hother k' hkk', Ne.symm hkk']
    have hvalues := hentries.filterMap Prod.snd
    cases v <;> exact hvalues

/-- Erasing takes the value at `k` out. -/
theorem someValues_erase (m : QMap κ (Option α)) (k : κ) :
    m.someValues.Perm (m[k]?.join.toList ++ someValues (m.erase k)) := by
  refine someValues_perm (by simp) fun k' hne => ?_
  simp [Std.TreeMap.getElem?_erase, hne]

/-- A value that is there once is there under one key. -/
theorem key_unique {m : QMap κ (Option α)} (hnodup : m.someValues.Nodup) {k k' : κ} {v : α}
    (hk : m[k]? = some (some v)) (hk' : m[k']? = some (some v)) : k = k' := by
  have herase := someValues_erase m k
  rw [hk] at herase
  by_contra hne
  have hmem : v ∈ someValues (m.erase k) :=
    mem_someValues.mpr ⟨k', by simpa [Std.TreeMap.getElem?_erase, hne] using hk'⟩
  exact (List.nodup_cons.mp (herase.nodup_iff.mp hnodup)).1 hmem

/-- Inserting puts the new value in the place of the old one. -/
theorem someValues_insert (m : QMap κ (Option α)) (k : κ) (v : Option α) :
    (m.someValues ++ v.toList).Perm (m[k]?.join.toList ++ someValues (m.insert k v)) := by
  have hinsert : (someValues (m.insert k v)).Perm (v.toList ++ someValues (m.erase k)) := by
    have hother : ∀ k' : κ, k ≠ k' → (m.insert k v)[k']? = (m.erase k)[k']? := fun k' hne => by
      simp [Std.TreeMap.getElem?_insert, Std.TreeMap.getElem?_erase, hne]
    simpa using someValues_perm (by simp) hother
  have herase := (someValues_erase m k).append_right v.toList
  rw [List.append_assoc] at herase
  exact herase.trans ((List.perm_append_comm.trans hinsert.symm).append_left _)

end QMap

namespace QSet

variable {κ : Type} [Ord κ] [Std.TransOrd κ] [Std.LawfulEqOrd κ]

/-- No element is listed twice. -/
theorem nodup_toList (s : QSet κ) : s.toList.Nodup :=
  s.distinct_toList.imp fun hne heq => hne (Std.compare_eq_iff_eq.mpr heq)

instance (s : QSet κ) (p : κ → Prop) [DecidablePred p] : Decidable (∀ k ∈ s, p k) :=
  decidable_of_iff (∀ k ∈ s.toList, p k) (by simp only [Std.TreeSet.mem_toList])

end QSet

end Qt
