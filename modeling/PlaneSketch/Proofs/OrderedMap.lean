import Mathlib.Algebra.Ring.Nat
import Mathlib.Data.List.Nodup
import PlaneSketch.OrderedMap

namespace PlaneSketch.OrderedMap

variable {κ ν : Type} [DecidableEq κ]

theorem find?_insertEntry (key other : κ) (value : ν) (entries : List (κ × ν)) :
    ((insertEntry key value entries).find? fun entry => entry.1 = other).map (·.2) =
      if key = other then some value
      else (entries.find? fun entry => entry.1 = other).map (·.2) := by
  induction entries with
  | nil => by_cases h : key = other <;> simp [insertEntry, h]
  | cons entry rest ih =>
      by_cases hkey : entry.1 = key
      · by_cases h : key = other <;> simp [insertEntry, hkey, h]
      · rw [insertEntry, if_neg hkey, List.find?_cons, List.find?_cons]
        by_cases h : entry.1 = other
        · have hne : key ≠ other := fun hk => hkey (h.trans hk.symm)
          simp [h, hne]
        · simpa [h] using ih

theorem get?_insert (m : OrderedMap κ ν) (key other : κ) (value : ν) :
    (m.insert key value).get? other = if key = other then some value else m.get? other :=
  find?_insertEntry key other value m.entries

-- A value found after many insertions is the last one given for its key.
theorem get?_insertAll (m : OrderedMap κ ν) (entries : List (κ × ν)) (key : κ) :
    (m.insertAll entries).get? key =
      ((entries.reverse.find? fun entry => entry.1 = key).map (·.2)).or (m.get? key) := by
  induction entries generalizing m with
  | nil => simp [insertAll]
  | cons entry rest ih =>
      change ((m.insert entry.1 entry.2).insertAll rest).get? key = _
      rw [ih, get?_insert, List.reverse_cons, List.find?_append]
      cases rest.reverse.find? fun entry => entry.1 = key with
      | some found => simp
      | none => by_cases h : entry.1 = key <;> simp [h]

theorem get?_ofList (entries : List (κ × ν)) (key : κ) :
    (ofList entries).get? key = (entries.reverse.find? fun entry => entry.1 = key).map (·.2) := by
  rw [ofList, get?_insertAll]
  simp [empty, get?]

omit [DecidableEq κ] in
-- Where no key comes twice, looking up finds just the entries.
theorem lookup_eq_some_iff_mem [BEq κ] [LawfulBEq κ] {entries : List (κ × ν)}
    (hkeys : (entries.map (·.1)).Nodup) {key : κ} {value : ν} :
    entries.lookup key = some value ↔ (key, value) ∈ entries := by
  rw [List.lookup_eq_some_iff]
  constructor
  · rintro ⟨before, after, rfl, -⟩
    simp
  · intro hmem
    obtain ⟨before, after, rfl⟩ := List.append_of_mem hmem
    refine ⟨before, after, rfl, fun entry hentry => ?_⟩
    rw [List.map_append, List.map_cons, List.nodup_middle, List.nodup_cons] at hkeys
    have hnew : key ∉ before.map (·.1) := fun h => hkeys.1 (List.mem_append_left _ h)
    exact bne_iff_ne.mpr fun heq => hnew (heq ▸ List.mem_map_of_mem hentry)

theorem find?_eq_lookup (entries : List (κ × ν)) (key : κ) :
    (entries.find? fun entry => entry.1 = key).map (·.2) = entries.lookup key := by
  induction entries with
  | nil => rfl
  | cons entry rest ih =>
      rw [List.lookup_cons, List.find?_cons, ← ih]
      by_cases h : entry.1 = key
      · simp [h]
      · simp [h, beq_eq_false_iff_ne.mpr (Ne.symm h)]

theorem get?_eq_some_iff_mem {m : OrderedMap κ ν} (hkeys : m.keys.Nodup) {key : κ} {value : ν} :
    m.get? key = some value ↔ (key, value) ∈ m.entries := by
  rw [get?, find?_eq_lookup, lookup_eq_some_iff_mem hkeys]

theorem get?_ofList_eq_some_iff {entries : List (κ × ν)} (hkeys : (entries.map (·.1)).Nodup)
    {key : κ} {value : ν} : (ofList entries).get? key = some value ↔ (key, value) ∈ entries := by
  have hreverse : (entries.reverse.map (·.1)).Nodup := by
    rwa [List.map_reverse, List.nodup_reverse]
  rw [get?_ofList, find?_eq_lookup, lookup_eq_some_iff_mem hreverse, List.mem_reverse]

-- A key that is new comes last.
theorem entries_insert {m : OrderedMap κ ν} {key : κ} (h : key ∉ m.keys) (value : ν) :
    (m.insert key value).entries = m.entries ++ [(key, value)] := by
  have hentries : ∀ entries : List (κ × ν), key ∉ entries.map (·.1) →
      insertEntry key value entries = entries ++ [(key, value)] := by
    intro entries
    induction entries with
    | nil => exact fun _ => rfl
    | cons entry rest ih =>
        intro hkey
        rw [List.map_cons, List.mem_cons, not_or] at hkey
        rw [insertEntry, if_neg (Ne.symm hkey.1), ih hkey.2, List.cons_append]
  exact hentries m.entries h

theorem keys_insert {m : OrderedMap κ ν} {key : κ} (h : key ∉ m.keys) (value : ν) :
    (m.insert key value).keys = m.keys ++ [key] := by
  rw [keys, entries_insert h, List.map_append]
  rfl

-- A key that is there keeps its place.
theorem entries_insert_of_mem {m : OrderedMap κ ν} {key : κ} (hkeys : m.keys.Nodup)
    (h : key ∈ m.keys) (value : ν) : (m.insert key value).entries =
      m.entries.map fun entry => if entry.1 = key then (key, value) else entry := by
  have hentries : ∀ entries : List (κ × ν), (entries.map (·.1)).Nodup → key ∈ entries.map (·.1) →
      insertEntry key value entries =
        entries.map fun entry => if entry.1 = key then (key, value) else entry := by
    intro entries
    induction entries with
    | nil => exact fun _ h => by cases h
    | cons entry rest ih =>
        intro hkeys hmem
        rw [List.map_cons, List.nodup_cons] at hkeys
        by_cases hkey : entry.1 = key
        · have hrest : rest.map (fun entry => if entry.1 = key then (key, value) else entry) =
              rest := by
            refine (List.map_congr_left fun other hother => if_neg fun heq => ?_).trans
              (List.map_id rest)
            exact hkeys.1 (hkey.trans heq.symm ▸ List.mem_map_of_mem hother)
          rw [insertEntry, if_pos hkey, List.map_cons, if_pos hkey, hrest]
        · have hlater : key ∈ rest.map (·.1) := by
            rw [List.map_cons, List.mem_cons] at hmem
            exact hmem.resolve_left (Ne.symm hkey)
          rw [insertEntry, if_neg hkey, List.map_cons, if_neg hkey, ih hkeys.2 hlater]
  exact hentries m.entries hkeys h

theorem keys_insert_of_mem {m : OrderedMap κ ν} {key : κ} (hkeys : m.keys.Nodup)
    (h : key ∈ m.keys) (value : ν) : (m.insert key value).keys = m.keys := by
  rw [keys, entries_insert_of_mem hkeys h, List.map_map]
  refine List.map_congr_left fun entry _ => ?_
  by_cases hkey : entry.1 = key <;> simp [hkey]

theorem nodup_keys_insert {m : OrderedMap κ ν} (hkeys : m.keys.Nodup) (key : κ) (value : ν) :
    (m.insert key value).keys.Nodup := by
  by_cases h : key ∈ m.keys
  · rwa [keys_insert_of_mem hkeys h]
  · rw [keys_insert h]
    exact List.Nodup.append hkeys (List.nodup_singleton _) (List.disjoint_singleton.mpr h)

theorem nodup_keys_insertAll {m : OrderedMap κ ν} (hkeys : m.keys.Nodup)
    (entries : List (κ × ν)) : (m.insertAll entries).keys.Nodup := by
  induction entries generalizing m with
  | nil => exact hkeys
  | cons entry rest ih => exact ih (nodup_keys_insert hkeys entry.1 entry.2)

theorem nodup_keys_ofList (entries : List (κ × ν)) : (ofList entries).keys.Nodup :=
  nodup_keys_insertAll (show empty.keys.Nodup from List.nodup_nil) entries

-- What holds of all entries and of a new one holds of all afterwards.
theorem forall_mem_insert {m : OrderedMap κ ν} {key : κ} {value : ν} {P : κ × ν → Prop}
    (hnew : P (key, value)) (hold : ∀ entry ∈ m.entries, P entry) :
    ∀ entry ∈ (m.insert key value).entries, P entry := by
  have hentries : ∀ entries : List (κ × ν), (∀ entry ∈ entries, P entry) →
      ∀ entry ∈ insertEntry key value entries, P entry := by
    intro entries
    induction entries with
    | nil => exact fun _ => List.forall_mem_singleton.mpr hnew
    | cons entry rest ih =>
        intro hold
        rw [List.forall_mem_cons] at hold
        rw [insertEntry]
        split
        · exact List.forall_mem_cons.mpr ⟨hnew, hold.2⟩
        · exact List.forall_mem_cons.mpr ⟨hold.1, ih hold.2⟩
  exact hentries m.entries hold

theorem forall_mem_ofList {entries : List (κ × ν)} {P : κ × ν → Prop}
    (h : ∀ entry ∈ entries, P entry) : ∀ entry ∈ (ofList entries).entries, P entry := by
  have hinsertAll : ∀ (entries : List (κ × ν)) (m : OrderedMap κ ν), (∀ entry ∈ entries, P entry) →
      (∀ entry ∈ m.entries, P entry) → ∀ entry ∈ (m.insertAll entries).entries, P entry := by
    intro entries
    induction entries with
    | nil => exact fun _ _ hold => hold
    | cons entry rest ih =>
        intro m hentries hold
        rw [List.forall_mem_cons] at hentries
        exact ih _ hentries.2 (forall_mem_insert hentries.1 hold)
  exact hinsertAll entries empty h (fun _ hentry => by cases hentry)

-- The old value of a key is taken out of a sum over all values, and the new one is put in.
theorem sum_values_insert (f : ν → Nat) (m : OrderedMap κ ν) (key : κ) (value : ν) :
    ((m.insert key value).values.map f).sum + ((m.get? key).map f).getD 0 =
      (m.values.map f).sum + f value := by
  have hentries : ∀ entries : List (κ × ν),
      (((insertEntry key value entries).map (·.2)).map f).sum +
          (((entries.find? fun entry => entry.1 = key).map (·.2)).map f).getD 0 =
        ((entries.map (·.2)).map f).sum + f value := by
    intro entries
    induction entries with
    | nil => simp [insertEntry]
    | cons entry rest ih =>
        by_cases hkey : entry.1 = key
        · simp [insertEntry, hkey]
          omega
        · simp only [insertEntry, hkey, List.find?_cons, decide_false, if_false, List.map_cons,
            List.sum_cons] at ih ⊢
          omega
  exact hentries m.entries

theorem keys_erase (m : OrderedMap κ ν) (key : κ) :
    (m.erase key).keys = m.keys.filter fun other => other ≠ key := by
  rw [keys, keys, erase, List.filter_map]
  rfl

theorem get?_erase (m : OrderedMap κ ν) (key other : κ) :
    (m.erase key).get? other = if key = other then none else m.get? other := by
  rw [get?, get?, erase, List.find?_filter]
  by_cases h : key = other
  · subst h
    simp
  · rw [if_neg h]
    congr 2
    funext entry
    by_cases heq : entry.1 = other <;> simp [heq, Ne.symm h]

theorem mem_keys_iff {m : OrderedMap κ ν} {key : κ} :
    key ∈ m.keys ↔ ∃ value, m.get? key = some value := by
  rw [← Option.isSome_iff_exists, get?, Option.isSome_map, List.find?_isSome, keys, List.mem_map]
  simp

theorem mem_values_of_get? {m : OrderedMap κ ν} {key : κ} {value : ν}
    (h : m.get? key = some value) : value ∈ m.values := by
  obtain ⟨entry, hfind, rfl⟩ := Option.map_eq_some_iff.mp h
  exact List.mem_map_of_mem (List.mem_of_find?_eq_some hfind)

end PlaneSketch.OrderedMap
