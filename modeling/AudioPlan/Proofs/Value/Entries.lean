import AudioPlan.Value.Basic

/-!
# Entries of mappings

`put` keeps keys apart, so a mapping that is built from entries has every key once
(`nodup_keys_ofEntries`) and only entries that were given (`mem_of_mem_ofEntries`), and entries that
have every key once are kept as they are (`ofEntries_eq_self`).
-/

namespace AudioPlan

section Put

variable {α β : Type} [BEq α] [LawfulBEq α] {key : α} {value : β} {map : List (α × β)}

/-- Entries with other keys are passed over. -/
theorem put_append_of_not_mem {rest : List (α × β)} (hkey : key ∉ map.map Prod.fst) :
    put key value (map ++ rest) = map ++ put key value rest := by
  induction map with
  | nil => rfl
  | cons entry map ih =>
    rw [List.map_cons, List.mem_cons, not_or] at hkey
    obtain ⟨k, v⟩ := entry
    have hne : ¬ (k == key) = true := by
      rw [beq_iff_eq]
      exact Ne.symm hkey.1
    rw [List.cons_append, put, if_neg hne, ih hkey.2, List.cons_append]

theorem put_of_not_mem (hkey : key ∉ map.map Prod.fst) :
    put key value map = map ++ [(key, value)] := by
  have hput : put key value (map ++ []) = map ++ put key value [] := put_append_of_not_mem hkey
  rwa [List.append_nil] at hput

/-- A key that is there keeps its place. -/
theorem keys_put_of_mem (hkey : key ∈ map.map Prod.fst) :
    (put key value map).map Prod.fst = map.map Prod.fst := by
  induction map with
  | nil => simp at hkey
  | cons entry map ih =>
    obtain ⟨k, v⟩ := entry
    by_cases heq : (k == key) = true
    · rw [put, if_pos heq, List.map_cons, List.map_cons]
    · have hne : key ≠ k := fun h => heq (beq_iff_eq.2 h.symm)
      rw [List.map_cons, List.mem_cons] at hkey
      rw [put, if_neg heq, List.map_cons, List.map_cons, ih (hkey.resolve_left hne)]

theorem nodup_keys_put (hmap : (map.map Prod.fst).Nodup) :
    ((put key value map).map Prod.fst).Nodup := by
  by_cases hkey : key ∈ map.map Prod.fst
  · rw [keys_put_of_mem hkey]
    exact hmap
  · rw [put_of_not_mem hkey, List.map_append]
    rw [List.nodup_append]
    refine ⟨hmap, by simp, ?_⟩
    intro a ha b hb heq
    rw [List.map_cons, List.map_nil, List.mem_singleton] at hb
    rw [heq, hb] at ha
    exact hkey ha

theorem mem_put {entry : α × β} (hentry : entry ∈ put key value map) :
    entry = (key, value) ∨ entry ∈ map := by
  induction map with
  | nil => exact .inl (List.mem_singleton.1 hentry)
  | cons first map ih =>
    obtain ⟨k, v⟩ := first
    rw [put] at hentry
    split at hentry
    · rename_i hk
      rw [beq_iff_eq] at hk
      rw [hk] at hentry
      exact (List.mem_cons.1 hentry).imp_right (List.mem_cons_of_mem _)
    · rcases List.mem_cons.1 hentry with rfl | hentry
      · exact .inr List.mem_cons_self
      · exact (ih hentry).imp_right (List.mem_cons_of_mem _)

end Put

/-! ## Keys -/

theorem lookup_cons_ite {α : Type} (key other : String) (v : α) (entries : List (String × α)) :
    ((key, v) :: entries).lookup other = if other = key then some v else entries.lookup other := by
  by_cases h : other = key
  · simp [h]
  · rw [List.lookup_cons, beq_false_of_ne h, if_neg h]

section Keys

variable {α : Type} {entries : List (String × α)} {key : String} {v : α}

theorem mem_of_lookup_eq_some (h : entries.lookup key = some v) : (key, v) ∈ entries := by
  obtain ⟨before, after, rfl, -⟩ := List.lookup_eq_some_iff.1 h
  simp

theorem lookup_eq_none_iff_forall_ne :
    entries.lookup key = none ↔ ∀ entry ∈ entries, entry.1 ≠ key := by
  rw [List.lookup_eq_none_iff]
  refine forall₂_congr fun entry _ => ?_
  rw [bne_iff_ne]
  exact ne_comm

theorem lookup_eq_none_of_not_mem (h : key ∉ entries.map Prod.fst) : entries.lookup key = none := by
  rw [lookup_eq_none_iff_forall_ne]
  rintro entry hentry rfl
  exact h (List.mem_map_of_mem hentry)

theorem lookup_eq_some_iff_mem (hkeys : (entries.map Prod.fst).Nodup) :
    entries.lookup key = some v ↔ (key, v) ∈ entries := by
  refine ⟨mem_of_lookup_eq_some, fun hmem => ?_⟩
  obtain ⟨before, after, rfl⟩ := List.append_of_mem hmem
  rw [List.lookup_eq_some_iff]
  refine ⟨before, after, rfl, fun entry hentry => ?_⟩
  rw [List.map_append, List.nodup_append] at hkeys
  rw [bne_iff_ne]
  exact (hkeys.2.2 entry.1 (List.mem_map_of_mem hentry) key (by simp)).symm

/-- The order of different keys does not matter to a look-up. -/
theorem lookup_eq_of_perm (hkeys : (entries.map Prod.fst).Nodup) {others : List (String × α)}
    (hperm : entries.Perm others) (key : String) : entries.lookup key = others.lookup key := by
  have hothers : (others.map Prod.fst).Nodup := (hperm.map Prod.fst).nodup_iff.1 hkeys
  refine Option.ext fun v => ?_
  rw [lookup_eq_some_iff_mem hkeys, lookup_eq_some_iff_mem hothers, hperm.mem_iff]

/-- Entries with different keys are the same if they are in the same order by their keys. -/
theorem eq_of_perm_of_keys_eq {others : List (String × α)} (hnodup : (entries.map Prod.fst).Nodup)
    (hperm : entries.Perm others) (hkeys : entries.map Prod.fst = others.map Prod.fst) :
    entries = others := by
  induction entries generalizing others with
  | nil => exact hperm.nil_eq
  | cons first rest ih =>
    cases others with
    | nil => exact absurd hperm.length_eq (Nat.succ_ne_zero _)
    | cons other others =>
      rw [List.map_cons, List.map_cons, List.cons.injEq] at hkeys
      have hlookup := (lookup_eq_some_iff_mem hnodup).2 (hperm.mem_iff.2 List.mem_cons_self)
      have hfirst : first = other := by
        rw [List.lookup_cons, ← hkeys.1, beq_self_eq_true] at hlookup
        exact Prod.ext hkeys.1 (Option.some.inj hlookup)
      subst hfirst
      rw [List.map_cons, List.nodup_cons] at hnodup
      rw [ih hnodup.2 hperm.cons_inv hkeys.2]

theorem lookup_insert_self {before after : List (String × α)} (hkey : key ∉ before.map Prod.fst)
    (v : α) : (before ++ (key, v) :: after).lookup key = some v := by
  rw [List.lookup_append, lookup_eq_none_of_not_mem hkey, List.lookup_cons_self, Option.none_or]

theorem lookup_insert_ne {before after : List (String × α)} {other : String} (hne : key ≠ other)
    (v : α) : (before ++ (other, v) :: after).lookup key = (before ++ after).lookup key := by
  rw [List.lookup_append, List.lookup_append, List.lookup_cons, beq_false_of_ne hne]

/-- Entries that are left out under other keys do not matter to a look-up. -/
theorem lookup_filter_key {p : String → Bool} (hkey : p key = true) :
    (entries.filter fun entry => p entry.1).lookup key = entries.lookup key := by
  induction entries with
  | nil => rfl
  | cons entry rest ih =>
    obtain ⟨k, w⟩ := entry
    rw [List.filter_cons]
    split
    · rw [List.lookup_cons, List.lookup_cons, ih]
    · rename_i hk
      have hne : (key == k) = false := by
        rw [beq_eq_false_iff_ne]
        rintro rfl
        exact hk hkey
      rw [List.lookup_cons, hne]
      exact ih

/-- Entries that all have one key are a single one. -/
theorem eq_singleton_of_lookup (hnodup : (entries.map Prod.fst).Nodup)
    (hkeys : ∀ entry ∈ entries, entry.1 = key) (h : entries.lookup key = some v) :
    entries = [(key, v)] := by
  cases entries with
  | nil => cases h
  | cons first rest =>
    obtain ⟨hfirst, hrest⟩ := List.forall_mem_cons.1 hkeys
    have hnone : rest = [] := by
      rw [List.map_cons, List.nodup_cons, hfirst] at hnodup
      refine List.eq_nil_iff_forall_not_mem.2 fun entry hentry => hnodup.1 ?_
      rw [← hrest entry hentry]
      exact List.mem_map_of_mem hentry
    obtain ⟨k, w⟩ := first
    subst hnone hfirst
    simpa using h

end Keys

theorem ofEntries_eq_foldl {α β : Type} [BEq α] (entries : List (α × β)) :
    ofEntries entries = entries.foldl (fun map entry => put entry.1 entry.2 map) [] :=
  rfl

section OfEntries

variable {α β : Type} [BEq α] [LawfulBEq α]

/-- A mapping that is built from entries has every key once. -/
theorem nodup_keys_ofEntries (entries : List (α × β)) :
    ((ofEntries entries).map Prod.fst).Nodup := by
  have hfold : ∀ map : List (α × β), (map.map Prod.fst).Nodup →
      ((entries.foldl (fun map entry => put entry.1 entry.2 map) map).map Prod.fst).Nodup := by
    induction entries with
    | nil => exact fun map hmap => hmap
    | cons entry entries ih => exact fun map hmap => ih _ (nodup_keys_put hmap)
  rw [ofEntries_eq_foldl]
  exact hfold [] List.nodup_nil

/-- A mapping that is built from entries has no others. -/
theorem mem_of_mem_ofEntries {entries : List (α × β)} {entry : α × β}
    (hentry : entry ∈ ofEntries entries) : entry ∈ entries := by
  have hfold : ∀ map : List (α × β),
      entry ∈ entries.foldl (fun map entry => put entry.1 entry.2 map) map →
        entry ∈ map ∨ entry ∈ entries := by
    clear hentry
    induction entries with
    | nil => exact fun map h => .inl h
    | cons first entries ih =>
      intro map h
      rcases ih _ h with h | h
      · rcases mem_put h with rfl | h
        · exact .inr List.mem_cons_self
        · exact .inl h
      · exact .inr (List.mem_cons_of_mem first h)
  exact (hfold [] hentry).resolve_left List.not_mem_nil

/-- Entries with every key once are the mapping that they describe. -/
theorem ofEntries_eq_self {entries : List (α × β)} (hentries : (entries.map Prod.fst).Nodup) :
    ofEntries entries = entries := by
  have hfold : ∀ map : List (α × β), ((map ++ entries).map Prod.fst).Nodup →
      entries.foldl (fun map entry => put entry.1 entry.2 map) map = map ++ entries := by
    clear hentries
    induction entries with
    | nil => simp
    | cons entry entries ih =>
      intro map hmap
      have hkey : entry.1 ∉ map.map Prod.fst := by
        rw [List.map_append, List.nodup_append] at hmap
        intro hmem
        exact hmap.2.2 entry.1 hmem entry.1 (by simp) rfl
      rw [List.foldl_cons, put_of_not_mem hkey, ih _ (by simpa using hmap), List.append_assoc,
        List.singleton_append]
  rw [ofEntries_eq_foldl]
  exact hfold [] hentries

end OfEntries

end AudioPlan
