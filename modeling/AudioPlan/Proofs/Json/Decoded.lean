import AudioPlan.Json.Reader
import AudioPlan.Proofs.Log.Success
import AudioPlan.Proofs.Value.Entries

/-!
# What JSON text can denote

`Decoded` are the values that JSON has words for: null, truth values, numbers, texts, lists, and
mappings with every key once.  The reader gives no others (`decoded_of_read`).
-/

namespace AudioPlan.Json

/-- Values that a JSON text can denote. -/
inductive Decoded : Value → Prop
  | null : Decoded .null
  | bool (b : Bool) : Decoded (.bool b)
  | int (n : Int) : Decoded (.int n)
  | float (x : Binary64) : Decoded (.float x)
  | text (s : String) : Decoded (.text s)
  | list {items : List Value} (hitems : ∀ v ∈ items, Decoded v) : Decoded (.list items)
  | map {entries : List (String × Value)} (hkeys : (entries.map Prod.fst).Nodup)
      (hentries : ∀ entry ∈ entries, Decoded entry.2) : Decoded (.map entries)

namespace Decoded

theorem of_mem_list {items : List Value} (h : Decoded (.list items)) : ∀ v ∈ items, Decoded v := by
  cases h with
  | list hitems => exact hitems

theorem nodup_keys {entries : List (String × Value)} (h : Decoded (.map entries)) :
    (entries.map Prod.fst).Nodup := by
  cases h with
  | map hkeys => exact hkeys

theorem of_mem_map {entries : List (String × Value)} (h : Decoded (.map entries)) :
    ∀ entry ∈ entries, Decoded entry.2 := by
  cases h with
  | map _ hentries => exact hentries

attribute [simp] Decoded.null Decoded.bool Decoded.int Decoded.float Decoded.text

@[simp] theorem list_iff {items : List Value} :
    Decoded (.list items) ↔ ∀ v ∈ items, Decoded v :=
  ⟨of_mem_list, .list⟩

@[simp] theorem map_iff {entries : List (String × Value)} :
    Decoded (.map entries) ↔
      (entries.map Prod.fst).Nodup ∧ ∀ entry ∈ entries, Decoded entry.2 :=
  ⟨fun h => ⟨h.nodup_keys, h.of_mem_map⟩, fun h => .map h.1 h.2⟩

theorem of_lookup {entries : List (String × Value)} {key : String} {v : Value}
    (h : Decoded (.map entries)) (hv : entries.lookup key = some v) : Decoded v :=
  h.of_mem_map (key, v) (mem_of_lookup_eq_some hv)

end Decoded

/-! ## The reader -/

theorem decoded_of_readTail {negative : Bool} {whole cs rest : List Char} {v : Value}
    (h : readTail negative whole cs = (v, rest)) : Decoded v := by
  unfold readTail at h
  split at h <;> obtain ⟨rfl, -⟩ := Prod.mk.inj h
  · exact .float _
  · exact .float _
  · exact .int _

theorem decoded_of_readUnsigned {negative : Bool} {cs rest : List Char} {v : Value}
    (h : readUnsigned negative cs = some (v, rest)) : Decoded v := by
  unfold readUnsigned at h
  split at h
  · exact decoded_of_readTail (Option.some.inj h)
  · dsimp only [spanDigits] at h
    split at h
    · cases h
    · exact decoded_of_readTail (Option.some.inj h)

theorem decoded_of_readWord {cs rest : List Char} {v : Value}
    (h : readWord cs = some (v, rest)) : Decoded v := by
  obtain ⟨entry, hentry, hrest⟩ := List.exists_of_findSome?_eq_some h
  obtain ⟨_, -, heq⟩ := Option.map_eq_some_iff.1 hrest
  obtain ⟨rfl, -⟩ := Prod.mk.inj heq
  simp only [words, List.mem_cons, List.not_mem_nil, or_false] at hentry
  rcases hentry with rfl | rfl | rfl | rfl | rfl | rfl
  · exact .null
  · exact .bool true
  · exact .bool false
  · exact .float _
  · exact .float _
  · exact .float _

theorem decoded_of_readScalar {cs rest : List Char} {v : Value}
    (h : readScalar cs = .ok (v, rest)) : Decoded v := by
  unfold readScalar at h
  split at h
  · rename_i hword
    cases h
    exact decoded_of_readWord hword
  · split at h
    · rename_i hnumber
      cases h
      unfold readNumber at hnumber
      split at hnumber
      · exact decoded_of_readUnsigned hnumber
      · exact decoded_of_readUnsigned hnumber
    · cases h

/-- What the nested readers give under one bound. -/
structure ReadsDecoded (bound : Nat) : Prop where
  value : ∀ {cs rest : List Char} {v : Value}, readValue bound cs = .ok (v, rest) → Decoded v
  items : ∀ {cs rest : List Char} {vs : List Value},
    readItems bound cs = .ok (vs, rest) → ∀ v ∈ vs, Decoded v
  entries : ∀ {cs rest : List Char} {entries : List (String × Value)},
    readEntries bound cs = .ok (entries, rest) → ∀ entry ∈ entries, Decoded entry.2

section Step

variable {bound : Nat} (hbound : ReadsDecoded bound) {cs rest : List Char}

include hbound

theorem ReadsDecoded.value_succ {v : Value} (h : readValue (bound + 1) cs = .ok (v, rest)) :
    Decoded v := by
  rw [readValue.eq_def] at h
  dsimp only at h
  split at h
  · obtain ⟨⟨s, rest'⟩, -, h⟩ := bind_eq_ok.1 h
    cases h
    exact .text s
  · split at h
    · cases h
      exact .list (by simp)
    · obtain ⟨⟨items, rest'⟩, hitems, h⟩ := bind_eq_ok.1 h
      cases h
      exact .list (hbound.items hitems)
  · split at h
    · cases h
      exact .map (by simp) (by simp)
    · obtain ⟨⟨entries, rest'⟩, hentries, h⟩ := bind_eq_ok.1 h
      cases h
      exact .map (nodup_keys_ofEntries entries) fun entry hentry =>
        hbound.entries hentries entry (mem_of_mem_ofEntries hentry)
  · exact decoded_of_readScalar h

theorem ReadsDecoded.items_succ {vs : List Value} (h : readItems (bound + 1) cs = .ok (vs, rest)) :
    ∀ v ∈ vs, Decoded v := by
  rw [readItems.eq_def] at h
  obtain ⟨⟨v, rest'⟩, hv, h⟩ := bind_eq_ok.1 h
  dsimp only at h
  split at h
  · cases h
    simpa using hbound.value hv
  · obtain ⟨⟨vs', rest''⟩, hvs, h⟩ := bind_eq_ok.1 h
    cases h
    exact List.forall_mem_cons.2 ⟨hbound.value hv, hbound.items hvs⟩
  · cases h

theorem ReadsDecoded.entries_succ {entries : List (String × Value)}
    (h : readEntries (bound + 1) cs = .ok (entries, rest)) :
    ∀ entry ∈ entries, Decoded entry.2 := by
  rw [readEntries.eq_def] at h
  dsimp only at h
  split at h
  · obtain ⟨⟨key, rest'⟩, -, h⟩ := bind_eq_ok.1 h
    dsimp only at h
    split at h
    · obtain ⟨⟨v, rest''⟩, hv, h⟩ := bind_eq_ok.1 h
      dsimp only at h
      split at h
      · cases h
        simpa using hbound.value hv
      · obtain ⟨⟨entries', rest'''⟩, hentries, h⟩ := bind_eq_ok.1 h
        cases h
        exact List.forall_mem_cons.2 ⟨hbound.value hv, hbound.entries hentries⟩
      · cases h
    · cases h
  · cases h

end Step

theorem readsDecoded (bound : Nat) : ReadsDecoded bound := by
  induction bound with
  | zero =>
    refine ⟨?_, ?_, ?_⟩
    · intro cs rest v h
      cases h
    · intro cs rest vs h
      cases h
    · intro cs rest entries h
      cases h
  | succ bound ih => exact ⟨ih.value_succ, ih.items_succ, ih.entries_succ⟩

/-- The reader gives no other values than those that JSON has words for. -/
theorem decoded_of_read {s : String} {v : Value} (h : read s = .ok v) : Decoded v := by
  have hall : readAll s.toList = .ok v := by
    unfold read at h
    cases hread : readAll s.toList with
    | ok w =>
      rw [hread] at h
      cases h
      rfl
    | error fault =>
      rw [hread] at h
      cases h
  unfold readAll at hall
  split at hall
  · cases hall
  · obtain ⟨⟨w, rest⟩, hw, hall⟩ := bind_eq_ok.1 hall
    dsimp only at hall
    split at hall
    · cases hall
      exact (readsDecoded _).value hw
    · cases hall

end AudioPlan.Json
