import AudioPlan.Proofs.Json.Scalars
import AudioPlan.Proofs.Value.Entries

/-!
# JSON and back

Reading undoes writing (`read_text`), for every layout that puts nothing but white space around a
comma or a colon, and every value that JSON can hold exactly.  Both are predicates of their own,
`Layout.Standard` and `Exact`.  The proof is an induction on the value.  For each value it shows
`ReadsBack`: whatever follows, as long as it does not go on with a number, the reader takes exactly
what was written.  The reader counts a bound down at every step into a list or a mapping; the text
that is still to be read is always shorter than it.
-/

namespace AudioPlan.Json

/-! ## Values and layouts -/

/-- Values that JSON holds exactly: mappings with every key once, and no floating-point numbers. -/
inductive Exact : Value → Prop
  | null : Exact .null
  | bool (b : Bool) : Exact (.bool b)
  | int (n : Int) : Exact (.int n)
  | text (s : String) : Exact (.text s)
  | list {items : List Value} (hitems : ∀ v ∈ items, Exact v) : Exact (.list items)
  | map {entries : List (String × Value)} (hkeys : (entries.map Prod.fst).Nodup)
      (hentries : ∀ entry ∈ entries, Exact entry.2) : Exact (.map entries)

/-- Entries under some of the given keys, in the order of the keys, with exact values. -/
structure Fields (keys : List String) (entries : List (String × Value)) : Prop where
  keys_sublist : (entries.map Prod.fst).Sublist keys
  exact_values : ∀ entry ∈ entries, Exact entry.2

namespace Fields

variable {keys others : List String} {entries more : List (String × Value)} {key : String}

theorem none : Fields [key] [] :=
  ⟨List.nil_sublist _, by simp⟩

theorem one {v : Value} (hv : Exact v) : Fields [key] [(key, v)] :=
  ⟨List.Sublist.refl _, by simpa using hv⟩

theorem append (hentries : Fields keys entries) (hmore : Fields others more) :
    Fields (keys ++ others) (entries ++ more) := by
  refine ⟨?_, ?_⟩
  · rw [List.map_append]
    exact hentries.keys_sublist.append hmore.keys_sublist
  · intro entry hentry
    rcases List.mem_append.1 hentry with hentry | hentry
    · exact hentries.exact_values entry hentry
    · exact hmore.exact_values entry hentry

/-- Entries under distinct keys make a mapping that JSON holds exactly. -/
theorem exact_map (hentries : Fields keys entries) (hkeys : keys.Nodup) : Exact (.map entries) :=
  .map (hentries.keys_sublist.nodup hkeys) hentries.exact_values

end Fields

/-- White space only. -/
def IsGap (cs : List Char) : Prop :=
  ∀ c ∈ cs, isSpace c = true

/-- Layouts that put nothing but white space around a comma or a colon. -/
structure Layout.Standard (layout : Layout) : Prop where
  comma : ∃ gap, layout.comma.toList = ',' :: gap ∧ IsGap gap
  colon : ∃ gap, layout.colon.toList = ':' :: gap ∧ IsGap gap

theorem Layout.isGap_newline (layout : Layout) (depth : Nat) : IsGap (layout.newline depth) := by
  intro c hc
  unfold Layout.newline at hc
  split at hc
  · simp at hc
  · rcases List.mem_cons.1 hc with rfl | hc
    · rfl
    · rw [List.eq_of_mem_replicate hc]
      rfl

theorem Layout.Standard.between {layout : Layout} (hlayout : layout.Standard) (depth : Nat) :
    ∃ gap, layout.between depth = ',' :: gap ∧ IsGap gap := by
  unfold Layout.between
  split
  · exact hlayout.comma
  · exact ⟨layout.newline depth, rfl, layout.isGap_newline depth⟩

theorem compact_standard : compact.Standard :=
  ⟨⟨[], rfl, by simp [IsGap]⟩, ⟨[], rfl, by simp [IsGap]⟩⟩

/-! ## White space -/

theorem skipSpace_append {gap : List Char} (hgap : IsGap gap) (cs : List Char) :
    skipSpace (gap ++ cs) = skipSpace cs :=
  List.dropWhile_append_of_pos hgap

theorem skipSpace_cons {c : Char} (hc : isSpace c = false) (cs : List Char) :
    skipSpace (c :: cs) = c :: cs := by
  rw [skipSpace, List.dropWhile_cons_of_neg]
  rw [hc]
  exact Bool.false_ne_true

theorem endsNumber_append {gap : List Char} (hgap : IsGap gap) {cs : List Char}
    (hcs : endsNumber cs = true) : endsNumber (gap ++ cs) = true := by
  cases gap with
  | nil => exact hcs
  | cons c gap =>
    have hc := hgap c List.mem_cons_self
    simp only [isSpace, Bool.or_eq_true, beq_iff_eq] at hc
    rcases hc with ((rfl | rfl) | rfl) | rfl
    · rfl
    · rfl
    · rfl
    · rfl

/-- What a value may start with: no white space, no end of a list or mapping, no byte order mark. -/
def startsValue : List Char → Bool
  | [] => false
  | c :: _ => !isSpace c && c != ']' && c != '\x7d' && c != '\ufeff'

theorem startsValue_append {cs : List Char} (hcs : startsValue cs = true) (rest : List Char) :
    startsValue (cs ++ rest) = true := by
  cases cs with
  | nil => exact absurd hcs (by decide)
  | cons c cs => exact hcs

theorem skipSpace_of_startsValue {cs : List Char} (hcs : startsValue cs = true) :
    skipSpace cs = cs := by
  cases cs with
  | nil => rfl
  | cons c cs =>
    simp only [startsValue, Bool.and_eq_true, Bool.not_eq_true'] at hcs
    exact skipSpace_cons hcs.1.1.1 cs

theorem ne_cons_of_startsValue {cs : List Char} (hcs : startsValue cs = true) (rest : List Char) :
    cs ≠ ']' :: rest ∧ cs ≠ '\x7d' :: rest ∧ cs ≠ '\ufeff' :: rest := by
  refine ⟨?_, ?_, ?_⟩
  · rintro rfl
    exact Bool.false_ne_true hcs
  · rintro rfl
    exact Bool.false_ne_true hcs
  · rintro rfl
    exact Bool.false_ne_true hcs

/-! ## Steps of the reader -/

section Steps

variable {bound : Nat} {cs gap rest front : List Char} {v : Value} {vs : List Value}
  {key : String} {entries : List (String × Value)}

theorem readValue_list (hgap : IsGap gap) (hcs : startsValue cs = true)
    (hitems : readItems bound cs = .ok (vs, rest)) :
    readValue (bound + 1) ('[' :: (gap ++ cs)) = .ok (.list vs, rest) := by
  rw [readValue, skipSpace_append hgap, skipSpace_of_startsValue hcs]
  split
  · exact absurd rfl (ne_cons_of_startsValue hcs _).1
  · rw [hitems]
    rfl

theorem readItems_last (hgap : IsGap gap)
    (hv : readValue bound cs = .ok (v, gap ++ ']' :: rest)) :
    readItems (bound + 1) cs = .ok ([v], rest) := by
  simp only [readItems, hv, bind, Except.bind, skipSpace_append hgap, skipSpace_cons (c := ']') rfl]
  rfl

theorem readItems_cons (hgap : IsGap gap) (hcs : startsValue cs = true)
    (hv : readValue bound front = .ok (v, ',' :: (gap ++ cs)))
    (hitems : readItems bound cs = .ok (vs, rest)) :
    readItems (bound + 1) front = .ok (v :: vs, rest) := by
  simp only [readItems, hv, bind, Except.bind, skipSpace_cons (c := ',') rfl,
    skipSpace_append hgap, skipSpace_of_startsValue hcs, hitems]
  rfl

theorem readValue_map (hgap : IsGap gap) (hcs : startsValue cs = true)
    (hentries : readEntries bound cs = .ok (entries, rest)) :
    readValue (bound + 1) ('\x7b' :: (gap ++ cs)) = .ok (.map (ofEntries entries), rest) := by
  rw [readValue, skipSpace_append hgap, skipSpace_of_startsValue hcs]
  split
  · exact absurd rfl (ne_cons_of_startsValue hcs _).2.1
  · rw [hentries]
    rfl

theorem readEntries_last (hgap : IsGap gap) {colonGap : List Char} (hcolon : IsGap colonGap)
    (hcs : startsValue cs = true)
    (hkey : readText front = .ok (key, ':' :: (colonGap ++ cs)))
    (hv : readValue bound cs = .ok (v, gap ++ '\x7d' :: rest)) :
    readEntries (bound + 1) ('"' :: front) = .ok ([(key, v)], rest) := by
  simp only [readEntries, hkey, hv, bind, Except.bind, skipSpace_cons (c := ':') rfl,
    skipSpace_append hcolon, skipSpace_of_startsValue hcs, skipSpace_append hgap,
    skipSpace_cons (c := '\x7d') rfl]
  rfl

theorem readEntries_cons (hgap : IsGap gap) {colonGap next : List Char} (hcolon : IsGap colonGap)
    (hcs : startsValue cs = true) (hnext : startsValue next = true)
    (hkey : readText front = .ok (key, ':' :: (colonGap ++ cs)))
    (hv : readValue bound cs = .ok (v, ',' :: (gap ++ next)))
    (hentries : readEntries bound next = .ok (entries, rest)) :
    readEntries (bound + 1) ('"' :: front) = .ok ((key, v) :: entries, rest) := by
  simp only [readEntries, hkey, hv, bind, Except.bind, skipSpace_cons (c := ':') rfl,
    skipSpace_append hcolon, skipSpace_of_startsValue hcs, skipSpace_append hgap,
    skipSpace_cons (c := ',') rfl, skipSpace_of_startsValue hnext, hentries]
  rfl

theorem readValue_scalar {c : Char} (hc : c ≠ '"' ∧ c ≠ '[' ∧ c ≠ '\x7b')
    (hscalar : readScalar (c :: cs) = .ok (v, rest)) :
    readValue (bound + 1) (c :: cs) = .ok (v, rest) := by
  rw [readValue]
  · exact hscalar
  · rintro rest heq
    exact hc.1 (List.cons.inj heq).1
  · rintro rest heq
    exact hc.2.1 (List.cons.inj heq).1
  · rintro rest heq
    exact hc.2.2 (List.cons.inj heq).1

end Steps

/-! ## Reading what was written -/

/-- A value is read back from its text, whatever follows that does not go on with a number. -/
structure ReadsBack (layout : Layout) (depth : Nat) (v : Value) : Prop where
  starts : startsValue (layout.write depth v) = true
  reads : ∀ {bound : Nat} {rest : List Char}, (layout.write depth v).length ≤ bound →
    endsNumber rest = true → readValue bound (layout.write depth v ++ rest) = .ok (v, rest)

theorem readsBack_scalar {layout : Layout} {depth : Nat} {v : Value} {c : Char} {cs : List Char}
    (hwrite : layout.write depth v = c :: cs) (hstarts : startsValue (c :: cs) = true)
    (hc : c ≠ '"' ∧ c ≠ '[' ∧ c ≠ '\x7b')
    (hscalar : ∀ rest, endsNumber rest = true → readScalar (c :: (cs ++ rest)) = .ok (v, rest)) :
    ReadsBack layout depth v := by
  refine ⟨hwrite ▸ hstarts, ?_⟩
  intro bound rest hbound hrest
  rw [hwrite, List.length_cons] at hbound
  obtain ⟨bound, rfl⟩ : ∃ b, bound = b + 1 := ⟨bound - 1, by omega⟩
  rw [hwrite, List.cons_append]
  exact readValue_scalar hc (hscalar rest hrest)

theorem readsBack_int (layout : Layout) (depth : Nat) (n : Int) :
    ReadsBack layout depth (.int n) := by
  have hstart : ∃ c cs, (toString n).toList = c :: cs ∧ (c = '-' ∨ Text.isPlainDigit c = true) := by
    cases n with
    | ofNat m =>
      obtain ⟨d, ds, heq, hd⟩ := Text.exists_toDigits_eq_cons m
      exact ⟨d, ds, (Text.toList_toString_ofNat m).trans heq, .inr hd⟩
    | negSucc m => exact ⟨'-', _, Text.toList_toString_negSucc m, .inl rfl⟩
  obtain ⟨c, cs, heq, hc⟩ := hstart
  have hne : ∀ d, d ≠ '-' → Text.isPlainDigit d = false → c ≠ d := by
    rintro d hminus hdigit rfl
    rcases hc with hc | hc
    · exact hminus hc
    · exact Bool.false_ne_true (hdigit.symm.trans hc)
  have hwrite : layout.write depth (.int n) = c :: cs := by rw [Layout.write, heq]
  refine readsBack_scalar hwrite ?_ ?_ ?_
  · simp only [startsValue, isSpace, Bool.and_eq_true, Bool.not_eq_true', Bool.or_eq_false_iff,
      beq_eq_false_iff_ne, bne_iff_ne]
    exact ⟨⟨⟨⟨⟨⟨hne ' ' (by decide) rfl, hne '\t' (by decide) rfl⟩, hne '\n' (by decide) rfl⟩,
      hne '\r' (by decide) rfl⟩, hne ']' (by decide) rfl⟩, hne '\x7d' (by decide) rfl⟩,
      hne '\ufeff' (by decide) rfl⟩
  · exact ⟨hne '"' (by decide) rfl, hne '[' (by decide) rfl, hne '\x7b' (by decide) rfl⟩
  · intro rest hrest
    rw [← List.cons_append, ← heq]
    exact readScalar_toString n hrest

section Layouts

variable {layout : Layout} (hlayout : layout.Standard) {depth : Nat}

theorem readsBack_text (s : String) : ReadsBack layout depth (.text s) := by
  refine ⟨by rw [Layout.write]; rfl, ?_⟩
  intro bound rest hbound _
  rw [Layout.write, writeText, List.length_append, List.length_cons] at hbound
  obtain ⟨bound, rfl⟩ : ∃ b, bound = b + 1 := ⟨bound - 1, by omega⟩
  rw [Layout.write, writeText_append, readValue, readText_flatMap_writeChar]
  rfl

include hlayout

theorem readItems_write {v : Value} {items : List Value} (hv : ReadsBack layout depth v)
    (hitems : ∀ w ∈ items, ReadsBack layout depth w) {bound : Nat} {gap rest : List Char}
    (hgap : IsGap gap)
    (hbound : (layout.write depth v ++ layout.writeItems depth items).length < bound) :
    readItems bound (layout.write depth v ++ (layout.writeItems depth items ++
      (gap ++ ']' :: rest))) = .ok (v :: items, rest) := by
  induction items generalizing v bound with
  | nil =>
    obtain ⟨bound, rfl⟩ : ∃ b, bound = b + 1 := ⟨bound - 1, by omega⟩
    rw [Layout.writeItems, List.append_nil] at hbound
    rw [Layout.writeItems, List.nil_append]
    exact readItems_last hgap (hv.reads (by omega) (endsNumber_append hgap rfl))
  | cons w items ih =>
    obtain ⟨bound, rfl⟩ : ∃ b, bound = b + 1 := ⟨bound - 1, by omega⟩
    obtain ⟨comma, hcomma, hcommaGap⟩ := hlayout.between depth
    -- The bound falls by one, and the text by the item and the comma in front of the next one.
    have hw := hitems w List.mem_cons_self
    rw [Layout.writeItems, hcomma] at hbound ⊢
    simp only [List.length_append, List.length_cons] at hbound
    simp only [List.append_assoc, List.cons_append]
    refine readItems_cons hcommaGap (startsValue_append hw.starts _)
      (hv.reads (by omega) rfl) (ih hw (fun x hx => hitems x (List.mem_cons_of_mem w hx)) ?_)
    rw [List.length_append]
    omega

theorem readEntries_write {k : String} {v : Value} {entries : List (String × Value)}
    (hv : ReadsBack layout depth v) (hentries : ∀ entry ∈ entries, ReadsBack layout depth entry.2)
    {bound : Nat} {gap rest : List Char} (hgap : IsGap gap)
    (hbound : (layout.write depth v ++ layout.writeEntries depth entries).length < bound) :
    readEntries bound (writeText layout.plain k ++ (layout.colon.toList ++ (layout.write depth v ++
      (layout.writeEntries depth entries ++ (gap ++ '\x7d' :: rest))))) =
        .ok ((k, v) :: entries, rest) := by
  obtain ⟨colon, hcolon, hcolonGap⟩ := hlayout.colon
  rw [hcolon]
  induction entries generalizing k v bound with
  | nil =>
    obtain ⟨bound, rfl⟩ : ∃ b, bound = b + 1 := ⟨bound - 1, by omega⟩
    rw [Layout.writeEntries, List.append_nil] at hbound
    rw [Layout.writeEntries, List.nil_append, writeText_append]
    exact readEntries_last hgap hcolonGap (startsValue_append hv.starts _)
      (readText_flatMap_writeChar layout.plain k _)
      (hv.reads (by omega) (endsNumber_append hgap rfl))
  | cons entry entries ih =>
    obtain ⟨key, w⟩ := entry
    obtain ⟨bound, rfl⟩ : ∃ b, bound = b + 1 := ⟨bound - 1, by omega⟩
    obtain ⟨comma, hcomma, hcommaGap⟩ := hlayout.between depth
    have hw : ReadsBack layout depth w := hentries (key, w) List.mem_cons_self
    have hrest := @ih key w hw (fun x hx => hentries x (List.mem_cons_of_mem _ hx)) bound
    rw [Layout.writeEntries, hcomma] at hbound
    simp only [List.length_append, List.length_cons] at hbound
    rw [Layout.writeEntries, hcomma, hcolon, writeText_append layout.plain k]
    simp only [List.append_assoc, List.cons_append]
    refine readEntries_cons hcommaGap hcolonGap (startsValue_append hv.starts _) ?_
      (readText_flatMap_writeChar layout.plain k _) (hv.reads (by omega) rfl) (hrest ?_)
    · rw [writeText_append]
      rfl
    · rw [List.length_append]
      omega

theorem readsBack_list {items : List Value}
    (hitems : ∀ v ∈ items, ReadsBack layout (depth + 1) v) :
    ReadsBack layout depth (.list items) := by
  cases items with
  | nil =>
    refine ⟨rfl, ?_⟩
    intro bound rest hbound _
    rw [Layout.write, List.length_cons] at hbound
    obtain ⟨bound, rfl⟩ : ∃ b, bound = b + 1 := ⟨bound - 1, by omega⟩
    rfl
  | cons v items =>
    obtain ⟨hv, hrest⟩ := List.forall_mem_cons.1 hitems
    refine ⟨rfl, ?_⟩
    intro bound rest hbound _
    have hgap := layout.isGap_newline depth
    rw [Layout.write] at hbound ⊢
    simp only [List.length_append, List.length_cons, List.length_nil] at hbound
    simp only [List.append_assoc, List.cons_append, List.nil_append]
    obtain ⟨bound, rfl⟩ : ∃ b, bound = b + 1 := ⟨bound - 1, by omega⟩
    refine readValue_list (layout.isGap_newline (depth + 1)) (startsValue_append hv.starts _)
      (readItems_write hlayout hv hrest hgap ?_)
    rw [List.length_append]
    omega

theorem readsBack_map {entries : List (String × Value)}
    (hkeys : (entries.map Prod.fst).Nodup)
    (hentries : ∀ entry ∈ entries, ReadsBack layout (depth + 1) entry.2) :
    ReadsBack layout depth (.map entries) := by
  cases entries with
  | nil =>
    refine ⟨rfl, ?_⟩
    intro bound rest hbound _
    rw [Layout.write, List.length_cons] at hbound
    obtain ⟨bound, rfl⟩ : ∃ b, bound = b + 1 := ⟨bound - 1, by omega⟩
    rfl
  | cons entry entries =>
    obtain ⟨k, v⟩ := entry
    have hv : ReadsBack layout (depth + 1) v := hentries (k, v) List.mem_cons_self
    have hrest := fun entry hentry => hentries entry (List.mem_cons_of_mem (k, v) hentry)
    refine ⟨rfl, ?_⟩
    intro bound rest hbound _
    have hgap := layout.isGap_newline depth
    rw [Layout.write] at hbound ⊢
    simp only [List.length_append, List.length_cons, List.length_nil] at hbound
    simp only [List.append_assoc, List.cons_append, List.nil_append]
    obtain ⟨bound, rfl⟩ : ∃ b, bound = b + 1 := ⟨bound - 1, by omega⟩
    rw [← ofEntries_eq_self hkeys]
    refine readValue_map (layout.isGap_newline (depth + 1)) rfl
      (readEntries_write hlayout hv hrest hgap ?_)
    rw [List.length_append]
    omega

/-- Every exact value is read back, at every depth. -/
theorem Exact.readsBack {v : Value} (hv : Exact v) (depth : Nat) : ReadsBack layout depth v := by
  induction hv generalizing depth with
  | null => exact readsBack_scalar rfl rfl (by decide) fun _ _ => rfl
  | bool b =>
    cases b with
    | true => exact readsBack_scalar rfl rfl (by decide) fun _ _ => rfl
    | false => exact readsBack_scalar rfl rfl (by decide) fun _ _ => rfl
  | int n => exact readsBack_int layout depth n
  | text s => exact readsBack_text s
  | list hitems ih => exact readsBack_list hlayout fun v hv => ih v hv (depth + 1)
  | map hkeys hentries ih =>
    exact readsBack_map hlayout hkeys fun entry hentry => ih entry hentry (depth + 1)

end Layouts

/-! ## Whole texts -/

/-- Reading a text undoes its writing, in every standard layout and for every exact value. -/
theorem read_text {layout : Layout} (hlayout : layout.Standard) {v : Value} (hv : Exact v) :
    read (layout.text v) = .ok v := by
  have hback := hv.readsBack hlayout 0
  have hread : readValue ((layout.write 0 v).length + 1) (layout.write 0 v ++ []) = .ok (v, []) :=
    hback.reads (by omega) rfl
  have hstarts := hback.starts
  rw [List.append_nil] at hread
  have hall : readAll (layout.write 0 v) = .ok v := by
    rw [readAll, skipSpace_of_startsValue hstarts, hread]
    · rfl
    · exact fun rest => (ne_cons_of_startsValue hback.starts rest).2.2
  rw [read, Layout.text, String.toList_ofList, hall]
  rfl

end AudioPlan.Json
