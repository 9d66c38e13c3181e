import AudioPlan.Proofs.Title.Expansion
import AudioPlan.Proofs.Track.Matching

/-!
# The groups of the last match

The replacements for the groups of a pattern are made match after match, but each match has a place
for all groups, so it overwrites everything that an earlier one left behind (`putGroups_append`).
What stays are the groups of the last match of the scan through the title, in their order, and a
group that took no part in it is empty whatever it held before (`captureGroups_last`).

A rule is chosen by a search and its titles are expanded by a scan.  Both find something or neither
does, so for a rule that matches every numbered tag of its pattern has a value.
-/

namespace AudioPlan

/-! ## Numbered tags -/

theorem groupTag_injective : Function.Injective groupTag := by
  intro n m h
  have hbraced : bracedTag (Nat.toDigits 10 n) = bracedTag (Nat.toDigits 10 m) := by
    rw [← toList_groupTag, ← toList_groupTag, h]
  have hdigits := List.append_cancel_right (List.cons.inj hbraced).2
  rw [← Text.ofPlainDigits_toDigits n, hdigits, Text.ofPlainDigits_toDigits]

/-- The groups of a match under their tags, counted from a number on. -/
def numberedGroups (n : Nat) (found : List (Option String)) : List (String × String) :=
  found.mapIdx fun i group => (groupTag (n + i), group.getD "")

theorem numberedGroups_cons (n : Nat) (group : Option String) (rest : List (Option String)) :
    numberedGroups n (group :: rest) =
      (groupTag n, group.getD "") :: numberedGroups (n + 1) rest := by
  rw [numberedGroups, List.mapIdx_cons, numberedGroups]
  simp only [Nat.add_zero, Nat.add_assoc, Nat.add_comm 1]

theorem keys_numberedGroups (n : Nat) (found : List (Option String)) :
    (numberedGroups n found).map Prod.fst = (List.range' n found.length).map groupTag := by
  induction found generalizing n with
  | nil => rfl
  | cons group rest ih =>
    rw [numberedGroups_cons, List.map_cons, ih, List.length_cons, List.range'_succ, List.map_cons]

/-! ## One match after another -/

section Matches

variable {n k : Nat} {found : List (Option String)} {before old : List (String × String)}

/-- A group takes the place of the one with its number, or is the first where none are left. -/
theorem exists_put_groupTag (hold : old.map Prod.fst = (List.range' n k).map groupTag)
    (value : String) :
    ∃ rest, rest.map Prod.fst = (List.range' (n + 1) (k - 1)).map groupTag ∧
      put (groupTag n) value old = (groupTag n, value) :: rest := by
  cases k with
  | zero =>
    rw [List.map_eq_nil_iff.1 hold]
    exact ⟨[], rfl, rfl⟩
  | succ k =>
    cases old with
    | nil => cases hold
    | cons entry old =>
      obtain ⟨tag, earlier⟩ := entry
      obtain ⟨htag, hold⟩ := List.cons.inj hold
      replace htag : tag = groupTag n := htag
      refine ⟨old, hold, ?_⟩
      rw [htag, put, if_pos (beq_self_eq_true _)]

/-- A match takes the place of an earlier one with no more groups, value for value.  Behind the
groups that are done, the rest of the earlier ones still stand under their tags. -/
theorem putGroups_append (hk : k ≤ found.length)
    (hold : old.map Prod.fst = (List.range' n k).map groupTag)
    (hbefore : ∀ m, n ≤ m → groupTag m ∉ before.map Prod.fst) :
    putGroups n found (before ++ old) = before ++ numberedGroups n found := by
  induction found generalizing n k before old with
  | nil =>
    cases Nat.le_zero.1 hk
    rw [List.map_eq_nil_iff.1 hold]
    rfl
  | cons group rest ih =>
    obtain ⟨old', hold', hput⟩ := exists_put_groupTag hold (group.getD "")
    have hk' : k - 1 ≤ rest.length := Nat.sub_le_of_le_add hk
    have hbefore' : ∀ m, n + 1 ≤ m →
        groupTag m ∉ (before ++ [(groupTag n, group.getD "")]).map Prod.fst := by
      intro m hm hmem
      rw [List.map_append, List.mem_append] at hmem
      rcases hmem with hmem | hmem
      · exact hbefore m (Nat.le_of_succ_le hm) hmem
      · have heq := groupTag_injective (List.mem_singleton.1 hmem)
        omega
    rw [putGroups, put_append_of_not_mem (hbefore n (Nat.le_refl n)), hput, ← List.singleton_append,
      ← List.append_assoc, ih hk' hold' hbefore', numberedGroups_cons, List.append_assoc,
      List.singleton_append]

/-- The groups of a match are all that stays of earlier ones with no more groups. -/
theorem putGroups_eq (hk : k ≤ found.length)
    (hold : old.map Prod.fst = (List.range' n k).map groupTag) :
    putGroups n found old = numberedGroups n found := by
  have hnothing : ∀ m, n ≤ m → groupTag m ∉ ([] : List (String × String)).map Prod.fst := by simp
  exact putGroups_append hk hold hnothing

/-- After all matches the groups of the last one are there. -/
theorem foldl_putGroups {matched : List Regex.Match}
    (hmatched : ∀ m ∈ matched, m.groups.length = k) :
    matched.foldl (fun groups m => putGroups 1 m.groups groups) [] =
      matched.getLast?.elim [] fun last => numberedGroups 1 last.groups := by
  induction matched using List.reverseRecOn with
  | nil => rfl
  | append_singleton earlier m ih =>
    obtain ⟨hearlier, hm⟩ := List.forall_mem_append.1 hmatched
    have hlength : m.groups.length = k := hm m List.mem_cons_self
    rw [List.foldl_concat, ih hearlier, List.getLast?_concat, Option.elim_some]
    cases hlast : earlier.getLast? with
    | none => exact putGroups_eq (Nat.zero_le _) rfl
    | some last =>
      have hlastLength := hearlier last (List.mem_of_getLast? hlast)
      refine putGroups_eq (Nat.le_of_eq ?_) (keys_numberedGroups 1 last.groups)
      rw [hlastLength, hlength]

end Matches

/-! ## The last match -/

section Last

variable {t : Track} {p : TitlePattern} {r : Regex} {title : String}

/-- The replacements for a title are the groups of the last match in it. -/
theorem captureGroups_eq (hr : p.regex = .ok r) (htitle : t.titleText = .ok title) :
    captureGroups t (some p) =
      .ok ((r.findAll title).getLast?.elim [] fun last => numberedGroups 1 last.groups) := by
  have hlength : ∀ m ∈ r.findAll title, m.groups.length = r.groups := fun m hm =>
    (Regex.findAll_liesIn hm).groups_length
  rw [captureGroups, ← foldl_putGroups hlength, hr, htitle]
  rfl

theorem captureGroups_of_search_eq_none (hr : p.regex = .ok r) (htitle : t.titleText = .ok title)
    (hnone : r.search title = none) : captureGroups t (some p) = .ok [] := by
  rw [← Regex.head?_findAll, List.head?_eq_none_iff] at hnone
  rw [captureGroups_eq hr htitle, hnone]
  rfl

/-- Where a search finds something the scan has a last match. -/
theorem captureGroups_of_search_eq_some (hr : p.regex = .ok r) (htitle : t.titleText = .ok title)
    {first : Regex.Match} (hfirst : r.search title = some first) :
    ∃ last, (r.findAll title).getLast? = some last ∧ last.groups.length = r.groups ∧
      captureGroups t (some p) = .ok (numberedGroups 1 last.groups) := by
  rw [← Regex.head?_findAll] at hfirst
  have hne : r.findAll title ≠ [] := by
    intro hnil
    rw [hnil] at hfirst
    cases hfirst
  have hlast := List.getLast?_eq_some_getLast hne
  refine ⟨_, hlast, (Regex.findAll_liesIn (List.getLast_mem hne)).groups_length, ?_⟩
  rw [captureGroups_eq hr htitle, hlast, Option.elim_some]

/-- Every numbered tag of the pattern of a rule that matches has a value. -/
theorem keys_captureGroups_of_meets {rule : Rule} (hr : p.regex = .ok r)
    (hp : rule.criteria.title = some p) (hmeets : t.meets rule.criteria = .ok true) :
    ∃ groups, captureGroups t rule.criteria.title = .ok groups ∧
      groups.map Prod.fst = (List.range' 1 r.groups).map groupTag := by
  obtain ⟨r', title, first, hr', htitle, hfirst⟩ := Track.exists_search_of_meets hmeets hp
  cases hr.symm.trans hr'
  obtain ⟨last, -, hlength, hgroups⟩ := captureGroups_of_search_eq_some hr htitle hfirst
  exact ⟨_, hp ▸ hgroups, by rw [keys_numberedGroups, hlength]⟩

end Last

/-- The numbered tags of a pattern come from the last match, and a rule that matches has them all.
For a title in which the pattern is not found there are none.  Otherwise there is one for each group
of the pattern, in order: its text in the last match of the scan from left to right, or an empty one
if it took no part there, whatever it held in an earlier match.  When a rule with a pattern matches
a track, its titles are expanded with a value for every number. -/
theorem captureGroups_last {p : TitlePattern} {r : Regex} (hr : p.regex = .ok r) :
    (∀ (t : Track) (title : String), t.titleText = .ok title →
      (r.search title = none → captureGroups t (some p) = .ok []) ∧
      ∀ first, r.search title = some first →
        ∃ found last, Regex.Scans r title.toList 0 false found ∧ found.head? = some first ∧
          found.getLast? = some last ∧ last.groups.length = r.groups ∧
          captureGroups t (some p) =
            .ok (last.groups.mapIdx fun i group => (groupTag (1 + i), group.getD ""))) ∧
    ∀ (t : Track) (rule : Rule), rule.criteria.title = some p → t.meets rule.criteria = .ok true →
      ∃ groups, captureGroups t rule.criteria.title = .ok groups ∧
        groups.map Prod.fst = (List.range' 1 r.groups).map groupTag ∧
        ∀ template operation outputChannels outputBitRate title,
          expandTitle template t operation rule.criteria.title outputChannels outputBitRate =
            .ok title →
          ∃ tags, tagReplacements t operation outputChannels outputBitRate = .ok tags ∧
            title = String.ofList
              (sanitize (substitute template.toList (titleTable groups tags))) := by
  constructor
  · intro t title htitle
    refine ⟨captureGroups_of_search_eq_none hr htitle, fun first hfirst => ?_⟩
    obtain ⟨last, hlast, hlength, hgroups⟩ := captureGroups_of_search_eq_some hr htitle hfirst
    exact ⟨_, last, Regex.findAll_scans r title, (Regex.head?_findAll r title).trans hfirst, hlast,
      hlength, hgroups⟩
  · intro t rule hp hmeets
    obtain ⟨groups, hgroups, hkeys⟩ := keys_captureGroups_of_meets hr hp hmeets
    refine ⟨groups, hgroups, hkeys, ?_⟩
    intro template operation outputChannels outputBitRate title hexpand
    obtain ⟨groups', tags, hgroups', htags, rfl⟩ := expandTitle_eq_ok hexpand
    cases hgroups.symm.trans hgroups'
    exact ⟨tags, htags, rfl⟩

/-- Either of two codecs, each in a group of its own. -/
def codecPattern : TitlePattern :=
  { pattern := "(DTS)|(AC3)" }

/-- A track with both of them in its title. -/
def bothCodecsTrack : Track :=
  { codec := .known (some "dts"), channels := .known 6, title := .known "DTS and AC3" }

/-- A rule for them that puts both groups into a title. -/
def codecRule : Rule :=
  { criteria := { codecs := .all, title := some codecPattern }
    operations := [.copy { title := some "{2}/{1}" }] }

/-- The first group took part in the first match only, so the last match leaves it empty. -/
theorem captureGroups_last_codecs :
    ∃ r, codecPattern.regex = .ok r ∧ r.groups = 2 ∧
      captureGroups bothCodecsTrack (some codecPattern) =
        .ok [("{1}", ""), ("{2}", "AC3")] ∧
      (∃ first found last, r.search "DTS and AC3" = some first ∧
        Regex.Scans r "DTS and AC3".toList 0 false found ∧ found.head? = some first ∧
        found.getLast? = some last ∧ last.groups.length = r.groups ∧
        captureGroups bothCodecsTrack (some codecPattern) =
          .ok (last.groups.mapIdx fun i group => (groupTag (1 + i), group.getD ""))) ∧
      bothCodecsTrack.meets codecRule.criteria = .ok true ∧
      ∃ groups, captureGroups bothCodecsTrack (some codecPattern) = .ok groups ∧
        groups.map Prod.fst = (List.range' 1 r.groups).map groupTag := by
  have hseen : (codecPattern.regex.toOption.map fun r =>
      (r.groups, (r.search "DTS and AC3").isSome)) = some (2, true) := by
    decide +kernel
  have hcaptured : captureGroups bothCodecsTrack (some codecPattern) =
      .ok [("{1}", ""), ("{2}", "AC3")] := eq_ok_of_toOption (by decide +kernel)
  have hmeets : bothCodecsTrack.meets codecRule.criteria = .ok true :=
    eq_ok_of_toOption (by decide +kernel)
  obtain ⟨r, hr, hseen⟩ := exists_eq_ok_of_map hseen
  obtain ⟨hcount, hsome⟩ := Prod.mk.inj hseen
  obtain ⟨first, hfirst⟩ := Option.isSome_iff_exists.1 hsome
  obtain ⟨found, last, hlast⟩ :=
    (captureGroups_last hr).1 bothCodecsTrack "DTS and AC3" rfl |>.2 first hfirst
  obtain ⟨groups, hgroups, hkeys, -⟩ :=
    (captureGroups_last hr).2 bothCodecsTrack codecRule rfl hmeets
  exact ⟨r, hr, hcount, hcaptured, ⟨first, found, last, hfirst, hlast⟩, hmeets, groups, hgroups,
    hkeys⟩

end AudioPlan
