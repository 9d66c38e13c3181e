import AudioPlan.Proofs.Settings.Sources

/-!
# Which source a setting comes from

Sources that can be told apart only below the one that decides (`Sources.AgreeUntilSet`) give the
same value for a setting, so what stands lower can be replaced or removed.

* `loadSettings_eq_bind` takes the choice apart from the reading of the configuration file;
* `loadSettings_precedence` is what this means for the settings that are loaded.
-/

namespace AudioPlan

namespace Sources

/-- Two groups of sources say the same of a setting as far down as it is looked for: if it is set
above, what stands below makes no difference. -/
def AgreeUntilSet (S S' : Sources) (k : Setting) : Prop :=
  S.wishes.value? k = S'.wishes.value? k ∧
    (S.wishes.value? k = none → S.outside? k = S'.outside? k ∧
      (S.outside? k = none → S.filed? k = S'.filed? k))

instance (S S' : Sources) (k : Setting) : Decidable (AgreeUntilSet S S' k) :=
  inferInstanceAs (Decidable (_ ∧ (_ → _ ∧ (_ → _))))

theorem AgreeUntilSet.first?_eq {S' : Sources} {k : Setting} (h : AgreeUntilSet S S' k) :
    S.first? k = S'.first? k := by
  rw [first?, first?, ← h.1]
  cases hwish : S.wishes.value? k with
  | some x => rfl
  | none =>
    have hbelow := h.2 hwish
    rw [← hbelow.1]
    cases houtside : S.outside? k with
    | some x => rfl
    | none => rw [hbelow.2 houtside]

end Sources

/-! ## Loading -/

/-- What the configuration file holds that is looked for. -/
def configTable (asked : Option Path) (env : Environment)
    (contents : Path → Except FileCause (List UInt8)) : Except SettingError Toml.Table :=
  configFile asked env >>= fun path => readTable path (contents path)

/-- A load takes the settings from its sources, one of which is the table of its file. -/
theorem loadSettings_eq_bind (asked : Option Path) (wishes : Wishes) (env : Environment)
    (contents : Path → Except FileCause (List UInt8)) :
    loadSettings asked wishes env contents =
      configTable asked env contents >>= fun table => (Sources.mk wishes env table).settings := by
  rw [loadSettings, configTable, bind_assoc]
  rfl

/-- Every setting is what the first source says that says anything.

What stands below a source that decides can therefore be replaced or removed without any change,
as long as it is replaced by a value of the declared kind; and a setting changes only with its own
sources. -/
theorem loadSettings_precedence {asked : Option Path} {wishes : Wishes} {env : Environment}
    {contents : Path → Except FileCause (List UInt8)} {table : Toml.Table} {s : Settings}
    (htable : configTable asked env contents = .ok table)
    (hfull : (Sources.mk wishes env table).NothingEmpty)
    (hload : loadSettings asked wishes env contents = .ok s) :
    (∀ k, s.value? k = (Sources.mk wishes env table).first? k) ∧
    ∀ (asked' : Option Path) (wishes' : Wishes) (env' : Environment)
      (contents' : Path → Except FileCause (List UInt8)) (table' : Toml.Table),
      configTable asked' env' contents' = .ok table' →
      (Sources.mk wishes' env' table').NothingEmpty →
      ((Sources.mk wishes' env' table').Readable →
        (∀ k, (Sources.mk wishes env table).AgreeUntilSet ⟨wishes', env', table'⟩ k) →
        loadSettings asked' wishes' env' contents' = .ok s) ∧
      ∀ s', loadSettings asked' wishes' env' contents' = .ok s' →
        ∀ k, (Sources.mk wishes env table).AgreeUntilSet ⟨wishes', env', table'⟩ k →
          s'.value? k = s.value? k := by
  have hsettings : ∀ {asked : Option Path} {wishes : Wishes} {env : Environment}
      {contents : Path → Except FileCause (List UInt8)} {table : Toml.Table},
      configTable asked env contents = .ok table →
      loadSettings asked wishes env contents = (Sources.mk wishes env table).settings := by
    intro asked wishes env contents table htable
    rw [loadSettings_eq_bind, htable]
    rfl
  rw [hsettings htable, Sources.settings_eq_ok_iff hfull] at hload
  obtain ⟨-, hvalue, hlog, hengine⟩ := hload
  refine ⟨hvalue, fun asked' wishes' env' contents' table' htable' hfull' => ?_⟩
  rw [hsettings htable']
  constructor
  · intro hread' hagree
    exact (Sources.settings_eq_ok_iff hfull').2
      ⟨hread', fun k => (hvalue k).trans (hagree k).first?_eq, hlog, hengine⟩
  · intro s' hload' k hagree
    rw [((Sources.settings_eq_ok_iff hfull').1 hload').2.1 k, hvalue k, hagree.first?_eq]

/-- A configuration file with the one section for how rules are applied. -/
def engineConfig (section_ : String) : List UInt8 :=
  Text.encodeUtf8 ("engine = \x7b" ++ section_ ++ "\x7d\n").toList

/-- A level that is asked for stands above a variable, and a variable above the file: without the
lower ones the settings are the same, and another tag in the file changes nothing but the tag. -/
theorem loadSettings_precedence_engine :
    let wishes : Wishes := { level := some "error" }
    let full : Environment :=
      { values := [("TRACKRULES_LOG_LEVEL", "debug"), ("TRACKRULES_DRY_RUN", "no")] }
    let sparse : Environment := { values := [("TRACKRULES_DRY_RUN", "no")] }
    let contents : String → Path → Except FileCause (List UInt8) :=
      fun text _ => .ok (engineConfig text)
    let s : Settings := { log := { level := "error" }, engine := { markerTag := "A" } }
    loadSettings none wishes full (contents "dry_run=true,marker_tag=\"A\"") = .ok s ∧
      loadSettings none wishes sparse (contents "marker_tag=\"A\"") = .ok s ∧
      ∀ s', loadSettings none wishes sparse (contents "marker_tag=\"B\"") = .ok s' →
        ∀ k, k ≠ .markerTag → s'.value? k = s.value? k := by
  intro wishes full sparse contents s
  let tableOf (env : Environment) (text : String) : Toml.Table :=
    (configTable none env (contents text)).toOption.getD []
  have htable : ∀ env text, (configTable none env (contents text)).toOption.isSome →
      configTable none env (contents text) = .ok (tableOf env text) := by
    intro env text hsome
    obtain ⟨table, htable⟩ := Option.isSome_iff_exists.1 hsome
    have heq : tableOf env text = table := by simp only [tableOf, htable, Option.getD_some]
    rw [heq]
    exact eq_ok_of_toOption htable
  have hload : loadSettings none wishes full (contents "dry_run=true,marker_tag=\"A\"") = .ok s :=
    eq_ok_of_toOption (by decide +kernel)
  have hfull := htable full "dry_run=true,marker_tag=\"A\"" (by decide +kernel)
  have hsparse := htable sparse "marker_tag=\"A\"" (by decide +kernel)
  have hretagged := htable sparse "marker_tag=\"B\"" (by decide +kernel)
  have hbelow := (loadSettings_precedence hfull (by decide +kernel) hload).2
  have hunchanged := (hbelow none wishes sparse _ _ hsparse (by decide +kernel)).1
  have hothers := (hbelow none wishes sparse _ _ hretagged (by decide +kernel)).2
  refine ⟨hload, hunchanged (by decide +kernel) (by decide +kernel), fun s' hload' k hk => ?_⟩
  refine hothers s' hload' k ?_
  revert k
  decide +kernel

end AudioPlan
