import AudioPlan.Command.Program
import AudioPlan.Proofs.Log.Success

/-!
# Variables that are set to nothing

An environment in which a variable is empty, beside the same environment without that variable
(`EmptyForUnset`).  A text or a path is read alike from both, so the settings are the same but for
one of them: whether plans are only made.  The variable for that one counts as set when it is empty,
so it takes the place of what the configuration file says (`loadSettings_empty_iff`).

* `EmptyForUnset` holds the lemmas for the single variables and for the two halves of the settings;
* `Settings.wishedOnly` are the settings in which the variable for dry runs is empty;
* `run_settingsFor` says that the program works with the settings that `loadSettings` gives.
-/

namespace AudioPlan

/-- The variable that says whether plans are only made. -/
def dryRunVariable : String := "TRACKRULES_DRY_RUN"

/-- Two environments that differ in one variable only, which is empty in the one and not set in the
other. -/
structure EmptyForUnset (name : String) (empty unset : Environment) : Prop where
  homes : empty.homes = unset.homes
  empty_get? : empty.get? name = some ""
  unset_get? : unset.get? name = none
  others : ∀ other, other ≠ name → empty.get? other = unset.get? other

/-- The settings without what anyone but the caller says about dry runs. -/
def EngineSettings.wishedOnly (wishes : Wishes) (s : EngineSettings) : EngineSettings :=
  { s with dryRun := wishes.dryRun.getD false }

/-- The settings without what anyone but the caller says about dry runs. -/
def Settings.wishedOnly (wishes : Wishes) (s : Settings) : Settings :=
  { s with engine := s.engine.wishedOnly wishes }

namespace EmptyForUnset

variable {name : String} {empty unset : Environment} (h : EmptyForUnset name empty unset)
include h

/-! ## Single variables -/

/-- As text, an empty variable counts as not set. -/
theorem text?_eq (other : String) : empty.text? other = unset.text? other := by
  rw [Environment.text?, Environment.text?]
  by_cases hname : other = name
  · rw [hname, h.empty_get?, h.unset_get?]
    rfl
  · rw [h.others other hname]

theorem path?_eq (other : String) : empty.path? other = unset.path? other := by
  rw [Environment.path?, Environment.path?, h.text?_eq, h.homes]

theorem flag?_eq {other : String} (hname : other ≠ name) :
    empty.flag? other = unset.flag? other := by
  rw [Environment.flag?, Environment.flag?, h.others other hname]

theorem configFile_eq (asked : Option Path) : configFile asked empty = configFile asked unset := by
  cases asked with
  | some path => rfl
  | none =>
    rw [configFile, configFile, Environment.configPath, Environment.configPath, h.path?_eq,
      Environment.usualConfig, Environment.usualConfig, h.homes]

/-! ## The settings -/

theorem chooseLog_eq (wishes : Wishes) (file : Section) :
    chooseLog wishes empty file = chooseLog wishes unset file := by
  simp only [chooseLog, h.path?_eq, h.homes, h.text?_eq]

theorem chooseEngine_eq (hname : name ≠ dryRunVariable) (wishes : Wishes) (file : Section) :
    chooseEngine wishes empty file = chooseEngine wishes unset file := by
  have hflag : empty.flag? "TRACKRULES_DRY_RUN" = unset.flag? "TRACKRULES_DRY_RUN" :=
    h.flag?_eq hname.symm
  simp only [chooseEngine, h.path?_eq, h.homes, h.text?_eq, hflag]

theorem loadSettings_eq (hname : name ≠ dryRunVariable) (asked : Option Path) (wishes : Wishes)
    (contents : Path → Except FileCause (List UInt8)) :
    loadSettings asked wishes empty contents = loadSettings asked wishes unset contents := by
  simp only [loadSettings, chooseSettings, h.configFile_eq, h.chooseLog_eq,
    h.chooseEngine_eq hname]

end EmptyForUnset

/-- Whether plans are only made makes no difference to what is wrong with settings. -/
theorem checked_wishedOnly (wishes : Wishes) (s : EngineSettings) :
    EngineSettings.wishedOnly wishes <$> checked EngineSettings.problem? s =
      checked EngineSettings.problem? (s.wishedOnly wishes) := by
  have hproblem : EngineSettings.problem? (s.wishedOnly wishes) = EngineSettings.problem? s := rfl
  rw [checked, checked, hproblem]
  cases EngineSettings.problem? s with
  | none => rfl
  | some problem => rfl

/-- What the caller says about dry runs stands above all other sources. -/
theorem wishedOnly_chooseEngine {wishes : Wishes} (hwish : wishes.dryRun ≠ none)
    (env : Environment) (file : Section) :
    EngineSettings.wishedOnly wishes <$> chooseEngine wishes env file =
      chooseEngine wishes env file := by
  obtain ⟨b, hb⟩ := Option.ne_none_iff_exists'.1 hwish
  simp only [chooseEngine, map_bind, checked_wishedOnly, EngineSettings.wishedOnly, hb, choose,
    Option.some_or, Option.getD_some]

theorem wishedOnly_loadSettings {wishes : Wishes} (hwish : wishes.dryRun ≠ none)
    (asked : Option Path) (env : Environment)
    (contents : Path → Except FileCause (List UInt8)) :
    Settings.wishedOnly wishes <$> loadSettings asked wishes env contents =
      loadSettings asked wishes env contents := by
  simp only [loadSettings, chooseSettings, map_bind, map_pure]
  refine bind_congr fun path => bind_congr fun table => bind_congr fun log =>
    bind_congr fun engine => bind_congr fun chosen => ?_
  calc chooseEngine wishes env engine >>= (fun s => pure (Settings.wishedOnly wishes ⟨chosen, s⟩))
    _ = EngineSettings.wishedOnly wishes <$> chooseEngine wishes env engine >>=
        (fun s => pure ⟨chosen, s⟩) :=
      (bind_map_left _ _ fun s => pure (⟨chosen, s⟩ : Settings)).symm
    _ = chooseEngine wishes env engine >>= (fun s => pure ⟨chosen, s⟩) := by
      rw [wishedOnly_chooseEngine hwish]

theorem Settings.wishedOnly_eq_self_iff {wishes : Wishes} (hwish : wishes.dryRun = none)
    (s : Settings) : s.wishedOnly wishes = s ↔ s.engine.dryRun = false := by
  obtain ⟨log, rulesFile, dryRun, markerTag⟩ := s
  simp [Settings.wishedOnly, EngineSettings.wishedOnly, hwish, eq_comm]

namespace EmptyForUnset

variable {empty unset : Environment} (h : EmptyForUnset dryRunVariable empty unset)
include h

/-- The empty variable for dry runs takes the place of what the configuration file says. -/
theorem chooseEngine_wishedOnly (wishes : Wishes) (file : Section) :
    chooseEngine wishes empty file =
      EngineSettings.wishedOnly wishes <$> chooseEngine wishes unset file := by
  have hempty : empty.flag? "TRACKRULES_DRY_RUN" = some false := by
    rw [Environment.flag?, show empty.get? "TRACKRULES_DRY_RUN" = some "" from h.empty_get?]
    decide +kernel
  have hchoose : ∀ dryRun : Option Bool,
      choose wishes.dryRun (some false) dryRun false = wishes.dryRun.getD false := by
    intro dryRun
    cases wishes.dryRun with
    | none => rfl
    | some b => rfl
  simp only [chooseEngine, h.path?_eq, h.homes, h.text?_eq, hempty, hchoose, map_bind,
    checked_wishedOnly]
  rfl

theorem loadSettings_wishedOnly (asked : Option Path) (wishes : Wishes)
    (contents : Path → Except FileCause (List UInt8)) :
    loadSettings asked wishes empty contents =
      Settings.wishedOnly wishes <$> loadSettings asked wishes unset contents := by
  simp only [loadSettings, chooseSettings, h.configFile_eq, h.chooseLog_eq,
    h.chooseEngine_wishedOnly, map_bind, bind_map_left]
  rfl

end EmptyForUnset

/-! ## Loading -/

/-- The program works with the settings that are loaded from its files. -/
theorem run_settingsFor (env : Environment) (request : ProgramRequest) (s : Scene) :
    (settingsFor env request).run.run s =
      (requireSettings (loadSettings request.config request.wishes env s.disk.read)).run.run s := by
  rw [settingsFor, loadSettings]
  cases configFile request.config env with
  | error e => rfl
  | ok path => rfl

/-- What is loaded while a variable is empty differs from what is loaded while it is not set in one
case only: the variable is the one for dry runs, the caller says nothing about them, and the
configuration file asks for one.  The settings then ask for none. -/
theorem loadSettings_empty_iff {name : String} {empty unset : Environment}
    (h : EmptyForUnset name empty unset) (asked : Option Path) (wishes : Wishes)
    (contents : Path → Except FileCause (List UInt8)) :
    (loadSettings asked wishes empty contents = loadSettings asked wishes unset contents ↔
      ¬ (name = dryRunVariable ∧ wishes.dryRun = none ∧ ∃ s,
        loadSettings asked wishes unset contents = .ok s ∧ s.engine.dryRun = true)) ∧
    ∀ s, name = dryRunVariable → wishes.dryRun = none →
      loadSettings asked wishes unset contents = .ok s →
      loadSettings asked wishes empty contents =
        .ok { s with engine := { s.engine with dryRun := false } } := by
  by_cases hname : name = dryRunVariable
  · subst hname
    have hempty := h.loadSettings_wishedOnly asked wishes contents
    by_cases hwish : wishes.dryRun = none
    · rw [hempty]
      cases loadSettings asked wishes unset contents with
      | error e => exact ⟨iff_of_true rfl (by simp), fun s _ _ hs => nomatch hs⟩
      | ok s =>
        have hoff : Settings.wishedOnly wishes s =
            { s with engine := { s.engine with dryRun := false } } := by
          rw [Settings.wishedOnly, EngineSettings.wishedOnly, hwish, Option.getD_none]
        constructor
        · have hsame := Settings.wishedOnly_eq_self_iff hwish s
          show Except.ok (Settings.wishedOnly wishes s) = .ok s ↔ _
          simp [hsame, hwish]
        · rintro _ - - ⟨⟩
          exact congrArg Except.ok hoff
    · rw [hempty, wishedOnly_loadSettings hwish]
      simp [hwish]
  · have hsame := h.loadSettings_eq hname asked wishes contents
    simp [hname, hsame]

/-- A configuration file that asks for dry runs. -/
def dryRunConfig : List UInt8 :=
  Text.encodeUtf8 "[engine]\ndry_run = true\n".toList

/-- With the variable for dry runs empty, what the configuration file asks for is lost. -/
theorem loadSettings_empty_dry_run :
    let unset : Environment := {}
    let empty : Environment := { values := [(dryRunVariable, "")] }
    let contents : Path → Except FileCause (List UInt8) := fun _ => .ok dryRunConfig
    EmptyForUnset dryRunVariable empty unset ∧
      loadSettings none {} unset contents = .ok { engine := { dryRun := true } } ∧
      loadSettings none {} empty contents = .ok { engine := { dryRun := false } } ∧
      loadSettings none {} empty contents ≠ loadSettings none {} unset contents := by
  intro unset empty contents
  have h : EmptyForUnset dryRunVariable empty unset := by
    refine ⟨rfl, rfl, rfl, fun other hother => ?_⟩
    simp [empty, unset, Environment.get?, hother]
  have hunset : loadSettings none {} unset contents = .ok { engine := { dryRun := true } } := by
    exact eq_ok_of_toOption (by decide +kernel)
  obtain ⟨hiff, hvalue⟩ := loadSettings_empty_iff h none {} contents
  refine ⟨h, hunset, hvalue _ rfl rfl hunset, ?_⟩
  rw [ne_eq, hiff, Classical.not_not]
  exact ⟨rfl, rfl, _, hunset, rfl⟩

end AudioPlan
