import AudioPlan.Proofs.Settings.Precedence
import AudioPlan.Proofs.Text.Utf8

/-!
# Errors of settings

Loading settings reports what is wrong with a configuration file or with a value, except where it
faults.  `ConfigFault` lists the reasons for a fault, one constructor each, and
`loadSettings_fault_iff` says that there are no others.

* Before a file is read: its path, or what a tilde in the variable for it stands for.
* While it is read: bytes that are no UTF-8, and a decimal integer with too many digits.
* While settings are chosen: a path in the home of a user who is not known.  A user whose name
  cannot be one is reported instead (`settingPath_fault_iff`).
-/

namespace AudioPlan

variable {f : Fault}

/-! ## Paths in the homes of users -/

namespace Homes

variable {homes : Homes}

/-- A path in the home of a user whose name holds a null character, which no name can. -/
def NamesNobody (p : Path) : Prop :=
  ∃ user rest, p = ⟨.here, .ofList ('~' :: user) :: rest⟩ ∧ '\x00' ∈ user

/-- A path in the home of a user who is not known. -/
def Misses (homes : Homes) (p : Path) : Prop :=
  ∃ user rest, p = ⟨.here, .ofList ('~' :: user) :: rest⟩ ∧ user ≠ [] ∧ '\x00' ∉ user ∧
    homes.users.lookup (.ofList user) = none

theorem find_error_iff {user : List Char} :
    homes.find (.ofList ('~' :: user)) = .error f ↔
      ('\x00' ∈ user ∧ f = .badValue) ∨
        ((user ≠ [] ∧ '\x00' ∉ user ∧ homes.users.lookup (.ofList user) = none) ∧
          f = .unknownUser) := by
  rw [find, String.toList_ofList]
  cases user with
  | nil => simp
  | cons c rest =>
    generalize huser : c :: rest = user
    have hne : user ≠ [] := huser ▸ List.cons_ne_nil c rest
    by_cases hnull : '\x00' ∈ user
    · simp [hnull, hne, eq_comm]
    · cases hhome : homes.users.lookup (.ofList user) with
      | none => simp [hnull, hhome, hne, eq_comm]
      | some home => simp [hnull, hhome, hne]

theorem expand_error_iff {p : Path} :
    homes.expand p = .error f ↔
      (NamesNobody p ∧ f = .badValue) ∨ (homes.Misses p ∧ f = .unknownUser) := by
  have hfind : homes.expand p = .error f ↔ ∃ user rest,
      p = ⟨.here, .ofList ('~' :: user) :: rest⟩ ∧
        homes.find (.ofList ('~' :: user)) = .error f := by
    obtain ⟨root, names⟩ := p
    cases root with
    | here =>
      cases names with
      | nil => simp [expand]
      | cons name rest =>
        -- A user is looked up only where the first name starts with a tilde.
        have htilde : name.startsWith "~" = true ↔ ∃ user, name = .ofList ('~' :: user) := by
          rw [String.startsWith_string_iff]
          constructor
          · rintro ⟨user, huser⟩
            exact ⟨user, by rw [← String.ofList_toList (s := name), ← huser]; rfl⟩
          · rintro ⟨user, rfl⟩
            exact ⟨user, String.toList_ofList.symm⟩
        have hexpand : homes.expand ⟨.here, name :: rest⟩ = .error f ↔
            name.startsWith "~" = true ∧ homes.find name = .error f := by
          simp only [expand]
          split
          · cases homes.find name <;> simp [*, Except.map]
          · simp [*]
        rw [hexpand, htilde]
        constructor
        · rintro ⟨⟨user, rfl⟩, h⟩
          exact ⟨user, rest, rfl, h⟩
        · rintro ⟨user, _, heq, h⟩
          cases heq
          exact ⟨⟨user, rfl⟩, h⟩
    | top | doubleTop => simp [expand]
  rw [hfind]
  simp only [find_error_iff, NamesNobody, Misses]
  constructor
  · rintro ⟨user, rest, hp, ⟨hnull, hf⟩ | ⟨hmissing, hf⟩⟩
    · exact .inl ⟨⟨user, rest, hp, hnull⟩, hf⟩
    · exact .inr ⟨⟨user, rest, hp, hmissing⟩, hf⟩
  · rintro (⟨⟨user, rest, hp, hnull⟩, hf⟩ | ⟨⟨user, rest, hp, hmissing⟩, hf⟩)
    · exact ⟨user, rest, hp, .inl ⟨hnull, hf⟩⟩
    · exact ⟨user, rest, hp, .inr ⟨hmissing, hf⟩⟩

end Homes

section Paths

variable {env : Environment} {name : String}

theorem Environment.path?_eq_error_iff :
    env.path? name = .error f ↔
      ∃ text, env.text? name = some text ∧ env.homes.expand (Path.ofText text) = .error f := by
  rw [path?]
  cases env.text? name with
  | none => simp
  | some text =>
    cases hexpand : env.homes.expand (Path.ofText text) with
    | error g => simp [hexpand, Except.map]
    | ok p => simp [hexpand, Except.map]

theorem Environment.configPath_eq_error_iff :
    env.configPath = .error f ↔ env.path? "TRACKRULES_CONFIG_PATH" = .error f := by
  rw [configPath, bind_eq_error]
  simp [pure, Except.pure]

/-- Where settings are chosen, only a user who is not known makes a path fault. -/
theorem settingPath_fault_iff {α : Type} {path : Except Fault α} :
    settingPath path = .error (.fault f) ↔ path = .error f ∧ f ≠ .badValue := by
  rw [settingPath, mapError_eq_error]
  constructor
  · rintro ⟨g, hg, hfault⟩
    cases g <;> cases hfault <;> exact ⟨hg, nofun⟩
  · rintro ⟨hpath, hf⟩
    refine ⟨f, hpath, ?_⟩
    cases f with
    | badValue => exact absurd rfl hf
    | _ => rfl

theorem settingPath_expand_fault_iff {homes : Homes} {p : Path} :
    settingPath (homes.expand p) = .error (.fault f) ↔ homes.Misses p ∧ f = .unknownUser := by
  rw [settingPath_fault_iff, Homes.expand_error_iff]
  constructor
  · rintro ⟨⟨-, hbad⟩ | hmisses, hf⟩
    · exact absurd hbad hf
    · exact hmisses
  · rintro ⟨hmisses, rfl⟩
    exact ⟨.inr ⟨hmisses, rfl⟩, nofun⟩

theorem settingPath_path?_fault_iff :
    settingPath (env.path? name) = .error (.fault f) ↔
      (∃ text, env.text? name = some text ∧ env.homes.Misses (Path.ofText text)) ∧
        f = .unknownUser := by
  simp only [settingPath_fault_iff, Environment.path?_eq_error_iff]
  constructor
  · rintro ⟨⟨text, htext, hexpand⟩, hf⟩
    have hmisses := settingPath_expand_fault_iff.1 (settingPath_fault_iff.2 ⟨hexpand, hf⟩)
    exact ⟨⟨text, htext, hmisses.1⟩, hmisses.2⟩
  · rintro ⟨⟨text, htext, hmisses⟩, rfl⟩
    exact ⟨⟨text, htext, Homes.expand_error_iff.2 (.inr ⟨hmisses, rfl⟩)⟩, nofun⟩

end Paths

/-! ## The configuration file -/

theorem readTable_fault_iff {path : Path} {content : Except FileCause (List UInt8)} :
    readTable path content = .error (.fault f) ↔
      (content = .error .nullCharacter ∧ f = .badValue) ∨
      (∃ bytes, content = .ok bytes ∧ (∀ cs, Text.encodeUtf8 cs ≠ bytes) ∧ f = .notUtf8) ∨
      ∃ cs, content = .ok (Text.encodeUtf8 cs) ∧
        Toml.read (.ofList cs) = .error .tooManyDigits ∧ f = .badValue := by
  cases content with
  | error cause => cases cause <;> simp [readTable, eq_comm]
  | ok bytes =>
    simp only [ne_eq, Except.ok.injEq, ← Text.decodeUtf8_eq_ok_iff, @eq_comm _ bytes]
    rw [readTable]
    cases hdecoded : Text.decodeUtf8 bytes with
    | error position => simp [hdecoded, eq_comm]
    | ok cs =>
      cases hread : Toml.read (.ofList cs) with
      | ok table => simp [hdecoded, hread]
      | error refusal => cases refusal <;> simp [hdecoded, hread, eq_comm]

/-! ## The choice of settings -/

section Choice

variable {s : Section} {key : String}

theorem Section.get?_ne_fault {α : Type} {expected : String} {decode : Value → Option α} :
    s.get? expected decode key ≠ .error (.fault f) := by
  rw [get?]
  split
  · nofun
  · split <;> nofun

theorem checked_ne_fault {α : Type} {problem? : α → Option SettingProblem} {a : α} :
    checked problem? a ≠ .error (.fault f) := by
  rw [checked]
  split <;> nofun

theorem Section.find_ne_fault {table : Toml.Table} {name : String} :
    Section.find table name ≠ .error (.fault f) := by
  rw [find]
  split <;> nofun

theorem Section.path?_fault_iff {homes : Homes} :
    s.path? homes key = .error (.fault f) ↔
      (∃ text, s.entries.lookup key = some (.text text) ∧ homes.Misses (Path.ofText text)) ∧
        f = .unknownUser := by
  have hkind : s.text? key ≠ .error (.fault f) := get?_ne_fault
  rw [path?, bind_eq_error, or_iff_right hkind]
  have hentry : ∀ text, s.text? key = .ok (some text) ↔
      s.entries.lookup key = some (.text text) := by
    intro text
    rw [text?, get?_eq_ok_iff, ReadAs]
    cases s.entries.lookup key with
    | none => simp
    | some v => cases v <;> simp
  constructor
  · rintro ⟨o, ho, h⟩
    cases o with
    | none => cases h
    | some text =>
      rcases bind_eq_error.1 h with h | ⟨_, -, h⟩
      · obtain ⟨hmisses, rfl⟩ := settingPath_expand_fault_iff.1 h
        exact ⟨⟨text, (hentry text).1 ho, hmisses⟩, rfl⟩
      · cases h
  · rintro ⟨⟨text, htext, hmisses⟩, rfl⟩
    exact ⟨some text, (hentry text).2 htext,
      bind_eq_error.2 (.inl (settingPath_expand_fault_iff.2 ⟨hmisses, rfl⟩))⟩

/-- Of a variable and an entry of the configuration file, the first that cannot be read names a path
in the home of a user who is not known. -/
def MissesHome (env : Environment) (name : String) (s : Section) (key : String) : Prop :=
  (∃ text, env.text? name = some text ∧ env.homes.Misses (Path.ofText text)) ∨
    (∃ p, settingPath (env.path? name) = .ok p) ∧
      ∃ text, s.entries.lookup key = some (.text text) ∧ env.homes.Misses (Path.ofText text)

variable {wishes : Wishes} {env : Environment}

theorem chooseLog_fault_iff :
    chooseLog wishes env s = .error (.fault f) ↔
      (∃ level, s.text? "level" = .ok level) ∧ MissesHome env "TRACKRULES_LOG_FILE" s "file" ∧
        f = .unknownUser := by
  simp only [chooseLog, bind_eq_error, Section.text?, Section.flag?, Section.int?,
    Section.get?_ne_fault, settingPath_path?_fault_iff, Section.path?_fault_iff,
    checked_ne_fault, and_false, exists_false, false_or, or_false, MissesHome]
  constructor
  · rintro ⟨level, hlevel, ⟨hmisses, rfl⟩ | ⟨p, hp, hmisses, rfl⟩⟩
    · exact ⟨⟨level, hlevel⟩, .inl hmisses, rfl⟩
    · exact ⟨⟨level, hlevel⟩, .inr ⟨⟨p, hp⟩, hmisses⟩, rfl⟩
  · rintro ⟨⟨level, hlevel⟩, hmisses | ⟨⟨p, hp⟩, hmisses⟩, rfl⟩
    · exact ⟨level, hlevel, .inl ⟨hmisses, rfl⟩⟩
    · exact ⟨level, hlevel, .inr ⟨p, hp, hmisses, rfl⟩⟩

theorem chooseEngine_fault_iff :
    chooseEngine wishes env s = .error (.fault f) ↔
      MissesHome env "TRACKRULES_RULES_FILE" s "rules_file" ∧ f = .unknownUser := by
  simp only [chooseEngine, bind_eq_error, Section.text?, Section.flag?,
    Section.get?_ne_fault, settingPath_path?_fault_iff, Section.path?_fault_iff,
    checked_ne_fault, and_false, exists_false, or_false, MissesHome]
  constructor
  · rintro (⟨hmisses, rfl⟩ | ⟨p, hp, hmisses, rfl⟩)
    · exact ⟨.inl hmisses, rfl⟩
    · exact ⟨.inr ⟨⟨p, hp⟩, hmisses⟩, rfl⟩
  · rintro ⟨hmisses | ⟨⟨p, hp⟩, hmisses⟩, rfl⟩
    · exact .inl ⟨hmisses, rfl⟩
    · exact .inr ⟨p, hp, hmisses, rfl⟩

end Choice

/-! ## Loading -/

variable {asked : Option Path} {wishes : Wishes} {env : Environment}
  {contents : Path → Except FileCause (List UInt8)}

/-- The reasons for which loading settings faults. -/
inductive ConfigFault (asked : Option Path) (wishes : Wishes) (env : Environment)
    (contents : Path → Except FileCause (List UInt8)) : Fault → Prop where
  /-- No file is asked for, and the variable for it is in the home of a user who cannot be. -/
  | configNobody {text : String} (hasked : asked = none)
      (htext : env.text? "TRACKRULES_CONFIG_PATH" = some text)
      (hnobody : Homes.NamesNobody (Path.ofText text)) :
      ConfigFault asked wishes env contents .badValue
  /-- No file is asked for, and the variable for it is in the home of someone unknown. -/
  | configHome {text : String} (hasked : asked = none)
      (htext : env.text? "TRACKRULES_CONFIG_PATH" = some text)
      (hhome : env.homes.Misses (Path.ofText text)) :
      ConfigFault asked wishes env contents .unknownUser
  /-- The path of the file holds a null character. -/
  | nullCharacter {path : Path} (hpath : configFile asked env = .ok path)
      (hcontent : contents path = .error .nullCharacter) :
      ConfigFault asked wishes env contents .badValue
  /-- The file is no UTF-8. -/
  | notUtf8 {path : Path} {bytes : List UInt8} (hpath : configFile asked env = .ok path)
      (hcontent : contents path = .ok bytes) (hbytes : ∀ cs, Text.encodeUtf8 cs ≠ bytes) :
      ConfigFault asked wishes env contents .notUtf8
  /-- The file has a decimal integer that is too long. -/
  | tooManyDigits {path : Path} {cs : List Char} (hpath : configFile asked env = .ok path)
      (hcontent : contents path = .ok (Text.encodeUtf8 cs))
      (hread : Toml.read (.ofList cs) = .error .tooManyDigits) :
      ConfigFault asked wishes env contents .badValue
  /-- Nothing is wrong up to the path for records, which is in the home of someone unknown. -/
  | logHome {table : Toml.Table} {log engine : Section} {level : Option String}
      (htable : configTable asked env contents = .ok table)
      (hlog : Section.find table "logging" = .ok log)
      (hengine : Section.find table "engine" = .ok engine)
      (hlevel : log.text? "level" = .ok level)
      (hhome : MissesHome env "TRACKRULES_LOG_FILE" log "file") :
      ConfigFault asked wishes env contents .unknownUser
  /-- Nothing is wrong up to the path of the rules, which is in the home of someone unknown. -/
  | engineHome {table : Toml.Table} {log engine : Section} {l : LogSettings}
      (htable : configTable asked env contents = .ok table)
      (hlog : Section.find table "logging" = .ok log)
      (hengine : Section.find table "engine" = .ok engine)
      (hchosen : chooseLog wishes env log = .ok l)
      (hhome : MissesHome env "TRACKRULES_RULES_FILE" engine "rules_file") :
      ConfigFault asked wishes env contents .unknownUser

theorem configFile_fault_iff :
    configFile asked env = .error (.fault f) ↔
      asked = none ∧ ∃ text, env.text? "TRACKRULES_CONFIG_PATH" = some text ∧
        ((Homes.NamesNobody (Path.ofText text) ∧ f = .badValue) ∨
          (env.homes.Misses (Path.ofText text) ∧ f = .unknownUser)) := by
  simp only [← Homes.expand_error_iff, ← Environment.path?_eq_error_iff,
    ← Environment.configPath_eq_error_iff]
  cases asked with
  | some path => simp [configFile]
  | none => simp [configFile, mapError_eq_error]

theorem configTable_fault_iff :
    configTable asked env contents = .error (.fault f) ↔
      configFile asked env = .error (.fault f) ∨ ∃ path, configFile asked env = .ok path ∧
        readTable path (contents path) = .error (.fault f) :=
  bind_eq_error

theorem Sources.settings_fault_iff {S : Sources} :
    S.settings = .error (.fault f) ↔ ∃ log engine, Section.find S.table "logging" = .ok log ∧
      Section.find S.table "engine" = .ok engine ∧
        (chooseLog S.wishes S.env log = .error (.fault f) ∨
          ∃ l, chooseLog S.wishes S.env log = .ok l ∧
            chooseEngine S.wishes S.env engine = .error (.fault f)) := by
  have hfind : ∀ {name : String} {P : Prop},
      Section.find S.table name = .error (.fault f) ∨ P ↔ P :=
    or_iff_right Section.find_ne_fault
  simp only [settings, bind_eq_error, hfind, pure, Except.pure, reduceCtorEq, and_false,
    exists_false, or_false]
  constructor
  · rintro ⟨log, hlog, engine, hengine, h⟩
    exact ⟨log, engine, hlog, hengine, h⟩
  · rintro ⟨log, engine, hlog, hengine, h⟩
    exact ⟨log, hlog, engine, hengine, h⟩

/-- Loading settings faults for the reasons that are listed, and for no others: otherwise it gives
settings or reports what is wrong. -/
theorem loadSettings_fault_iff (asked : Option Path) (wishes : Wishes) (env : Environment)
    (contents : Path → Except FileCause (List UInt8)) (f : Fault) :
    loadSettings asked wishes env contents = .error (.fault f) ↔
      ConfigFault asked wishes env contents f := by
  rw [loadSettings_eq_bind, bind_eq_error, configTable_fault_iff]
  simp only [configFile_fault_iff, readTable_fault_iff, Sources.settings_fault_iff,
    chooseLog_fault_iff, chooseEngine_fault_iff]
  constructor
  · rintro ((⟨hasked, text, htext, ⟨hnobody, rfl⟩ | ⟨hhome, rfl⟩⟩ | ⟨path, hpath,
      ⟨hcontent, rfl⟩ | ⟨bytes, hcontent, hbytes, rfl⟩ | ⟨cs, hcontent, hread, rfl⟩⟩) |
        ⟨table, htable, log, engine, hlog, hengine,
          ⟨⟨level, hlevel⟩, hhome, rfl⟩ | ⟨l, hchosen, hhome, rfl⟩⟩)
    · exact .configNobody hasked htext hnobody
    · exact .configHome hasked htext hhome
    · exact .nullCharacter hpath hcontent
    · exact .notUtf8 hpath hcontent hbytes
    · exact .tooManyDigits hpath hcontent hread
    · exact .logHome htable hlog hengine hlevel hhome
    · exact .engineHome htable hlog hengine hchosen hhome
  · intro h
    cases h with
    | configNobody hasked htext hnobody =>
      exact .inl (.inl ⟨hasked, _, htext, .inl ⟨hnobody, rfl⟩⟩)
    | configHome hasked htext hhome => exact .inl (.inl ⟨hasked, _, htext, .inr ⟨hhome, rfl⟩⟩)
    | nullCharacter hpath hcontent => exact .inl (.inr ⟨_, hpath, .inl ⟨hcontent, rfl⟩⟩)
    | notUtf8 hpath hcontent hbytes =>
      exact .inl (.inr ⟨_, hpath, .inr (.inl ⟨_, hcontent, hbytes, rfl⟩)⟩)
    | tooManyDigits hpath hcontent hread =>
      exact .inl (.inr ⟨_, hpath, .inr (.inr ⟨_, hcontent, hread, rfl⟩)⟩)
    | logHome htable hlog hengine hlevel hhome =>
      exact .inr ⟨_, htable, _, _, hlog, hengine, .inl ⟨⟨_, hlevel⟩, hhome, rfl⟩⟩
    | engineHome htable hlog hengine hchosen hhome =>
      exact .inr ⟨_, htable, _, _, hlog, hengine, .inr ⟨_, hchosen, hhome, rfl⟩⟩

/-- A configuration file of one byte that no text starts with. -/
theorem loadSettings_fault_iff_byte :
    loadSettings none {} {} (fun _ => .ok [0xff]) = .error (.fault .notUtf8) := by
  have hbytes : ∀ cs, Text.encodeUtf8 cs ≠ [0xff] := by
    intro cs hcs
    have hdecoded := Text.decodeUtf8_eq_ok_iff.2 hcs
    have hnothing : (Text.decodeUtf8 [0xff]).toOption = none := by decide +kernel
    rw [hdecoded] at hnothing
    cases hnothing
  exact (loadSettings_fault_iff none {} {} _ .notUtf8).2 (.notUtf8 rfl rfl hbytes)

end AudioPlan
