import AudioPlan.Proofs.Log.Success
import AudioPlan.Settings.Choice

/-!
# The sources of settings

A setting is taken from the first of four sources that has it.  To say so of all settings at once,
every setting gets a name (`Setting`), every source is a function from these names to values
(`Sources`), and a choice between sources is `Option.or`.

* `Sources.first?` is what the first source says that says anything;
* `Sources.Readable` are sources that hold values of the declared kinds only;
* `Reads` is what the readers of single values do, whatever kind they are for;
* `Sources.settings_eq_ok_iff` says when settings are chosen, and which.
-/

namespace AudioPlan

/-! ## Settings by name -/

/-- The settings by name. -/
inductive Setting where
  | level
  | logFile
  | form
  | toErrors
  | maxBytes
  | backups
  | rulesFile
  | dryRun
  | markerTag
  deriving DecidableEq

/-- The kinds of values that settings are declared with. -/
inductive SettingKind where
  | word
  | path
  | flag
  | number

/-- The value of a setting. -/
inductive SettingValue where
  | word (s : String)
  | path (p : Path)
  | flag (b : Bool)
  | number (n : Int)
  deriving DecidableEq

namespace Setting

/-- All settings. -/
def all : List Setting :=
  [.level, .logFile, .form, .toErrors, .maxBytes, .backups, .rulesFile, .dryRun, .markerTag]

theorem mem_all (k : Setting) : k ∈ all := by
  cases k <;> decide

instance (p : Setting → Prop) [DecidablePred p] : Decidable (∀ k, p k) :=
  decidable_of_iff (∀ k ∈ all, p k) ⟨fun h k => h k (mem_all k), fun h k _ => h k⟩

/-- The kind of a setting. -/
def kind : Setting → SettingKind
  | level | form | markerTag => .word
  | logFile | rulesFile => .path
  | toErrors | dryRun => .flag
  | maxBytes | backups => .number

/-- The section of the configuration file that a setting is in. -/
def place : Setting → String
  | level | logFile | form | toErrors | maxBytes | backups => "logging"
  | rulesFile | dryRun | markerTag => "engine"

/-- The key of a setting in its section. -/
def key : Setting → String
  | level => "level"
  | logFile => "file"
  | form => "format"
  | toErrors => "include_stderr"
  | maxBytes => "max_bytes"
  | backups => "backup_count"
  | rulesFile => "rules_file"
  | dryRun => "dry_run"
  | markerTag => "marker_tag"

/-- The variable for a setting, if there is one. -/
def named? : Setting → Option String
  | level => some "TRACKRULES_LOG_LEVEL"
  | logFile => some "TRACKRULES_LOG_FILE"
  | form => some "TRACKRULES_LOG_FORMAT"
  | rulesFile => some "TRACKRULES_RULES_FILE"
  | dryRun => some "TRACKRULES_DRY_RUN"
  | markerTag => some "TRACKRULES_MARKER_TAG"
  | toErrors | maxBytes | backups => none

end Setting

/-- The value of a setting by its name; the paths may be missing. -/
def Settings.value? (s : Settings) : Setting → Option SettingValue
  | .level => some (.word s.log.level)
  | .logFile => s.log.file.map .path
  | .form => some (.word s.log.form)
  | .toErrors => some (.flag s.log.toErrors)
  | .maxBytes => some (.number s.log.maxBytes)
  | .backups => some (.number s.log.backups)
  | .rulesFile => s.engine.rulesFile.map .path
  | .dryRun => some (.flag s.engine.dryRun)
  | .markerTag => some (.word s.engine.markerTag)

/-- What a caller asks for by the name of the setting. -/
def Wishes.value? (w : Wishes) : Setting → Option SettingValue
  | .level => w.level.map .word
  | .logFile => w.logFile.map .path
  | .form => w.form.map .word
  | .rulesFile => w.rulesFile.map .path
  | .dryRun => w.dryRun.map .flag
  | .toErrors | .maxBytes | .backups | .markerTag => none

namespace SettingKind

/-- A path in which a tilde in front can be replaced. -/
def pathOf? (homes : Homes) (text : String) : Option SettingValue :=
  (homes.expand (Path.ofText text)).toOption.map .path

/-- The text of a variable as a value of a kind. -/
def ofText? (homes : Homes) : SettingKind → String → Option SettingValue
  | word, text => some (.word text)
  | path, text => pathOf? homes text
  | flag, text => some (.flag (Environment.trueWords.contains (Text.lowerText text)))
  | number, _ => none

/-- A value of a configuration file as a value of a kind. -/
def ofValue? (homes : Homes) : SettingKind → Value → Option SettingValue
  | word, .text text => some (.word text)
  | path, .text text => pathOf? homes text
  | flag, .bool b => some (.flag b)
  | number, .int n => some (.number n)
  | _, _ => none

end SettingKind

/-- Settings are what they are setting by setting. -/
theorem Settings.ext_value {s t : Settings} (h : ∀ k, s.value? k = t.value? k) : s = t := by
  obtain ⟨⟨level, file, form, toErrors, maxBytes, backups⟩, ⟨rulesFile, dryRun, markerTag⟩⟩ := s
  obtain ⟨⟨level', file', form', toErrors', maxBytes', backups'⟩,
    ⟨rulesFile', dryRun', markerTag'⟩⟩ := t
  have hpath : Function.Injective SettingValue.path := fun _ _ => SettingValue.path.inj
  have hlevel := h .level
  have hfile := Option.map_injective hpath (h .logFile)
  have hform := h .form
  have htoErrors := h .toErrors
  have hmaxBytes := h .maxBytes
  have hbackups := h .backups
  have hrulesFile := Option.map_injective hpath (h .rulesFile)
  have hdryRun := h .dryRun
  have hmarkerTag := h .markerTag
  simp only [Settings.value?, Option.some.injEq, SettingValue.word.injEq, SettingValue.flag.injEq,
    SettingValue.number.injEq] at *
  subst_vars
  rfl

/-! ## Sources -/

/-- The sources of settings above the defaults. -/
structure Sources where
  wishes : Wishes
  env : Environment
  /-- What the configuration file holds. -/
  table : Toml.Table

namespace Sources

/-- The text of the variable for a setting. -/
def text? (S : Sources) (k : Setting) : Option String :=
  k.named?.bind S.env.get?

/-- The value for a setting in the configuration file. -/
def raw? (S : Sources) (k : Setting) : Option Value :=
  match S.table.lookup k.place with
  | some (.map entries) => entries.lookup k.key
  | _ => none

/-- What the environment says of a setting. -/
def outside? (S : Sources) (k : Setting) : Option SettingValue :=
  (S.text? k).bind (k.kind.ofText? S.env.homes)

/-- What the configuration file says of a setting. -/
def filed? (S : Sources) (k : Setting) : Option SettingValue :=
  (S.raw? k).bind (k.kind.ofValue? S.env.homes)

/-- What the first source says that says anything, the default being the last. -/
def first? (S : Sources) (k : Setting) : Option SettingValue :=
  (((S.wishes.value? k).or (S.outside? k)).or (S.filed? k)).or (({} : Settings).value? k)

/-- What the sources hold for a setting is of the declared kind, whether it counts or not. -/
structure ReadableAt (S : Sources) (k : Setting) : Prop where
  outside : ∀ text, S.text? k = some text → ∃ x, k.kind.ofText? S.env.homes text = some x
  filed : ∀ v, S.raw? k = some v → ∃ x, k.kind.ofValue? S.env.homes v = some x

/-- All that the sources hold is of the declared kinds. -/
structure Readable (S : Sources) : Prop where
  tables : ∀ (k : Setting) v, S.table.lookup k.place = some v → ∃ entries, v = .map entries
  settings : ∀ k, S.ReadableAt k

/-- No variable for a setting is empty. -/
def NothingEmpty (S : Sources) : Prop :=
  ∀ k, S.text? k ≠ some ""

instance (S : Sources) : Decidable S.NothingEmpty :=
  inferInstanceAs (Decidable (∀ k, S.text? k ≠ some ""))

/-- The settings that are chosen. -/
def settings (S : Sources) : Except SettingError Settings := do
  let log ← Section.find S.table "logging"
  let engine ← Section.find S.table "engine"
  return { log := ← chooseLog S.wishes S.env log, engine := ← chooseEngine S.wishes S.env engine }

theorem readableAt_iff {S : Sources} {k : Setting} :
    S.ReadableAt k ↔ ((S.text? k).isSome → (S.outside? k).isSome) ∧
      ((S.raw? k).isSome → (S.filed? k).isSome) := by
  have hread : ∀ {α : Type} (raw : Option α) (read : α → Option SettingValue),
      (∀ a, raw = some a → ∃ x, read a = some x) ↔ (raw.isSome → (raw.bind read).isSome) := by
    intro α raw read
    cases raw with
    | none => simp
    | some a => simp [Option.isSome_iff_exists]
  rw [outside?, filed?, ← hread, ← hread]
  exact ⟨fun h => ⟨h.outside, h.filed⟩, fun h => ⟨h.1, h.2⟩⟩

theorem readable_iff {S : Sources} :
    S.Readable ↔ ∀ k : Setting, ((S.table.lookup k.place).all fun v => v matches .map _) ∧
      ((S.text? k).isSome → (S.outside? k).isSome) ∧
        ((S.raw? k).isSome → (S.filed? k).isSome) := by
  have htables : ∀ o : Option Value, (∀ v, o = some v → ∃ entries, v = .map entries) ↔
      (o.all fun v => v matches .map _) := by
    intro o
    cases o with
    | none => simp
    | some v => cases v <;> simp
  simp only [← readableAt_iff, ← htables]
  exact ⟨fun h k => ⟨h.tables k, h.settings k⟩, fun h => ⟨fun k => (h k).1, fun k => (h k).2⟩⟩

instance (S : Sources) : Decidable S.Readable :=
  decidable_of_iff _ readable_iff.symm

end Sources

/-! ## Reading one value -/

/-- What may be somewhere is read as `o`: nothing as nothing, and anything else must be readable. -/
def ReadAs {α β : Type} (read : α → Option β) (raw : Option α) (o : Option β) : Prop :=
  raw.map read = o.map some

theorem readAs_iff {α β : Type} {read : α → Option β} {raw : Option α} {o : Option β} :
    ReadAs read raw o ↔ (∀ a, raw = some a → ∃ x, read a = some x) ∧ o = raw.bind read := by
  cases raw with
  | none => cases o <;> simp [ReadAs]
  | some a =>
    cases hread : read a with
    | none => cases o <;> simp [ReadAs, hread]
    | some x => cases o <;> simp [ReadAs, hread, eq_comm]

/-- A reader of settings finds what may be somewhere and reads it as a value of one kind. -/
structure Reads {α β : Type} (reader : Except SettingError (Option α)) (wrap : α → SettingValue)
    (read : β → Option SettingValue) (raw : Option β) : Prop where
  readAs : ∀ o, reader = .ok o → ReadAs read raw (o.map wrap)
  exists_ok : (∀ a, raw = some a → ∃ x, read a = some x) → ∃ o, reader = .ok o

/-- A reader that decodes what it finds and puts the result in a form. -/
theorem reads_of_decode {α β : Type} {reader : Except SettingError (Option α)}
    {wrap : α → SettingValue} {read : β → Option SettingValue} {raw : Option β}
    {decode : β → Option α} (hread : ∀ a, read a = (decode a).map wrap)
    (hreader : ∀ o, reader = .ok o ↔ ReadAs decode raw o) : Reads reader wrap read raw where
  readAs o ho := by
    have hdecode := (readAs_iff.1 ((hreader o).1 ho))
    refine readAs_iff.2 ⟨fun a ha => ?_, ?_⟩
    · obtain ⟨x, hx⟩ := hdecode.1 a ha
      exact ⟨wrap x, by rw [hread, hx, Option.map_some]⟩
    · rw [hdecode.2, Option.map_bind]
      exact congrArg raw.bind (funext fun a => (hread a).symm)
  exists_ok hraw := by
    refine ⟨raw.bind decode, (hreader _).2 (readAs_iff.2 ⟨fun a ha => ?_, rfl⟩)⟩
    obtain ⟨x, hx⟩ := hraw a ha
    rw [hread, Option.map_eq_some_iff] at hx
    exact hx.imp fun _ h => h.1

theorem settingPath_eq_ok {α : Type} {path : Except Fault α} {p : α} :
    settingPath path = .ok p ↔ path = .ok p :=
  mapError_eq_ok

section Readers

variable {homes : Homes} {s : Section} {key : String}

theorem Section.get?_eq_ok_iff {α : Type} {expected : String} {decode : Value → Option α}
    {o : Option α} :
    s.get? expected decode key = .ok o ↔ ReadAs decode (s.entries.lookup key) o := by
  unfold Section.get? ReadAs
  cases s.entries.lookup key with
  | none => cases o <;> simp
  | some v =>
    cases hdecode : decode v with
    | none => cases o <;> simp [hdecode]
    | some a => cases o <;> simp [hdecode]

theorem Section.text?_reads :
    Reads (s.text? key) .word (SettingKind.word.ofValue? homes) (s.entries.lookup key) :=
  reads_of_decode (fun v => by cases v <;> rfl) fun _ => Section.get?_eq_ok_iff

theorem Section.flag?_reads :
    Reads (s.flag? key) .flag (SettingKind.flag.ofValue? homes) (s.entries.lookup key) :=
  reads_of_decode (fun v => by cases v <;> rfl) fun _ => Section.get?_eq_ok_iff

theorem Section.int?_reads :
    Reads (s.int? key) .number (SettingKind.number.ofValue? homes) (s.entries.lookup key) :=
  reads_of_decode (fun v => by cases v <;> rfl) fun _ => Section.get?_eq_ok_iff

/-- The path that a text denotes, if a tilde in front can be replaced. -/
def expanded? (homes : Homes) (text : String) : Option Path :=
  (homes.expand (Path.ofText text)).toOption

/-- The path that a value of a configuration file denotes. -/
def filedPath? (homes : Homes) : Value → Option Path
  | .text text => expanded? homes text
  | _ => none

theorem Section.path?_eq_ok_iff {o : Option Path} :
    s.path? homes key = .ok o ↔ ReadAs (filedPath? homes) (s.entries.lookup key) o := by
  unfold Section.path? Section.text? Section.get? ReadAs
  cases s.entries.lookup key with
  | none => cases o <;> simp [bind, Except.bind, pure, Except.pure]
  | some v =>
    cases v with
    | text text =>
      show (settingPath (homes.expand (Path.ofText text)) >>= fun p => pure (some p)) = .ok o ↔
        some (expanded? homes text) = o.map some
      rw [bind_eq_ok, expanded?]
      simp only [settingPath_eq_ok]
      cases homes.expand (Path.ofText text) with
      | error fault => cases o <;> simp [Except.toOption]
      | ok p => cases o <;> simp [Except.toOption, pure, Except.pure]
    | _ => cases o <;> simp [filedPath?, bind, Except.bind]

theorem Section.path?_reads :
    Reads (s.path? homes key) .path (SettingKind.path.ofValue? homes) (s.entries.lookup key) :=
  reads_of_decode (fun v => by cases v <;> rfl) fun _ => Section.path?_eq_ok_iff

variable {env : Environment} {name : String}

theorem Environment.text?_eq_get? (hname : env.get? name ≠ some "") :
    env.text? name = env.get? name := by
  unfold Environment.text?
  cases hvalue : env.get? name with
  | none => rfl
  | some value =>
    have hvalue' : value ≠ "" := fun h => hname (by rw [hvalue, h])
    simp [Option.filter, hvalue']

theorem Environment.path?_reads (hname : env.get? name ≠ some "") :
    Reads (settingPath (env.path? name)) .path (SettingKind.path.ofText? env.homes)
      (env.get? name) := by
  have hread : ∀ text, SettingKind.path.ofText? env.homes text =
      (expanded? env.homes text).map .path := fun _ => rfl
  refine reads_of_decode hread fun o => ?_
  rw [settingPath_eq_ok, Environment.path?, Environment.text?_eq_get? hname, ReadAs]
  cases env.get? name with
  | none => cases o <;> simp
  | some value =>
    show (env.homes.expand (Path.ofText value)).map some = .ok o ↔
      some (expanded? env.homes value) = o.map some
    rw [expanded?]
    cases env.homes.expand (Path.ofText value) with
    | error fault => cases o <;> simp [Except.map, Except.toOption]
    | ok p => cases o <;> simp [Except.map, Except.toOption]

end Readers

/-! ## Choosing -/

theorem checked_eq_ok {α : Type} {problem? : α → Option SettingProblem} {a b : α} :
    checked problem? a = .ok b ↔ b = a ∧ problem? a = none := by
  unfold checked
  cases problem? a with
  | none => simp [eq_comm]
  | some problem => simp

section Choose

variable {α : Type} (wrap : α → SettingValue)

theorem map_choose (wished outside filed : Option α) (default : α) :
    some (wrap (choose wished outside filed default)) =
      (((wished.map wrap).or (outside.map wrap)).or (filed.map wrap)).or
        (some (wrap default)) := by
  cases wished <;> cases outside <;> cases filed <;> rfl

theorem map_choose_none (wished outside filed : Option α) :
    (choose (wished.map some) (outside.map some) (filed.map some) none).map wrap =
      ((wished.map wrap).or (outside.map wrap)).or (filed.map wrap) := by
  cases wished <;> cases outside <;> cases filed <;> rfl

end Choose

theorem Section.find_eq_ok_iff {table : Toml.Table} {name : String} {s : Section} :
    Section.find table name = .ok s ↔
      s.name = name ∧ ((table.lookup name = none ∧ s.entries = []) ∨
        table.lookup name = some (.map s.entries)) := by
  obtain ⟨sname, entries⟩ := s
  unfold Section.find
  cases table.lookup name with
  | none =>
    constructor
    · rintro ⟨⟩
      exact ⟨rfl, .inl ⟨rfl, rfl⟩⟩
    · rintro ⟨rfl, ⟨-, rfl⟩ | ⟨⟨⟩⟩⟩
      rfl
  | some v =>
    cases v with
    | map entries' =>
      constructor
      · rintro ⟨⟩
        exact ⟨rfl, .inr rfl⟩
      · rintro ⟨rfl, ⟨⟨⟩, -⟩ | ⟨⟨⟩⟩⟩
        rfl
    | _ =>
      constructor
      · rintro ⟨⟩
      · rintro ⟨-, ⟨⟨⟩, -⟩ | ⟨⟨⟩⟩⟩

namespace Sources

variable {S : Sources} {s : Section}

theorem lookup_of_find {k : Setting} (hs : Section.find S.table k.place = .ok s) :
    s.entries.lookup k.key = S.raw? k := by
  rw [raw?]
  rcases (Section.find_eq_ok_iff.1 hs).2 with ⟨hnone, hempty⟩ | hentries
  · rw [hnone, hempty]
    rfl
  · rw [hentries]

theorem exists_find_iff {name : String} : (∃ s, Section.find S.table name = .ok s) ↔
    ∀ v, S.table.lookup name = some v → ∃ entries, v = .map entries := by
  constructor
  · rintro ⟨s, hs⟩ v hv
    rcases (Section.find_eq_ok_iff.1 hs).2 with ⟨hnone, -⟩ | hentries
    · rw [hnone] at hv
      cases hv
    · rw [hentries] at hv
      exact ⟨s.entries, (Option.some.inj hv).symm⟩
  · intro htable
    cases hlookup : S.table.lookup name with
    | none => exact ⟨⟨name, []⟩, Section.find_eq_ok_iff.2 ⟨rfl, .inl ⟨hlookup, rfl⟩⟩⟩
    | some v =>
      obtain ⟨entries, rfl⟩ := htable v hlookup
      exact ⟨⟨name, entries⟩, Section.find_eq_ok_iff.2 ⟨rfl, .inr hlookup⟩⟩

/-- The readers for the settings in one section of the configuration file. -/
theorem text?_reads {k : Setting} (hs : Section.find S.table k.place = .ok s) :
    Reads (s.text? k.key) .word (SettingKind.word.ofValue? S.env.homes) (S.raw? k) :=
  lookup_of_find hs ▸ Section.text?_reads

theorem flag?_reads {k : Setting} (hs : Section.find S.table k.place = .ok s) :
    Reads (s.flag? k.key) .flag (SettingKind.flag.ofValue? S.env.homes) (S.raw? k) :=
  lookup_of_find hs ▸ Section.flag?_reads

theorem int?_reads {k : Setting} (hs : Section.find S.table k.place = .ok s) :
    Reads (s.int? k.key) .number (SettingKind.number.ofValue? S.env.homes) (S.raw? k) :=
  lookup_of_find hs ▸ Section.int?_reads

theorem path?_reads {k : Setting} (hs : Section.find S.table k.place = .ok s) :
    Reads (s.path? S.env.homes k.key) .path (SettingKind.path.ofValue? S.env.homes) (S.raw? k) :=
  lookup_of_find hs ▸ Section.path?_reads

/-- The readers for the variables of the settings that have one. -/
theorem outside_path_reads (hfull : S.NothingEmpty) {k : Setting} {name : String}
    (hname : k.named? = some name) :
    Reads (settingPath (S.env.path? name)) .path (SettingKind.path.ofText? S.env.homes)
      (S.text? k) := by
  have htext : S.text? k = S.env.get? name := by rw [text?, hname, Option.bind_some]
  rw [htext]
  exact Environment.path?_reads (htext ▸ hfull k)

theorem filed?_eq {α : Type} {k : Setting} {reader : Except SettingError (Option α)}
    {wrap : α → SettingValue} {o : Option α}
    (h : Reads reader wrap (k.kind.ofValue? S.env.homes) (S.raw? k)) (ho : reader = .ok o) :
    S.filed? k = o.map wrap :=
  (readAs_iff.1 (h.readAs o ho)).2.symm

theorem outside?_eq {α : Type} {k : Setting} {reader : Except SettingError (Option α)}
    {wrap : α → SettingValue} {o : Option α}
    (h : Reads reader wrap (k.kind.ofText? S.env.homes) (S.text? k)) (ho : reader = .ok o) :
    S.outside? k = o.map wrap :=
  (readAs_iff.1 (h.readAs o ho)).2.symm

theorem outside?_word (hfull : S.NothingEmpty) {k : Setting} {name : String}
    (hkind : k.kind = .word) (hname : k.named? = some name) :
    S.outside? k = (S.env.text? name).map .word := by
  have htext : S.text? k = S.env.get? name := by rw [text?, hname, Option.bind_some]
  rw [outside?, Environment.text?_eq_get? (htext ▸ hfull k), hkind, htext]
  cases S.env.get? name <;> rfl

theorem outside?_flag {k : Setting} {name : String} (hkind : k.kind = .flag)
    (hname : k.named? = some name) : S.outside? k = (S.env.flag? name).map .flag := by
  have htext : S.text? k = S.env.get? name := by rw [text?, hname, Option.bind_some]
  rw [outside?, Environment.flag?, hkind, htext]
  cases S.env.get? name <;> rfl

/-! ## How records are written -/

section Log

variable (hs : Section.find S.table "logging" = .ok s) (hfull : S.NothingEmpty)

include hs hfull

theorem readableAt_of_chooseLog {l : LogSettings} (h : chooseLog S.wishes S.env s = .ok l)
    {k : Setting} (hk : k.place = "logging") : S.ReadableAt k := by
  obtain ⟨level, hlevel, h⟩ := bind_eq_ok.1 h
  obtain ⟨outsideFile, houtsideFile, h⟩ := bind_eq_ok.1 h
  obtain ⟨file, hfile, h⟩ := bind_eq_ok.1 h
  obtain ⟨form, hform, h⟩ := bind_eq_ok.1 h
  obtain ⟨toErrors, htoErrors, h⟩ := bind_eq_ok.1 h
  obtain ⟨maxBytes, hmaxBytes, h⟩ := bind_eq_ok.1 h
  obtain ⟨backups, hbackups, h⟩ := bind_eq_ok.1 h
  cases k with
  | level =>
    exact ⟨fun _ _ => ⟨_, rfl⟩, (readAs_iff.1 ((text?_reads (k := .level) hs).readAs _ hlevel)).1⟩
  | logFile =>
    exact ⟨(readAs_iff.1 ((outside_path_reads hfull (k := .logFile) rfl).readAs _ houtsideFile)).1,
      (readAs_iff.1 ((path?_reads (k := .logFile) hs).readAs _ hfile)).1⟩
  | form =>
    exact ⟨fun _ _ => ⟨_, rfl⟩, (readAs_iff.1 ((text?_reads (k := .form) hs).readAs _ hform)).1⟩
  | toErrors =>
    exact ⟨nofun, (readAs_iff.1 ((flag?_reads (k := .toErrors) hs).readAs _ htoErrors)).1⟩
  | maxBytes =>
    exact ⟨nofun, (readAs_iff.1 ((int?_reads (k := .maxBytes) hs).readAs _ hmaxBytes)).1⟩
  | backups =>
    exact ⟨nofun, (readAs_iff.1 ((int?_reads (k := .backups) hs).readAs _ hbackups)).1⟩
  | rulesFile | dryRun | markerTag => exact absurd hk (by decide)

/-- Where all can be read, the settings are those of the first sources. -/
theorem exists_chooseLog (hread : ∀ k : Setting, k.place = "logging" → S.ReadableAt k) :
    ∃ l, chooseLog S.wishes S.env s = checked LogSettings.problem? l ∧
      ∀ e (k : Setting), k.place = "logging" → (Settings.mk l e).value? k = S.first? k := by
  have hlevel' := text?_reads (k := .level) hs
  have houtsideFile' := outside_path_reads hfull (k := .logFile) rfl
  have hfile' := path?_reads (k := .logFile) hs
  have hform' := text?_reads (k := .form) hs
  have htoErrors' := flag?_reads (k := .toErrors) hs
  have hmaxBytes' := int?_reads (k := .maxBytes) hs
  have hbackups' := int?_reads (k := .backups) hs
  obtain ⟨level, hlevel⟩ := hlevel'.exists_ok (hread .level rfl).filed
  obtain ⟨outsideFile, houtsideFile⟩ := houtsideFile'.exists_ok (hread .logFile rfl).outside
  obtain ⟨file, hfile⟩ := hfile'.exists_ok (hread .logFile rfl).filed
  obtain ⟨form, hform⟩ := hform'.exists_ok (hread .form rfl).filed
  obtain ⟨toErrors, htoErrors⟩ := htoErrors'.exists_ok (hread .toErrors rfl).filed
  obtain ⟨maxBytes, hmaxBytes⟩ := hmaxBytes'.exists_ok (hread .maxBytes rfl).filed
  obtain ⟨backups, hbackups⟩ := hbackups'.exists_ok (hread .backups rfl).filed
  let chosen : LogSettings := {
    level := choose S.wishes.level (S.env.text? "TRACKRULES_LOG_LEVEL") level "info"
    file := choose (S.wishes.logFile.map some) (outsideFile.map some) (file.map some) none
    form := choose S.wishes.form (S.env.text? "TRACKRULES_LOG_FORMAT") form "text"
    toErrors := toErrors.getD false
    maxBytes := maxBytes.getD 10485760
    backups := backups.getD 5 }
  refine ⟨chosen, ?_, fun e k hk => ?_⟩
  · simp only [Setting.key] at hlevel hfile hform htoErrors hmaxBytes hbackups
    simp only [chooseLog, hlevel, houtsideFile, hfile, hform, htoErrors, hmaxBytes, hbackups, bind,
      Except.bind, chosen]
  · cases k with
    | level =>
      rw [first?, outside?_word hfull (k := .level) rfl rfl, filed?_eq (k := .level) hlevel' hlevel]
      exact map_choose .word _ _ _ _
    | logFile =>
      rw [first?, outside?_eq (k := .logFile) houtsideFile' houtsideFile,
        filed?_eq (k := .logFile) hfile' hfile]
      exact (map_choose_none .path _ _ _).trans Option.or_none.symm
    | form =>
      rw [first?, outside?_word hfull (k := .form) rfl rfl, filed?_eq (k := .form) hform' hform]
      exact map_choose .word _ _ _ _
    | toErrors =>
      rw [first?, filed?_eq (k := .toErrors) htoErrors' htoErrors]
      exact map_choose .flag none none _ _
    | maxBytes =>
      rw [first?, filed?_eq (k := .maxBytes) hmaxBytes' hmaxBytes]
      exact map_choose .number none none _ _
    | backups =>
      rw [first?, filed?_eq (k := .backups) hbackups' hbackups]
      exact map_choose .number none none _ _
    | rulesFile | dryRun | markerTag => exact absurd hk (by decide)

end Log

/-! ## How rules are applied -/

section Engine

variable (hs : Section.find S.table "engine" = .ok s) (hfull : S.NothingEmpty)

include hs hfull

theorem readableAt_of_chooseEngine {e : EngineSettings}
    (h : chooseEngine S.wishes S.env s = .ok e) {k : Setting} (hk : k.place = "engine") :
    S.ReadableAt k := by
  obtain ⟨outsideFile, houtsideFile, h⟩ := bind_eq_ok.1 h
  obtain ⟨file, hfile, h⟩ := bind_eq_ok.1 h
  obtain ⟨dryRun, hdryRun, h⟩ := bind_eq_ok.1 h
  obtain ⟨markerTag, hmarkerTag, h⟩ := bind_eq_ok.1 h
  cases k with
  | rulesFile =>
    have houtside := (outside_path_reads hfull (k := .rulesFile) rfl).readAs _ houtsideFile
    exact ⟨(readAs_iff.1 houtside).1,
      (readAs_iff.1 ((path?_reads (k := .rulesFile) hs).readAs _ hfile)).1⟩
  | dryRun =>
    exact ⟨fun _ _ => ⟨_, rfl⟩, (readAs_iff.1 ((flag?_reads (k := .dryRun) hs).readAs _ hdryRun)).1⟩
  | markerTag =>
    exact ⟨fun _ _ => ⟨_, rfl⟩,
      (readAs_iff.1 ((text?_reads (k := .markerTag) hs).readAs _ hmarkerTag)).1⟩
  | level | logFile | form | toErrors | maxBytes | backups => exact absurd hk (by decide)

/-- Where all can be read, the settings are those of the first sources. -/
theorem exists_chooseEngine (hread : ∀ k : Setting, k.place = "engine" → S.ReadableAt k) :
    ∃ e, chooseEngine S.wishes S.env s = checked EngineSettings.problem? e ∧
      ∀ l (k : Setting), k.place = "engine" → (Settings.mk l e).value? k = S.first? k := by
  have houtsideFile' := outside_path_reads hfull (k := .rulesFile) rfl
  have hfile' := path?_reads (k := .rulesFile) hs
  have hdryRun' := flag?_reads (k := .dryRun) hs
  have hmarkerTag' := text?_reads (k := .markerTag) hs
  obtain ⟨outsideFile, houtsideFile⟩ := houtsideFile'.exists_ok (hread .rulesFile rfl).outside
  obtain ⟨file, hfile⟩ := hfile'.exists_ok (hread .rulesFile rfl).filed
  obtain ⟨dryRun, hdryRun⟩ := hdryRun'.exists_ok (hread .dryRun rfl).filed
  obtain ⟨markerTag, hmarkerTag⟩ := hmarkerTag'.exists_ok (hread .markerTag rfl).filed
  let chosen : EngineSettings := {
    rulesFile := choose (S.wishes.rulesFile.map some) (outsideFile.map some) (file.map some) none
    dryRun := choose S.wishes.dryRun (S.env.flag? "TRACKRULES_DRY_RUN") dryRun false
    markerTag := choose none (S.env.text? "TRACKRULES_MARKER_TAG") markerTag
      Probe.defaultMarkerTag }
  refine ⟨chosen, ?_, fun l k hk => ?_⟩
  · simp only [Setting.key] at hfile hdryRun hmarkerTag
    simp only [chooseEngine, houtsideFile, hfile, hdryRun, hmarkerTag, bind, Except.bind, chosen]
  · cases k with
    | rulesFile =>
      rw [first?, outside?_eq (k := .rulesFile) houtsideFile' houtsideFile,
        filed?_eq (k := .rulesFile) hfile' hfile]
      exact (map_choose_none .path _ _ _).trans Option.or_none.symm
    | dryRun =>
      rw [first?, outside?_flag (k := .dryRun) rfl rfl, filed?_eq (k := .dryRun) hdryRun' hdryRun]
      exact map_choose .flag _ _ _ _
    | markerTag =>
      rw [first?, outside?_word hfull (k := .markerTag) rfl rfl,
        filed?_eq (k := .markerTag) hmarkerTag' hmarkerTag]
      exact map_choose .word none _ _ _
    | level | logFile | form | toErrors | maxBytes | backups => exact absurd hk (by decide)

end Engine

/-! ## All settings -/

/-- Settings are chosen if all can be read and nothing is wrong with the first that the sources
say, also where a source says something that does not count. -/
theorem settings_eq_ok_iff (hfull : S.NothingEmpty) {chosen : Settings} :
    S.settings = .ok chosen ↔ S.Readable ∧ (∀ k, chosen.value? k = S.first? k) ∧
      chosen.log.problem? = none ∧ chosen.engine.problem? = none := by
  have hplace : ∀ k : Setting, k.place = "logging" ∨ k.place = "engine" := by
    intro k
    cases k <;> decide
  constructor
  · intro h
    obtain ⟨log, hlog, h⟩ := bind_eq_ok.1 h
    obtain ⟨engine, hengine, h⟩ := bind_eq_ok.1 h
    obtain ⟨l, hl, h⟩ := bind_eq_ok.1 h
    obtain ⟨e, he, h⟩ := bind_eq_ok.1 h
    cases h
    have hread : S.Readable := by
      refine ⟨fun k => exists_find_iff.1 ?_, fun k => ?_⟩
      · rcases hplace k with hk | hk
        · exact ⟨log, hk ▸ hlog⟩
        · exact ⟨engine, hk ▸ hengine⟩
      · rcases hplace k with hk | hk
        · exact readableAt_of_chooseLog hlog hfull hl hk
        · exact readableAt_of_chooseEngine hengine hfull he hk
    -- What was chosen is the one thing that can be chosen from readable sources.
    obtain ⟨l', hl', hlogged⟩ := exists_chooseLog hlog hfull fun k _ => hread.settings k
    obtain ⟨e', he', happlied⟩ := exists_chooseEngine hengine hfull fun k _ => hread.settings k
    obtain ⟨rfl, hlogSound⟩ := checked_eq_ok.1 (hl'.symm.trans hl)
    obtain ⟨rfl, hengineSound⟩ := checked_eq_ok.1 (he'.symm.trans he)
    exact ⟨hread, fun k => (hplace k).elim (hlogged _ k) (happlied _ k), hlogSound, hengineSound⟩
  · rintro ⟨hread, hvalue, hlogSound, hengineSound⟩
    obtain ⟨log, hlog⟩ := exists_find_iff.2 (hread.tables .level)
    obtain ⟨engine, hengine⟩ := exists_find_iff.2 (hread.tables .dryRun)
    obtain ⟨l, hl, hlogged⟩ := exists_chooseLog hlog hfull fun k _ => hread.settings k
    obtain ⟨e, he, happlied⟩ := exists_chooseEngine hengine hfull fun k _ => hread.settings k
    have hchosen : chosen = ⟨l, e⟩ := Settings.ext_value fun k =>
      (hvalue k).trans ((hplace k).elim (hlogged e k) (happlied l k)).symm
    subst hchosen
    refine bind_eq_ok.2 ⟨log, hlog, bind_eq_ok.2 ⟨engine, hengine, bind_eq_ok.2 ⟨l, ?_,
      bind_eq_ok.2 ⟨e, ?_, rfl⟩⟩⟩⟩
    · exact hl.trans (checked_eq_ok.2 ⟨rfl, hlogSound⟩)
    · exact he.trans (checked_eq_ok.2 ⟨rfl, hengineSound⟩)

end Sources

end AudioPlan
