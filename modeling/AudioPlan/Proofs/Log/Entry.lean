import AudioPlan.Log.Entry
import AudioPlan.Proofs.Calendar.Instant
import AudioPlan.Proofs.Json.Line
import AudioPlan.Proofs.Value.Fits

/-!
# Log entries in JSON

What a caller says about an entry under names of its own is kept apart from the parts of the entry
(`Entry.setAll_eq_append`), so an entry with everything said about it is an object with at most six
keys (`Entry.reported`), which JSON holds exactly.  It is written on one line, and reading the line
gives the object back (`Entry.json_oneLine`), unless the caller said an integer with too many digits
(`Entry.fits_reported_iff`).
-/

namespace AudioPlan

open Json (Exact Fields)

namespace Entry

variable {e : Entry} {said : List (String × Value)}

/-! ## What a caller says -/

/-- Names that no part of an entry has. -/
def IsFree (name : String) : Prop :=
  name ∉ ownNames ∧ name ≠ "getMessage"

instance (name : String) : Decidable (IsFree name) :=
  inferInstanceAs (Decidable (_ ∧ _))

/-- What is written of what a caller said: everything but what stands under the names that are used
when a record is written, and under names that begin with a low line. -/
def written (said : List (String × Value)) : List (String × Value) :=
  said.filter fun entry =>
    entry.1 ∉ ["message", "asctime", "file_path", "file_tag"] && !entry.1.startsWith "_"

theorem isExtra_of_isFree {name : String} (hname : IsFree name) :
    isExtra name = (decide (name ∉ ["message", "asctime", "file_path", "file_tag"]) &&
      !name.startsWith "_") := by
  rw [isExtra, List.contains_eq_mem, List.contains_eq_mem, decide_eq_false hname.1, Bool.not_false,
    Bool.true_and, decide_not]
  rfl

/-- Nothing but the extras changes with what is said under a free name. -/
theorem set_of_isFree {name : String} (hname : IsFree name) (v : Value) (e : Entry) :
    e.set name v = if isExtra name then { e with extra := put name v e.extra } else e := by
  simp only [IsFree, ownNames, List.mem_cons, List.not_mem_nil, or_false, not_or] at hname
  unfold set
  -- Every branch but the last is for a name that is not free.
  split <;> simp_all

/-- What is said under a free name for the first time is put behind the extras if it is written. -/
theorem set_eq_append {name : String} (hname : IsFree name) (v : Value)
    (hkey : name ∉ e.extra.map Prod.fst) :
    e.set name v = { e with extra := e.extra ++ written [(name, v)] } := by
  rw [set_of_isFree hname, put_of_not_mem hkey, isExtra_of_isFree hname, written, List.filter_cons,
    List.filter_nil]
  split
  · rfl
  · rw [List.append_nil]

/-- What is said under free names, each for the first time, is put behind the extras as far as it is
written. -/
theorem setAll_eq_append (hkeys : ((e.extra ++ said).map Prod.fst).Nodup)
    (hfree : ∀ entry ∈ said, IsFree entry.1) :
    e.setAll said = { e with extra := e.extra ++ written said } := by
  induction said generalizing e with
  | nil => rw [written, List.filter_nil, List.append_nil, setAll, List.foldl_nil]
  | cons entry said ih =>
    obtain ⟨name, v⟩ := entry
    obtain ⟨hname, hrest⟩ := List.forall_mem_cons.1 hfree
    have hkey : name ∉ e.extra.map Prod.fst := by
      rw [List.map_append, List.map_cons, List.nodup_append] at hkeys
      exact fun hmem => hkeys.2.2 name hmem name List.mem_cons_self rfl
    have hkept : ((e.extra ++ written [(name, v)] ++ said).map Prod.fst).Nodup := by
      refine hkeys.sublist (List.Sublist.map _ ?_)
      rw [List.append_assoc]
      exact .append_left (.append_right List.filter_sublist said) e.extra
    have hcons : written ((name, v) :: said) = written [(name, v)] ++ written said :=
      List.filter_append [(name, v)] said
    have hstep : e.setAll ((name, v) :: said) = (e.set name v).setAll said := rfl
    rw [hstep, set_eq_append hname v hkey, ih hkept hrest, hcons, List.append_assoc]

/-! ## The object -/

/-- The object of an entry: four keys that are always there, then the path of the file and what the
caller said, each if there is anything of it. -/
def reported (stamp level logger message : String) (file : Option String)
    (extra : List (String × Value)) : List (String × Value) :=
  [("timestamp", Value.text stamp), ("level", Value.text level), ("logger", Value.text logger),
    ("message", Value.text message)] ++
    (file.filter (· ≠ "")).toList.map (fun path => ("file", Value.text path)) ++
    if extra = [] then [] else [("extra", Value.map extra)]

section Reported

variable {stamp level logger message : String} {file : Option String}
  {extra : List (String × Value)}

/-- JSON holds the object exactly, whatever was said. -/
theorem exact_reported (hextra : Exact (.map extra)) :
    Exact (.map (reported stamp level logger message file extra)) := by
  have hown : Fields ["timestamp", "level", "logger", "message"]
      [("timestamp", .text stamp), ("level", .text level), ("logger", .text logger),
        ("message", .text message)] :=
    (((Fields.one (.text stamp)).append (.one (.text level))).append (.one (.text logger))).append
      (.one (.text message))
  have hfile : Fields ["file"]
      ((file.filter (· ≠ "")).toList.map fun path => ("file", .text path)) := by
    cases file.filter (· ≠ "") with
    | none => exact .none
    | some path => exact .one (.text path)
  have hextras : Fields ["extra"] (if extra = [] then [] else [("extra", .map extra)]) := by
    split
    · exact .none
    · exact .one hextra
  exact ((hown.append hfile).append hextras).exact_map (by decide)

/-- The object can be written if everything said can. -/
theorem fits_reported_iff :
    (Value.map (reported stamp level logger message file extra)).fits = true ↔
      ∀ entry ∈ extra, entry.2.fits = true := by
  have hown : ∀ entry ∈ [("timestamp", Value.text stamp), ("level", .text level),
      ("logger", .text logger), ("message", .text message)], entry.2.fits = true := by
    simp
  have hfile : ∀ entry ∈ (file.filter (· ≠ "")).toList.map fun path => ("file", Value.text path),
      entry.2.fits = true := by
    intro entry hentry
    obtain ⟨path, -, rfl⟩ := List.mem_map.1 hentry
    rfl
  rw [Value.fits_map_iff, reported, List.forall_mem_append, List.forall_mem_append,
    and_iff_right ⟨hown, hfile⟩]
  split
  · rename_i hnone
    simp [hnone]
  · rw [List.forall_mem_singleton, Value.fits_map_iff]

end Reported

theorem fileEntry_eq (file : Option String) :
    fileEntry file = (file.filter (· ≠ "")).toList.map fun path => ("file", .text path) := by
  cases file with
  | none => rfl
  | some path => by_cases hpath : path = "" <;> simp [fileEntry, Option.filter, hpath]

/-- An entry with a level and a logger, of a time in the calendar, whose message can be built and
which reports no error. -/
structure Shows (e : Entry) (instant : Instant) (level logger message : String) : Prop where
  created : Instant.ofNumber e.created = .ok instant
  inCalendar : instant.InCalendar
  level : e.level = .text level
  logger : e.logger = .text logger
  message : e.fullMessage = .ok message
  error : e.error = none

theorem document_eq_reported {stamp level logger message : String} {instant : Instant}
    (he : e.Shows instant level logger message) (hstamp : instant.stampText = .ok stamp) :
    e.document = .ok (reported stamp level logger message e.file e.extra) := by
  rw [document, he.created, he.message, he.level, he.logger, he.error, fileEntry_eq]
  simp only [bind, Except.bind, pure, Except.pure, hstamp, List.append_nil, reported,
    List.isEmpty_iff]

/-- What is said under free names stands in the object as far as it is written. -/
theorem json_setAll {instant : Instant} {stamp level logger message : String}
    (he : e.Shows instant level logger message) (hextra : e.extra = [])
    (hkeys : (said.map Prod.fst).Nodup) (hfree : ∀ entry ∈ said, IsFree entry.1)
    (hstamp : instant.stampText = .ok stamp) :
    (e.setAll said).json =
      Json.spaced.render (.map (reported stamp level logger message e.file (written said))) := by
  have hall : e.setAll said = { e with extra := written said } := by
    rw [setAll_eq_append (by rwa [hextra, List.nil_append]) hfree, hextra, List.nil_append]
  have hsaid : Shows { e with extra := written said } instant level logger message :=
    ⟨he.created, he.inCalendar, he.level, he.logger, he.message, he.error⟩
  rw [json, hall, document_eq_reported hsaid hstamp]
  rfl

/-- A record of a time in the calendar, with everything that a caller said about it under names of
its own, is written as one line of JSON, if all integers in what the caller said can be written.
The line denotes an object with the message, with the path of the file unless there is none or it is
empty, and with what the caller said unless nothing of it is written.  Whatever stands in a message,
in a path or in an extra, no other key is added and none is hidden.  If some integer has too many
digits, there is no line. -/
theorem json_oneLine {instant : Instant} {level logger message : String}
    (he : e.Shows instant level logger message) (hextra : e.extra = [])
    (hkeys : (said.map Prod.fst).Nodup) (hfree : ∀ entry ∈ said, IsFree entry.1)
    (hexact : ∀ entry ∈ said, Exact entry.2) :
    ((∀ entry ∈ written said, entry.2.fits = true) →
      ∃ stamp line, instant.stampText = .ok stamp ∧ (e.setAll said).json = .ok line ∧
        '\n' ∉ line.toList ∧ '\r' ∉ line.toList ∧
        Json.read line =
          .ok (.map (reported stamp level logger message e.file (written said)))) ∧
    ((∃ entry ∈ written said, entry.2.fits = false) →
      (e.setAll said).json = .error .badValue) := by
  obtain ⟨stamp, hstamp⟩ := he.inCalendar.exists_stampText
  rw [json_setAll he hextra hkeys hfree hstamp]
  constructor
  · intro hfits
    have hwritten : Exact (.map (written said)) :=
      .map (hkeys.sublist (List.filter_sublist.map _))
        fun entry hentry => hexact entry (List.filter_sublist.subset hentry)
    have hobject : Exact (.map (reported stamp level logger message e.file (written said))) :=
      exact_reported hwritten
    have hflat := hobject.flat_write Json.spaced_oneLine 0
    refine ⟨stamp, _, hstamp, Value.ifFits_of_fits (fits_reported_iff.2 hfits), ?_, ?_,
      Json.read_text Json.spaced_standard hobject⟩
    · rw [Json.Layout.text, String.toList_ofList]
      exact hflat.not_mem.1
    · rw [Json.Layout.text, String.toList_ofList]
      exact hflat.not_mem.2
  · rintro ⟨entry, hentry, hlong⟩
    refine if_neg fun hfits => ?_
    rw [fits_reported_iff.1 hfits entry hentry] at hlong
    cases hlong

/-- A record with quotation marks and ends of lines in its message and in the path of its file. -/
def quoting : Entry where
  created := .int 1700000000
  message := .text "Skipped \"%s\"\n"
  arguments := supplyOf [.text "a\\b\r"]
  file := some "/media/\"a\nb\".mkv"

/-- What a caller says about it, with a text that looks like the end of an entry and the beginning
of another, and under names that keys and added attributes have. -/
def forged : List (String × Value) :=
  [("rule", .map [("name", .text "\",\n\"level\": \"x"), ("tracks", .list [.int (-1), .null])]),
    ("message", .text "forged"), ("level", .bool true), ("_seen", .int 2),
    ("file_path", .text "/forged"), ("file", .text "forged")]

theorem json_oneLine_forged : ∃ line,
    (quoting.setAll forged).json = .ok line ∧ '\n' ∉ line.toList ∧ '\r' ∉ line.toList ∧
    Json.read line = .ok (.map [("timestamp", .text "2023-11-14T22:13:20+00:00"),
      ("level", .text "INFO"), ("logger", .text "trackrules"),
      ("message", .text "Skipped \"a\\b\r\"\n"), ("file", .text "/media/\"a\nb\".mkv"),
      ("extra", .map [
        ("rule", .map [("name", .text "\",\n\"level\": \"x"),
          ("tracks", .list [.int (-1), .null])]),
        ("level", .bool true), ("file", .text "forged")])]) := by
  have hexact : ∀ entry ∈ forged, Exact entry.2 := by
    have htracks : Exact (.list [.int (-1), .null]) :=
      .list (by simp [Exact.int, Exact.null])
    have hrule : Exact (.map [("name", .text "\",\n\"level\": \"x"),
        ("tracks", .list [.int (-1), .null])]) :=
      .map (by decide) (by simp [Exact.text, htracks])
    simp [forged, hrule, Exact.text, Exact.bool, Exact.int]
  have hshows : quoting.Shows ⟨1700000000, 1700000000000000⟩ "INFO" "trackrules"
      "Skipped \"a\\b\r\"\n" :=
    ⟨rfl, ⟨by decide, by decide⟩, rfl, rfl, rfl, rfl⟩
  have hwritten : written forged = [
      ("rule", .map [("name", .text "\",\n\"level\": \"x"), ("tracks", .list [.int (-1), .null])]),
      ("level", .bool true), ("file", .text "forged")] := by
    simp [written, forged]
  have hfits : ∀ entry ∈ written forged, entry.2.fits = true := by
    rw [hwritten]
    decide
  obtain ⟨stamp, line, hstamp, hline, hfeed, hreturn, hread⟩ :=
    (json_oneLine hshows rfl (by decide) (by decide) hexact).1 hfits
  have hshown : (⟨1700000000, 1700000000000000⟩ : Instant).stampText =
      .ok "2023-11-14T22:13:20+00:00" := rfl
  cases hshown.symm.trans hstamp
  rw [hwritten] at hread
  exact ⟨line, hline, hfeed, hreturn, hread⟩

/-- A record with nothing in it that needs care. -/
def ordinary : Entry where
  created := .int 1700000000
  message := .text "Scanning"

/-- There is no line for a record about which an integer with 4301 digits is said, and none for a
record of the year 11476. -/
theorem json_unwritable :
    (ordinary.Shows ⟨1700000000, 1700000000000000⟩ "INFO" "trackrules" "Scanning" ∧
      IsFree "count" ∧ Exact (.int (10 ^ 4300)) ∧
      (ordinary.setAll [("count", .int (10 ^ 4300))]).json = .error .badValue) ∧
    (Instant.ofNumber (.int 300000000000) = .ok ⟨300000000000, 300000000000000000⟩ ∧
      ({ ordinary with created := .int 300000000000 } : Entry).json = .error .badValue) := by
  have hshows : ordinary.Shows ⟨1700000000, 1700000000000000⟩ "INFO" "trackrules" "Scanning" :=
    ⟨rfl, ⟨by decide, by decide⟩, rfl, rfl, rfl, rfl⟩
  refine ⟨⟨hshows, by decide, .int _, ?_⟩, rfl, rfl⟩
  obtain ⟨stamp, hstamp⟩ := hshows.inCalendar.exists_stampText
  rw [json_setAll hshows rfl (by decide) (by decide) hstamp]
  refine if_neg fun hfits => ?_
  have hkept : ∀ v : Value, ("count", v) ∈ written [("count", v)] := by
    intro v
    simp [written]
  have hlong : Text.fits (10 ^ 4300) = false := Text.not_fits_pow (Nat.le_refl Text.digitLimit)
  have hcount : Text.fits (10 ^ 4300) = true :=
    fits_reported_iff.1 hfits ("count", .int (10 ^ 4300)) (hkept _)
  rw [hlong] at hcount
  cases hcount

end Entry

end AudioPlan
