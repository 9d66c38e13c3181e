import AudioPlan.Plan.Arguments
import AudioPlan.Proofs.Plan.Passthrough
import AudioPlan.Proofs.Plan.Positions
import AudioPlan.Proofs.Text.Decimal
import AudioPlan.Proofs.Text.Search

/-!
# What audio arguments mean

Audio arguments are options with values, read by position.  `-map 0:a:i` appends an output track
made from input track `i`, and an option that ends in `:a:n` sets one attribute of output track `n`.
`readAudio` reads arguments by this rule.  It refuses an option for any but the track appended last,
and an attribute that is set twice.

* `readDirective?_option` reads an option with its value back;
* `readFrom_block` reads a block as one track, `readFrom_blocks` a row of blocks as many;
* `AudioStream.Carries` says that a track has what instructions set, and nothing else;
* `arguments_audio_streams` says that reading the arguments of a plan gives the tracks that the plan
  describes.
-/

namespace AudioPlan

/-! ## Reading arguments -/

/-- What can be set of an output audio track. -/
inductive Attribute where
  | codec
  | channels
  | bitRate
  | language
  | title
  | disposition
  | filter
  deriving Repr, DecidableEq

namespace Attribute

/-- All attributes. -/
def all : List Attribute :=
  [.codec, .channels, .bitRate, .language, .title, .disposition, .filter]

/-- The option that sets an attribute, up to the position of the track. -/
def option : Attribute → String
  | .codec => "-c:a:"
  | .channels => "-ac:a:"
  | .bitRate => "-b:a:"
  | .language | .title => "-metadata:s:a:"
  | .disposition => "-disposition:a:"
  | .filter => "-filter:a:"

/-- What stands in front of the text that is set: the key of an entry of the metadata. -/
def key : Attribute → String
  | .language => "language="
  | .title => "title="
  | _ => ""

/-- The kind of instruction that sets an attribute. -/
def kind : Attribute → InstructionKind
  | .codec => .setCodec
  | .channels => .setChannels
  | .bitRate => .setBitRate
  | .language => .setLanguage
  | .title => .setTitle
  | .disposition => .setDisposition
  | .filter => .setFilter

end Attribute

/-- The position that characters denote, which are decimal digits only. -/
def readPosition? (cs : List Char) : Option Nat :=
  if !cs.isEmpty && cs.all Text.isPlainDigit then some (Text.ofPlainDigits cs) else none

/-- What an option with its value asks for. -/
inductive Directive where
  /-- Appends an output track made from an input track. -/
  | map (source : Nat)
  /-- Sets an attribute of an output track. -/
  | set (what : Attribute) (output : Nat) (text : String)
  deriving Repr, DecidableEq

/-- What an option with its value sets, if it is that of an attribute. -/
def Attribute.read? (a : Attribute) (option value : String) : Option Directive := do
  let position ← Text.dropFront? a.option.toList option.toList
  let text ← Text.dropFront? a.key.toList value.toList
  return .set a (← readPosition? position) (String.ofList text)

/-- What an option with its value asks for, if it is known. -/
def readDirective? (option value : String) : Option Directive :=
  if option = "-map" then do
    let position ← Text.dropFront? "0:a:".toList value.toList
    return .map (← readPosition? position)
  else Attribute.all.findSome? fun a => a.read? option value

/-- An output audio track: its source, and what was set of it in order. -/
structure AudioStream where
  source : Nat
  settings : List (Attribute × String) := []
  deriving Repr, DecidableEq

/-- Carries out a directive on the tracks appended so far, the last one first.  Only the last one
can be set, and each of its attributes once. -/
def Directive.carryOut? : Directive → List AudioStream → Option (List AudioStream)
  | .map source, streams => some ({ source := source } :: streams)
  | .set what output text, s :: earlier =>
    if output = earlier.length ∧ s.settings.lookup what = none then
      some ({ s with settings := s.settings ++ [(what, text)] } :: earlier)
    else none
  | .set _ _ _, [] => none

/-- Reads arguments behind those that appended the given tracks, the last one first. -/
def readFrom (streams : List AudioStream) : List String → Option (List AudioStream)
  | [] => some streams
  | [_] => none
  | option :: value :: rest => do
    let directive ← readDirective? option value
    readFrom (← directive.carryOut? streams) rest

/-- The output audio tracks that arguments describe, in order. -/
def readAudio (arguments : List String) : Option (List AudioStream) :=
  (readFrom [] arguments).map List.reverse

/-- The track has the source and the attributes that instructions set, each once, and no others. -/
structure AudioStream.Carries (s : AudioStream) (instructions : List Instruction) : Prop where
  source_eq : (instructions.filter (·.kind == .mapSource)).map Instruction.input =
    [some (s.source : Int)]
  settings_eq : ∀ a : Attribute,
    (instructions.filter (·.kind == a.kind)).map (·.value.toText) = (s.settings.lookup a).toList

/-! ## Single instructions -/

theorem readPosition?_toDigits (n : Nat) : readPosition? (Nat.toDigits 10 n) = some n := by
  have hall : (Nat.toDigits 10 n).all Text.isPlainDigit = true :=
    List.all_eq_true.2 fun c hc => Text.isPlainDigit_of_mem_toDigits hc
  simp [readPosition?, hall, Nat.toDigits_ne_nil, Text.ofPlainDigits_toDigits]

theorem Attribute.read?_self (a : Attribute) (n : Nat) (text : String) :
    a.read? (a.option ++ toString (n : Int)) (a.key ++ text) = some (.set a n text) := by
  rw [Attribute.read?, String.toList_append, String.toList_append, Text.dropFront?_append,
    Text.dropFront?_append, Text.toList_toString_ofNat]
  simp [readPosition?_toDigits]

theorem Attribute.mem_all (a : Attribute) : a ∈ all := by
  cases a <;> decide

/-- Of two attributes the options differ, or else the keys of their metadata. -/
theorem Attribute.differ_of_ne {a b : Attribute} (hne : a ≠ b) :
    Text.differ b.option.toList a.option.toList = true ∨
      Text.differ b.key.toList a.key.toList = true := by
  have hall : ∀ a ∈ all, ∀ b ∈ all, a ≠ b → (Text.differ b.option.toList a.option.toList ||
      Text.differ b.key.toList a.key.toList) = true := by decide +kernel
  rw [← Bool.or_eq_true]
  exact hall a a.mem_all b b.mem_all hne

theorem Attribute.read?_other {a b : Attribute} (hne : a ≠ b) (position text : String) :
    b.read? (a.option ++ position) (a.key ++ text) = none := by
  rw [Attribute.read?, String.toList_append, String.toList_append]
  rcases differ_of_ne hne with hdiffer | hdiffer
  · rw [Text.dropFront?_of_differ hdiffer]
    rfl
  · rw [Text.dropFront?_of_differ hdiffer]
    cases Text.dropFront? b.option.toList (a.option.toList ++ position.toList) with
    | none => rfl
    | some rest => rfl

/-- The option of an attribute is no other option, whatever its position is. -/
theorem Attribute.option_append_ne (a : Attribute) {option : String}
    (hdiffer : ∀ a ∈ all, Text.differ option.toList a.option.toList = true) (position : String) :
    a.option ++ position ≠ option := by
  intro heq
  have hdrop := Text.dropFront?_of_differ (hdiffer a a.mem_all) position.toList
  have hself := Text.dropFront?_append option.toList []
  rw [List.append_nil] at hself
  rw [← String.toList_append, heq, hself] at hdrop
  cases hdrop

/-- The option of an attribute with a position is read as that attribute and no other. -/
theorem readDirective?_option (a : Attribute) (n : Nat) (text : String) :
    readDirective? (a.option ++ toString (n : Int)) (a.key ++ text) = some (.set a n text) := by
  have hmap : a.option ++ toString (n : Int) ≠ "-map" :=
    a.option_append_ne (by decide +kernel) _
  obtain ⟨front, back, hall⟩ := List.append_of_mem a.mem_all
  have hnodup : (front ++ a :: back).Nodup := hall ▸ (by decide : Attribute.all.Nodup)
  rw [readDirective?, if_neg hmap, List.findSome?_eq_some_iff]
  refine ⟨front, a, back, hall, a.read?_self n text, ?_⟩
  intro b hb
  refine Attribute.read?_other ?_ _ _
  rintro rfl
  rw [List.nodup_append] at hnodup
  exact hnodup.2.2 a hb a List.mem_cons_self rfl

theorem readDirective?_map (n : Nat) :
    readDirective? "-map" ("0:a:" ++ toString (n : Int)) = some (.map n) := by
  unfold readDirective?
  rw [if_pos rfl, String.toList_append, Text.dropFront?_append, Text.toList_toString_ofNat]
  simp [readPosition?_toDigits]

/-- The attribute that a kind of instruction sets, none where a source is mapped. -/
def InstructionKind.attribute? : InstructionKind → Option Attribute
  | .mapSource => none
  | .setCodec => some .codec
  | .setChannels => some .channels
  | .setBitRate => some .bitRate
  | .setLanguage => some .language
  | .setTitle => some .title
  | .setDisposition => some .disposition
  | .setFilter => some .filter

theorem InstructionKind.attribute?_eq_some_iff {kind : InstructionKind} {a : Attribute} :
    kind.attribute? = some a ↔ kind = a.kind := by
  cases kind <;> cases a <;> decide

/-- What an instruction sets. -/
def Instruction.setting? (i : Instruction) : Option (Attribute × String) :=
  i.kind.attribute?.map fun a => (a, i.value.toText)

theorem Instruction.setting?_of_kind {i : Instruction} {a : Attribute} (hkind : i.kind = a.kind) :
    i.setting? = some (a, i.value.toText) := by
  rw [Instruction.setting?, InstructionKind.attribute?_eq_some_iff.2 hkind, Option.map_some]

theorem Instruction.tokens_of_kind {i : Instruction} {a : Attribute} (hkind : i.kind = a.kind) :
    i.tokens = [a.option ++ toString i.output, a.key ++ i.value.toText] := by
  unfold Instruction.tokens
  rw [hkind]
  cases a <;> simp [Attribute.kind, Attribute.option, Attribute.key, toString]

/-- An instruction maps a source, or it is the option of an attribute with its value. -/
theorem Instruction.tokens_cases (i : Instruction) :
    (i.kind = .mapSource ∧ i.tokens = ["-map", "0:a:" ++ i.inputText]) ∨
      ∃ a : Attribute, i.kind = a.kind ∧
        i.tokens = [a.option ++ toString i.output, a.key ++ i.value.toText] := by
  cases hattribute : i.kind.attribute? with
  | none =>
    have hkind : i.kind = .mapSource := by
      revert hattribute
      cases i.kind <;> simp [InstructionKind.attribute?]
    refine .inl ⟨hkind, ?_⟩
    rw [Instruction.tokens, hkind]
  | some a =>
    rw [InstructionKind.attribute?_eq_some_iff] at hattribute
    exact .inr ⟨a, hattribute, Instruction.tokens_of_kind hattribute⟩

/-! ## Blocks -/

/-- What an instruction sets goes to the track appended last, if it is for that track and nothing
has set the same attribute before. -/
theorem readFrom_setting {i : Instruction} {a : Attribute} (hkind : i.kind = a.kind)
    {s : AudioStream} {earlier : List AudioStream} (houtput : i.output = earlier.length)
    (hunset : s.settings.lookup a = none) (rest : List String) :
    readFrom (s :: earlier) (i.tokens ++ rest) =
      readFrom ({ s with settings := s.settings ++ [(a, i.value.toText)] } :: earlier) rest := by
  rw [Instruction.tokens_of_kind hkind, houtput, List.cons_append, List.cons_append,
    List.nil_append, readFrom, readDirective?_option]
  simp [Directive.carryOut?, hunset]

/-- Instructions of different kinds all take effect on the track appended last. -/
theorem readFrom_settings {settings : List Instruction} {s : AudioStream}
    {earlier : List AudioStream} (houtput : ∀ i ∈ settings, i.output = earlier.length)
    (hkind : ∀ i ∈ settings, ∃ a : Attribute, i.kind = a.kind)
    (hnodup : (s.settings.map (·.1.kind) ++ settings.map Instruction.kind).Nodup)
    (rest : List String) :
    readFrom (s :: earlier) (settings.flatMap Instruction.tokens ++ rest) =
      readFrom ({ s with settings := s.settings ++ settings.filterMap Instruction.setting? } ::
        earlier) rest := by
  induction settings generalizing s with
  | nil => simp
  | cons i settings ih =>
    obtain ⟨a, ha⟩ := hkind i List.mem_cons_self
    have hunset : s.settings.lookup a = none := by
      rw [List.lookup_eq_none_iff]
      intro p hp
      rw [bne_iff_ne]
      intro heq
      have hdisjoint := (List.nodup_append.1 hnodup).2.2
      refine hdisjoint a.kind ?_ i.kind ?_ ha.symm
      · exact List.mem_map.2 ⟨p, hp, by rw [heq]⟩
      · exact List.mem_cons_self
    rw [List.flatMap_cons, List.append_assoc,
      readFrom_setting ha (houtput i List.mem_cons_self) hunset, ih]
    · simp [Instruction.setting?_of_kind ha]
    · exact fun j hj => houtput j (List.mem_cons_of_mem i hj)
    · exact fun j hj => hkind j (List.mem_cons_of_mem i hj)
    · simpa [← ha] using hnodup

/-- The track that a block with a given source describes. -/
def AudioStream.ofBlock (source : Nat) (block : List Instruction) : AudioStream :=
  { source := source, settings := block.filterMap Instruction.setting? }

theorem settingKinds_attribute {kind : InstructionKind} (h : kind ∈ settingKinds) :
    ∃ a : Attribute, kind = a.kind := by
  cases kind with
  | mapSource => exact absurd h (by decide)
  | setCodec => exact ⟨.codec, rfl⟩
  | setChannels => exact ⟨.channels, rfl⟩
  | setBitRate => exact ⟨.bitRate, rfl⟩
  | setLanguage => exact ⟨.language, rfl⟩
  | setTitle => exact ⟨.title, rfl⟩
  | setDisposition => exact ⟨.disposition, rfl⟩
  | setFilter => exact ⟨.filter, rfl⟩

/-- Reading a block appends the track that it describes. -/
theorem readFrom_block {input output : Nat} {block : List Instruction}
    (h : Block input output block) {streams : List AudioStream} (hlength : streams.length = output)
    (rest : List String) :
    readFrom streams (block.flatMap Instruction.tokens ++ rest) =
      readFrom (AudioStream.ofBlock input block :: streams) rest := by
  have houtput := h.output_eq
  have hnodup := h.kinds_nodup
  cases h with
  | @mk codec settings hsettings =>
    rw [List.flatMap_cons, List.append_assoc]
    have hmap : ∀ more : List String,
        readFrom streams (["-map", "0:a:" ++ toString (input : Int)] ++ more) =
          readFrom ({ source := input } :: streams) more := by
      intro more
      rw [List.cons_append, List.cons_append, List.nil_append, readFrom, readDirective?_map]
      rfl
    have hkind : ∀ i ∈ ({ kind := .setCodec, output := output, value := .text codec } ::
        settings : List Instruction), ∃ a : Attribute, i.kind = a.kind := by
      intro i hi
      rcases List.mem_cons.1 hi with rfl | hi
      · exact ⟨.codec, rfl⟩
      · exact settingKinds_attribute (hsettings.sublist.subset (List.mem_map_of_mem hi))
    refine (hmap _).trans ?_
    rw [readFrom_settings (s := { source := input }) ?_ hkind ?_ rest]
    · rfl
    · intro i hi
      rw [hlength]
      exact houtput i (List.mem_cons_of_mem _ hi)
    · exact (List.nodup_cons.1 hnodup).2

/-- A list of instructions of different kinds has at most one that sets a given attribute, and it is
found among the settings. -/
theorem lookup_settings (a : Attribute) {instructions : List Instruction}
    (hnodup : (instructions.map Instruction.kind).Nodup) :
    (instructions.filter (·.kind == a.kind)).map (·.value.toText) =
      ((instructions.filterMap Instruction.setting?).lookup a).toList := by
  induction instructions with
  | nil => rfl
  | cons i instructions ih =>
    rw [List.map_cons, List.nodup_cons] at hnodup
    by_cases hkind : i.kind = a.kind
    · have hnone : instructions.filter (·.kind == a.kind) = [] := by
        rw [List.filter_eq_nil_iff]
        intro j hj heq
        rw [← hkind, beq_iff_eq] at heq
        exact hnodup.1 (heq ▸ List.mem_map_of_mem hj)
      simp [hkind, hnone, Instruction.setting?_of_kind hkind]
    · rw [List.filter_cons_of_neg (by simpa using hkind), ih hnodup.2, List.filterMap_cons]
      cases hattribute : i.kind.attribute? with
      | none => simp [Instruction.setting?, hattribute]
      | some b =>
        have hne : a ≠ b := by
          rintro rfl
          exact hkind (InstructionKind.attribute?_eq_some_iff.1 hattribute)
        simp [Instruction.setting?, hattribute, List.lookup_cons, beq_false_of_ne hne]

/-- The track that a block describes carries what the block sets. -/
theorem AudioStream.ofBlock_carries {input output : Nat} {block : List Instruction}
    (h : Block input output block) : (AudioStream.ofBlock input block).Carries block := by
  constructor
  · rw [h.filter_mapSource]
    rfl
  · intro a
    exact lookup_settings a h.kinds_nodup

/-! ## Rows of blocks -/

/-- Reading a row of blocks appends one track for each, which carries what its block sets. -/
theorem readFrom_blocks {output : Nat} {sources : List Nat} {row : List Instruction}
    (h : Blocks output sources row) {streams : List AudioStream}
    (hlength : streams.length = output) :
    ∃ made : List AudioStream,
      readFrom streams (row.flatMap Instruction.tokens) = some (made.reverse ++ streams) ∧
      made.length = sources.length ∧
      ∀ (k : Nat) (s : AudioStream), made[k]? = some s →
        s.Carries (row.filter (·.output == ((output + k : Nat) : Int))) := by
  induction h generalizing streams with
  | nil output =>
    refine ⟨[], rfl, rfl, ?_⟩
    intro k s hs
    simp at hs
  | @cons output input sources block others first rest ih =>
    have hnext : (AudioStream.ofBlock input block :: streams).length = output + 1 := by
      rw [List.length_cons, hlength]
    obtain ⟨made, hread, hmade, hcarries⟩ := ih hnext
    refine ⟨AudioStream.ofBlock input block :: made, ?_, ?_, ?_⟩
    · rw [List.flatMap_append, readFrom_block first hlength, hread]
      simp
    · rw [List.length_cons, List.length_cons, hmade]
    · intro k s hs
      cases k with
      | zero =>
        rw [List.getElem?_cons_zero, Option.some.injEq] at hs
        rw [Nat.add_zero, Blocks.filter_first first rest, ← hs]
        exact AudioStream.ofBlock_carries first
      | succ k =>
        rw [List.getElem?_cons_succ] at hs
        rw [Blocks.filter_later first]
        exact hcarries k s hs

/-- The arguments for a plan that changes something can be written, and read by position they
describe as many output tracks as the plan has.  Each has exactly the source and the attributes that
the instructions for that output track carry. -/
theorem arguments_audio_streams {tracks others : List Track} {rs : RuleSet} {plan : Plan}
    (h : (synthesize tracks rs others).outcome = .ok plan) (hchanged : plan.changed = true)
    (marker : Option String) :
    ∃ arguments streams, plan.arguments marker = .ok arguments ∧
      readAudio arguments.audio = some streams ∧ streams.length = plan.outputCount ∧
      ∀ (k : Nat) (s : AudioStream), streams[k]? = some s → s.Carries (plan.forOutput k) := by
  obtain ⟨made, hmade, -, ⟨hunchanged, -⟩ | ⟨passthrough, hpassthrough, rfl⟩⟩ :=
    synthesize_eq_ok h
  · rw [hunchanged] at hchanged
    exact absurd hchanged (by decide)
  · obtain ⟨arguments, harguments, haudio⟩ :=
      Plan.arguments_eq_ok hchanged (passthroughFrom_passes hpassthrough) marker
    have hstart : ([] : List AudioStream).length = 0 := rfl
    obtain ⟨streams, hread, hlength, hcarries⟩ := readFrom_blocks hmade.blocks hstart
    refine ⟨arguments, streams, harguments, ?_, ?_, ?_⟩
    · rw [readAudio, haudio, hread]
      simp
    · rw [hlength]
      exact hmade.blocks.countP_mapSource.symm
    · intro k s hs
      have hstream := hcarries k s hs
      rwa [Nat.zero_add] at hstream

/-- The arguments for a plan that copies a track, drops one and makes one into two. -/
theorem arguments_audio_streams_mixed :
    ∃ plan arguments streams, (synthesize mixedTracks mixedRules []).outcome = .ok plan ∧
      plan.changed = true ∧ plan.arguments none = .ok arguments ∧
      readAudio arguments.audio = some streams ∧ streams.length = plan.outputCount ∧
      ∀ (k : Nat) (s : AudioStream), streams[k]? = some s → s.Carries (plan.forOutput k) := by
  obtain ⟨plan, hplan, hchanged, -⟩ := synthesize_mixed
  obtain ⟨arguments, streams, hstreams⟩ := arguments_audio_streams hplan hchanged none
  exact ⟨plan, arguments, streams, hplan, hchanged, hstreams⟩

example : readAudio ["-map", "0:a:2", "-c:a:0", "ac3", "-metadata:s:a:0", "title=A=B"] =
    some [{ source := 2, settings := [(.codec, "ac3"), (.title, "A=B")] }] := by
  decide +kernel

end AudioPlan
