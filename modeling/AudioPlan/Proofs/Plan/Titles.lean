import AudioPlan.Proofs.Plan.Ceilings
import AudioPlan.Proofs.Title.Expansion

/-!
# Titles report the instructions

The codec, the channel count and the bit rate of an output track are found twice, for its
instructions and for the tags of its title.  Both give the same, whatever was cut, forced or kept.

* `NumberShown` is the text of a number, and `NumberReported` the text of the number that an output
  track has, which is either set or left as it is in the source;
* `TagsShow` collects the tags of the output, and `tagReplacements_shows` says what they show;
* `Resolved.Settled.numberReported` is the agreement for one parameter;
* `operationOutput_reports` puts them together for an operation.
-/

namespace AudioPlan

/-! ## Texts of numbers -/

/-- A number in digits. -/
def plainNumber (v : Value) : Except Fault String :=
  v.written

theorem plainNumber_int (n : Int) : plainNumber (.int n) = Text.writeInt n := by
  rw [plainNumber, Value.written, Value.ifFits, Text.writeInt, Value.fits_int]
  rfl

/-- A channel count as people say it. -/
def fancyNumber : Value → Except Fault String
  | .int n => fancyChannels n
  | v => foreignFancy v

/-- A bit rate in thousands. -/
def thousandsNumber : Value → Except Fault String
  | .int n => kilobits n
  | v => foreignKilobits v

/-- An integer in a foreign place is said as a channel count only if it is one or two. -/
theorem foreignFancy_int {n : Int} {s : String} (h : foreignFancy (.int n) = .ok s) :
    n = 1 ∨ n = 2 := by
  by_cases hone : n = 1
  · exact .inl hone
  · by_cases htwo : n = 2
    · exact .inr htwo
    · have hfault : foreignFancy (.int n) = .error .wrongKind := by
        simp [foreignFancy, Value.equalsInt_iff, hone, htwo]
      rw [hfault] at h
      cases h

theorem fancyNumber_of_foreignFancy {v : Value} {s : String} (h : foreignFancy v = .ok s) :
    fancyNumber v = .ok s := by
  cases v with
  | int n =>
    rcases foreignFancy_int h with rfl | rfl
    · exact h
    · exact h
  | _ => exact h

theorem thousandsNumber_of_foreignKilobits {v : Value} {s : String}
    (h : foreignKilobits v = .ok s) : thousandsNumber v = .ok s := by
  cases v with
  | int n => exact nomatch h
  | _ => exact h

/-- The text of a number in one form, none for a number that is missing or zero. -/
inductive NumberShown (v : Value) (form : Value → Except Fault String) : Option String → Prop where
  | filled {s : String} (hgiven : v.given = true) (hform : form v = .ok s) :
      NumberShown v form (some s)
  | unfilled (hgiven : v.given = false) : NumberShown v form none

theorem numberTag_shown {number : Field (Option Int)} {text : Int → Except Fault String}
    {foreign form : Value → Except Fault String} {shown : Option String}
    (h : numberTag number text foreign = .ok shown) (htext : ∀ n, form (.int n) = text n)
    (hforeign : ∀ v s, foreign v = .ok s → form v = .ok s) :
    NumberShown number.optionalIntValue form shown := by
  rw [numberTag.eq_def] at h
  split at h
  · rename_i n
    split at h
    · rename_i hzero
      cases h
      rw [hzero]
      exact .unfilled rfl
    · rename_i hne
      obtain ⟨s, hs, ⟨⟩⟩ := map_eq_ok.1 h
      exact .filled (bne_iff_ne.2 hne) ((htext n).trans hs)
  · cases h
    exact .unfilled rfl
  · rename_i v
    split at h
    · rename_i hgiven
      obtain ⟨s, hs, ⟨⟩⟩ := map_eq_ok.1 h
      exact .filled hgiven (hforeign v s hs)
    · rename_i hgiven
      cases h
      exact .unfilled (Bool.eq_false_iff.2 hgiven)

/-- The text of the number that an output track has, in one form.  The number is the one that is
set; where none is set it is that of the source, and the text is left out only if that is missing or
zero. -/
inductive NumberReported (set : List Value) (source : Value) (form : Value → Except Fault String) :
    Option String → Prop where
  | set {n : Int} {s : String} (hset : set = [.int n]) (hform : form (.int n) = .ok s) :
      NumberReported set source form (some s)
  | source {s : String} (hset : set = []) (hgiven : source.given = true)
      (hform : form source = .ok s) : NumberReported set source form (some s)
  | unfilled (hset : set = []) (hgiven : source.given = false) :
      NumberReported set source form none

theorem NumberShown.reported {v : Value} {form : Value → Except Fault String}
    {shown : Option String} (h : NumberShown v form shown) : NumberReported [] v form shown := by
  cases h with
  | filled hgiven hform => exact .source rfl hgiven hform
  | unfilled hgiven => exact .unfilled rfl hgiven

/-! ## The tags of the output -/

/-- The tags of the output show a codec, in both letter cases, and two numbers, in two forms
each. -/
structure TagsShow (tags : List Replacement) (codec : String)
    (Channels BitRate : (Value → Except Fault String) → Option String → Prop) : Prop where
  lowerCodec : tags.lookup "\x7bo_codec\x7d" = some (some (Text.lowerText codec))
  upperCodec : tags.lookup "\x7bo_CODEC\x7d" = some (some (Text.upperText codec))
  channels : ∃ shown, tags.lookup "\x7bo_channels\x7d" = some shown ∧ Channels plainNumber shown
  fancyChannels : ∃ shown, tags.lookup "\x7bo_channels_fancy\x7d" = some shown ∧
    Channels fancyNumber shown
  bitRate : ∃ shown, tags.lookup "\x7bo_bitrate\x7d" = some shown ∧ BitRate plainNumber shown
  thousandsBitRate : ∃ shown, tags.lookup "\x7bo_bitrate_kbps\x7d" = some shown ∧
    BitRate thousandsNumber shown

theorem TagsShow.imp {tags : List Replacement} {codec : String}
    {Channels BitRate Channels' BitRate' : (Value → Except Fault String) → Option String → Prop}
    (h : TagsShow tags codec Channels BitRate)
    (hchannels : ∀ form shown, Channels form shown → Channels' form shown)
    (hbitRate : ∀ form shown, BitRate form shown → BitRate' form shown) :
    TagsShow tags codec Channels' BitRate' where
  lowerCodec := h.lowerCodec
  upperCodec := h.upperCodec
  channels := h.channels.imp fun _ => And.imp_right (hchannels _ _)
  fancyChannels := h.fancyChannels.imp fun _ => And.imp_right (hchannels _ _)
  bitRate := h.bitRate.imp fun _ => And.imp_right (hbitRate _ _)
  thousandsBitRate := h.thousandsBitRate.imp fun _ => And.imp_right (hbitRate _ _)

/-- What the tags of the output show. -/
theorem tagReplacements_shows {t : Track} {operation : Option Operation}
    {outputChannels outputBitRate : Field (Option Int)} {tags : List Replacement}
    (h : tagReplacements t operation outputChannels outputBitRate = .ok tags) :
    ∃ codec, outputCodec t operation = .ok codec ∧ TagsShow tags codec
      (NumberShown (shownChannels t operation outputChannels).optionalIntValue)
      (NumberShown outputBitRate.optionalIntValue) := by
  rw [tagReplacements] at h
  obtain ⟨language, -, h⟩ := bind_eq_ok.1 h
  obtain ⟨codec, -, h⟩ := bind_eq_ok.1 h
  obtain ⟨newCodec, hnewCodec, h⟩ := bind_eq_ok.1 h
  obtain ⟨inChannels, -, h⟩ := bind_eq_ok.1 h
  obtain ⟨inFancy, -, h⟩ := bind_eq_ok.1 h
  obtain ⟨outChannels, houtChannels, h⟩ := bind_eq_ok.1 h
  obtain ⟨outFancy, houtFancy, h⟩ := bind_eq_ok.1 h
  obtain ⟨inBitRate, -, h⟩ := bind_eq_ok.1 h
  obtain ⟨inThousands, -, h⟩ := bind_eq_ok.1 h
  obtain ⟨outBitRate, houtBitRate, h⟩ := bind_eq_ok.1 h
  obtain ⟨outThousands, houtThousands, h⟩ := bind_eq_ok.1 h
  obtain ⟨title, -, h⟩ := bind_eq_ok.1 h
  obtain ⟨layout, -, h⟩ := bind_eq_ok.1 h
  cases h
  exact ⟨newCodec, hnewCodec, {
    lowerCodec := rfl
    upperCodec := rfl
    channels := ⟨_, rfl, numberTag_shown houtChannels plainNumber_int fun _ _ h => h⟩
    fancyChannels := ⟨_, rfl, numberTag_shown houtFancy (fun _ => rfl) fun _ _ =>
      fancyNumber_of_foreignFancy⟩
    bitRate := ⟨_, rfl, numberTag_shown houtBitRate plainNumber_int fun _ _ h => h⟩
    thousandsBitRate := ⟨_, rfl, numberTag_shown houtThousands (fun _ => rfl) fun _ _ =>
      thousandsNumber_of_foreignKilobits⟩ }⟩

/-! ## Agreement -/

theorem Field.optionalIntValue_present (field : Field Int) :
    field.present.optionalIntValue = field.intValue := by
  cases field <;> rfl

section Agreement

variable {source number : Field (Option Int)} {requested ceiling : Option Int}
  {reason : Int → Prop} {r : Resolved (Field (Option Int))}

/-- A title that shows the value of a parameter shows what is set for it.  Where nothing is set, it
may as well show the source. -/
theorem Resolved.Settled.numberReported (hsettled : r.Settled ceiling source reason)
    (hkept : r.Kept source requested)
    (hnumber : number = r.value ∨ r.emit = false ∧ number = source)
    {form : Value → Except Fault String} {shown : Option String}
    (hshown : NumberShown number.optionalIntValue form shown) :
    NumberReported r.told source.optionalIntValue form shown := by
  cases hsettled with
  | @told n note hreason hpos hle =>
    obtain rfl : number = .known (some n) := by
      rcases hnumber with hvalue | ⟨huntold, -⟩
      · exact hvalue
      · cases huntold
    cases hshown with
    | filled hgiven hform => exact .set rfl hform
    | unfilled hgiven =>
      have hne : n ≠ 0 := by omega
      exact absurd (bne_eq_false_iff_eq.1 hgiven) hne
  | @untold value note hle =>
    -- Nothing is set, so the title shows the source, or nothing where the source has no text.
    obtain ⟨-, hvalue⟩ := hkept rfl
    have hcases : number = source ∨
        number = .known none ∧ source.optionalIntValue.given = false := by
      rcases hnumber with rfl | ⟨-, hsource⟩
      · exact hvalue
      · exact .inl hsource
    rcases hcases with rfl | ⟨rfl, hmissing⟩
    · exact hshown.reported
    · cases hshown with
      | filled hgiven => cases hgiven
      | unfilled => exact .unfilled rfl hmissing

end Agreement

/-- The tags of a transcode operation show the channel count that was resolved, or the source where
that left nothing. -/
theorem shownChannels_transcode {t : Track} {o : TranscodeOperation} {codec : String}
    {channels : Resolved (Field (Option Int))}
    (h : resolveChannelField codec t.channels o.channels = .ok channels)
    (hrequested : ∀ n, o.channels = some n → 0 < n) :
    shownChannels t (some (.transcode o)) channels.value = channels.value ∨
      channels.emit = false ∧
        shownChannels t (some (.transcode o)) channels.value = t.channels.present := by
  have hkept := resolveChannelField_kept h
  cases resolveChannelField_settled h hrequested with
  | told => exact .inl rfl
  | @untold value note =>
    obtain ⟨hnone, -⟩ := hkept rfl
    cases value with
    | foreign v => exact .inl rfl
    | known n =>
      cases n with
      | some n => exact .inl rfl
      | none =>
        refine .inr ⟨rfl, ?_⟩
        rw [shownChannels, hnone]

/-! ## The title of an operation -/

/-- The replacements for the properties in the title of an output track that an operation makes. -/
def Operation.tags (t : Track) : Operation → Except Fault (List Replacement)
  | .copy o => tagReplacements t (some (.copy o)) (.known none) t.bitRate
  | .transcode o => do
    let codec ← targetCodec t o
    let channels ← resolveChannelField codec t.channels o.channels
    let bitRate ← resolveBitRateField codec t.bitRate o.bitRate
    tagReplacements t (some (.transcode o)) channels.value bitRate.value

/-- The tags of the output report the instructions for it.  A copy has the codec, the channel count
and the bit rate of the source; a transcode operation has the codec that is set, and the numbers
that are set or else those of the source. -/
inductive Reports (t : Track) (instructions : List Instruction) (tags : List Replacement) :
    Operation → Prop where
  | copy {o : CopyOperation} {codec : String} (hcodec : t.codecText = .ok codec)
      (hshow : TagsShow tags codec (NumberReported [] t.channels.intValue)
        (NumberReported [] t.bitRate.optionalIntValue)) :
      Reports t instructions tags (.copy o)
  | transcode {o : TranscodeOperation} {codec : String}
      (hcodec : valuesOf .setCodec instructions = [.text codec])
      (hshow : TagsShow tags codec
        (NumberReported (valuesOf .setChannels instructions) t.channels.intValue)
        (NumberReported (valuesOf .setBitRate instructions) t.bitRate.optionalIntValue)) :
      Reports t instructions tags (.transcode o)

theorem reports_copy {t : Track} {o : CopyOperation} {tags : List Replacement}
    (h : (Operation.copy o).tags t = .ok tags) (instructions : List Instruction) :
    Reports t instructions tags (.copy o) := by
  obtain ⟨codec, hcodec, hshow⟩ := tagReplacements_shows h
  have hchannels : (shownChannels t (some (.copy o)) (.known none)).optionalIntValue =
      t.channels.intValue := t.channels.optionalIntValue_present
  rw [hchannels] at hshow
  exact .copy hcodec (hshow.imp (fun _ _ => NumberShown.reported) fun _ _ => NumberShown.reported)

theorem Operation.tags_transcode {t : Track} {o : TranscodeOperation} {codec : String}
    {channels bitRate : Resolved (Field (Option Int))} (hcodec : targetCodec t o = .ok codec)
    (hchannels : resolveChannelField codec t.channels o.channels = .ok channels)
    (hbitRate : resolveBitRateField codec t.bitRate o.bitRate = .ok bitRate) :
    (Operation.transcode o).tags t =
      tagReplacements t (some (.transcode o)) channels.value bitRate.value := by
  simp only [Operation.tags, hcodec, hchannels, hbitRate, bind, Except.bind]

theorem reports_transcode {t : Track} {rule : Rule} {o : TranscodeOperation} {input output : Nat}
    {made : Output} (h : transcodeOutput t rule o input output = .ok made)
    (hchannelsPos : ∀ n, o.channels = some n → 0 < n)
    (hbitRatePos : ∀ n, o.bitRate = some n → 0 < n) {tags : List Replacement}
    (htags : (Operation.transcode o).tags t = .ok tags) :
    Reports t made.instructions tags (.transcode o) := by
  obtain ⟨codec, channels, bitRate, hcodec, hchannels, hbitRate, hsetCodec, hsetChannels,
    hsetBitRate⟩ := transcodeOutput_settings h
  rw [Operation.tags_transcode hcodec hchannels hbitRate] at htags
  obtain ⟨newCodec, hnewCodec, hshow⟩ := tagReplacements_shows htags
  obtain rfl : codec = newCodec := Except.ok.inj (hcodec.symm.trans hnewCodec)
  refine .transcode hsetCodec (hshow.imp (fun form shown hshown => ?_) fun form shown hshown => ?_)
  · rw [hsetChannels, ← Field.optionalIntValue_present]
    exact (resolveChannelField_settled hchannels hchannelsPos).numberReported
      (resolveChannelField_kept hchannels) (shownChannels_transcode hchannels hchannelsPos) hshown
  · rw [hsetBitRate]
    exact (resolveBitRateField_settled hbitRate hbitRatePos).numberReported
      (resolveBitRateField_kept hbitRate) (.inl rfl) hshown

/-- The title that a template gives, and the replacements that are made in it. -/
theorem Titled.exists_tags {t : Track} {rule : Rule} {operation : Operation}
    {channels bitRate : Field (Option Int)} {title : Option Value}
    (h : Titled t rule operation channels bitRate title) {template : String}
    (htemplate : operation.title = some template) (hne : template ≠ "") :
    ∃ groups tags, captureGroups t rule.criteria.title = .ok groups ∧
      tagReplacements t (some operation) channels bitRate = .ok tags ∧
      title = some (.text (String.ofList
        (sanitize (substitute template.toList (titleTable groups tags))))) := by
  cases h with
  | untitled hnone =>
    rw [htemplate, Option.some.injEq] at hnone
    rcases hnone with hnone | hempty
    · cases hnone
    · exact absurd hempty hne
  | titled hother _ htitle =>
    rw [htemplate] at hother
    cases hother
    obtain ⟨groups, tags, hgroups, htags, htext⟩ := expandTitle_eq_ok htitle
    exact ⟨groups, tags, hgroups, htags, by rw [htext]⟩

theorem OperationBlock.exists_tags {t : Track} {rule : Rule} {input output : Nat}
    {operation : Operation} {block : List Instruction}
    (h : OperationBlock t rule input output operation block) {template : String}
    (htemplate : operation.title = some template) (hne : template ≠ "") :
    ∃ groups tags, captureGroups t rule.criteria.title = .ok groups ∧
      operation.tags t = .ok tags ∧
      valuesOf .setTitle block = [.text (String.ofList
        (sanitize (substitute template.toList (titleTable groups tags))))] := by
  cases h with
  | copy htitle =>
    obtain ⟨groups, tags, hgroups, htags, rfl⟩ := htitle.exists_tags htemplate hne
    refine ⟨groups, tags, hgroups, htags, ?_⟩
    simp [valuesOf_append, valuesOf_setting, valuesOf_opening]
  | transcode hcodec hchannels hbitRate htitle =>
    obtain ⟨groups, tags, hgroups, htags, rfl⟩ := htitle.exists_tags htemplate hne
    rw [← Operation.tags_transcode hcodec hchannels hbitRate] at htags
    refine ⟨groups, tags, hgroups, htags, ?_⟩
    simp [valuesOf_append, valuesOf_setting, valuesOf_opening]

/-- The title of an output track reports the instructions for it.  The title is made with the tags
of the operation; those of the output show the codec, the channel count and the bit rate that the
instructions give it. -/
theorem operationOutput_reports {t : Track} {rule : Rule} {operation : Operation}
    {input output : Nat} {made : Output}
    (h : operationOutput t rule operation input output = .ok made)
    (hrequested : ∀ o, operation = .transcode o →
      (∀ n, o.channels = some n → 0 < n) ∧ ∀ n, o.bitRate = some n → 0 < n)
    {template : String} (htemplate : operation.title = some template) (hne : template ≠ "") :
    ∃ groups tags, captureGroups t rule.criteria.title = .ok groups ∧
      operation.tags t = .ok tags ∧
      valuesOf .setTitle made.instructions = [.text (String.ofList
        (sanitize (substitute template.toList (titleTable groups tags))))] ∧
      Reports t made.instructions tags operation := by
  obtain ⟨groups, tags, hgroups, htags, htitle⟩ :=
    (operationOutput_layout h).exists_tags htemplate hne
  refine ⟨groups, tags, hgroups, htags, htitle, ?_⟩
  cases operation with
  | copy o => exact reports_copy htags _
  | transcode o =>
    obtain ⟨hchannels, hbitRate⟩ := hrequested o rfl
    exact reports_transcode h hchannels hbitRate htags

/-- Keeping the codec of a track that is too loud for its encoder, under a new title. -/
def renamedOperation : TranscodeOperation :=
  { codec := "Copy", title := some "{o_CODEC} {o_channels_fancy} {o_bitrate}" }

def renamingRule : Rule :=
  { criteria := { codecs := .all }, operations := [.transcode renamedOperation] }

theorem operationOutput_reports_loud :
    ∃ made groups tags,
      operationOutput loudTrack renamingRule (.transcode renamedOperation) 0 0 = .ok made ∧
      (∀ o, Operation.transcode renamedOperation = .transcode o →
        (∀ n, o.channels = some n → 0 < n) ∧ ∀ n, o.bitRate = some n → 0 < n) ∧
      valuesOf .setTitle made.instructions = [.text "AC3 5.1 640000"] ∧
      captureGroups loudTrack none = .ok groups ∧
      (Operation.transcode renamedOperation).tags loudTrack = .ok tags ∧
      Reports loudTrack made.instructions tags (.transcode renamedOperation) := by
  have hseen :
      (operationOutput loudTrack renamingRule (.transcode renamedOperation) 0 0).toOption.map
        (fun made => (valuesOf .setTitle made.instructions).map Value.toText) =
          some ["AC3 5.1 640000"] := by
    decide +kernel
  obtain ⟨made, hmade, htext⟩ := exists_eq_ok_of_map hseen
  have hrequested : ∀ o, Operation.transcode renamedOperation = .transcode o →
      (∀ n, o.channels = some n → 0 < n) ∧ ∀ n, o.bitRate = some n → 0 < n := by
    rintro _ ⟨⟩
    exact ⟨nofun, nofun⟩
  obtain ⟨groups, tags, hgroups, htags, htitle, hreports⟩ :=
    operationOutput_reports hmade hrequested rfl (by decide)
  have hshown : (valuesOf .setTitle made.instructions).map Value.toText = ["AC3 5.1 640000"] :=
    htext
  rw [htitle, List.map_singleton, List.cons.injEq] at hshown
  rw [show String.ofList _ = _ from hshown.1] at htitle
  exact ⟨made, groups, tags, hmade, hrequested, htitle, hgroups, htags, hreports⟩

end AudioPlan
