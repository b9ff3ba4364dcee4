import Stencil.Fault
import Stencil.Proofs.StatedOptions

/-!
# How a mapping is refused as options

A mapping that states no options is refused with a fault of configuration, and yet two kinds of
mappings are not. If the wording of the fault would show a number of too many digits, that number
becomes the fault. If both markers are sequences of one type, be it lists, tuples or bytes, their
entries are taken for texts, and one that is none is asked all the same whether it is a digit.
`ofValue_mapping` gives the exact conditions.
-/

namespace Stencil.Options

open Stencil.Number Stencil.Token

variable {entries : List (Value × Value)} {v a b : Value} {key : String} {o : Options}
  {f : OptionFault}

/-! ### Some of the keys -/

def only (keys : List String) (entries : List (Value × Value)) : List (Value × Value) :=
  entries.filter fun e => keys.any fun k => e.1.same (.text k)

theorem find?_only (keys : List String) :
    Value.find? (only keys entries) key =
      if key ∈ keys then Value.find? entries key else none := by
  have hkey (e : Value × Value) :
      decide ((keys.any fun k => e.1.same (.text k)) = true ∧ e.1.same (.text key) = true) =
        decide (key ∈ keys ∧ e.1.same (.text key) = true) := by
    refine decide_eq_decide.2 (and_congr_left fun he => ?_)
    rw [same_text_iff.1 he, List.any_eq_true]
    simp only [same_text_iff, Value.text.injEq, exists_eq_right']
  simp only [Value.find?, only, List.find?_filter, hkey]
  split_ifs with h
  · simp [h]
  · simp [h]

theorem says_only_iff {α : Type} {keys : List String} {missing : α} {means : Value → α → Prop}
    {a : α} : Says (only keys entries) key missing means a ↔
      if key ∈ keys then Says entries key missing means a else a = missing := by
  unfold Says
  rw [find?_only]
  split_ifs <;> rfl

theorem known_only {keys : List String} (hkeys : ∀ k ∈ keys, k ∈ knownKeys) :
    ∀ e ∈ only keys entries, ∃ k ∈ knownKeys, e.1 = .text k := by
  intro e he
  obtain ⟨k, hk, hsame⟩ := List.any_eq_true.1 (List.mem_filter.1 he).2
  exact ⟨k, hkeys k hk, same_text_iff.1 hsame⟩

theorem exists_stated_take_four_iff : (∃ o, Stated (only (knownKeys.take 4) entries) o) ↔
    ∃ d s paths file, Says entries "dialect" .block NamesDialect d ∧
      Says entries "preamble" "" GivesText s ∧ Says entries "include_paths" [] ListsPaths paths ∧
        Says entries "context_file" none NamesFile file := by
  constructor
  · rintro ⟨o, h⟩
    have hdialect := says_only_iff.1 h.dialect
    have hpreamble := says_only_iff.1 h.preamble
    have hpaths := says_only_iff.1 h.includePaths
    have hfile := says_only_iff.1 h.contextFile
    exact ⟨_, _, _, _, hdialect, hpreamble, hpaths, hfile⟩
  · rintro ⟨d, s, paths, file, hd, hs, hpaths, hfile⟩
    refine ⟨{ dialect := d, preamble := s, includePaths := paths, contextFile := file },
      known_only fun k hk => List.mem_of_mem_take hk, ?_, ?_, ?_, ?_, ?_, ?_, ?_, ?_, ?_⟩
    all_goals rw [says_only_iff]
    · exact hd
    · exact hs
    · exact hpaths
    · exact hfile
    all_goals rfl

theorem exists_stated_take_seven_iff : (∃ o, Stated (only (knownKeys.take 7) entries) o) ↔
    ∃ d s paths file style precision b, Says entries "dialect" .block NamesDialect d ∧
      Says entries "preamble" "" GivesText s ∧ Says entries "include_paths" [] ListsPaths paths ∧
        Says entries "context_file" none NamesFile file ∧
          Says entries "output_style" .expanded NamesStyle style ∧
            Says entries "precision" none GivesPrecision precision ∧
              Says entries "source_comments" false GivesTruth b := by
  constructor
  · rintro ⟨o, h⟩
    have hdialect := says_only_iff.1 h.dialect
    have hpreamble := says_only_iff.1 h.preamble
    have hpaths := says_only_iff.1 h.includePaths
    have hfile := says_only_iff.1 h.contextFile
    have hstyle := says_only_iff.1 h.outputStyle
    have hprecision := says_only_iff.1 h.precision
    have hcomments := says_only_iff.1 h.sourceComments
    exact ⟨_, _, _, _, _, _, _, hdialect, hpreamble, hpaths, hfile, hstyle, hprecision, hcomments⟩
  · rintro ⟨d, s, paths, file, style, n, b, hd, hs, hpaths, hfile, hstyle, hn, hb⟩
    refine ⟨⟨d, s, paths, file, style, n, b, .standard⟩,
      known_only fun k hk => List.mem_of_mem_take hk, ?_, ?_, ?_, ?_, ?_, ?_, ?_, ?_, ?_⟩
    all_goals rw [says_only_iff]
    · exact hd
    · exact hs
    · exact hpaths
    · exact hfile
    · exact hstyle
    · exact hn
    · exact hb
    all_goals rfl

/-! ### The faults of each option -/

theorem readKey_eq_error_iff {α : Type} {missing : α} {read : Value → Except OptionFault α} :
    readKey entries key missing read = .error f ↔
      ∃ v, Value.find? entries key = some v ∧ read v = .error f := by
  unfold readKey
  cases Value.find? entries key <;> simp

theorem checkKeys_eq_error_unshowable_iff : checkKeys entries = .error .unshowable ↔
    ∃ k ∈ unknownKeys entries, k.isShowable = false := by
  simp only [checkKeys, List.isEmpty_iff]
  split_ifs with hnone hall
  · simp [hnone]
  · simpa using List.all_eq_true.1 hall
  · simpa using hall

theorem checkKeys_ne_error_markers {cause : MarkerFault} :
    checkKeys entries ≠ .error (.markers cause) := by
  simp only [checkKeys]
  split_ifs <;> simp

theorem readDialect_eq_error_iff :
    readDialect v = .error f ↔ (∀ d, ¬ NamesDialect v d) ∧ f = refused .dialect v := by
  simp only [← readDialect_eq_ok_iff]
  cases v with
  | dialect d => simp [readDialect]
  | _ =>
    simp only [readDialect]
    split_ifs
    · simp
    · simp
    · simp [eq_comm]

theorem readPreamble_ne_error (hf : f ≠ .preamble) : readPreamble v ≠ .error f := by
  cases v <;> simp [readPreamble, hf.symm]

theorem readIncludePaths_ne_error (hpaths : f ≠ .includePaths) (hentry : f ≠ .includePathsEntry) :
    readIncludePaths v ≠ .error f := by
  have hlist (items : List Value) : readPaths items ≠ .error f := by
    unfold readPaths
    cases items.mapM pathText? <;> simp [hentry.symm]
  unfold readIncludePaths
  split_ifs
  · split
    · exact hlist _
    · exact hlist _
    · simp [hpaths.symm]
  · simp

theorem readContextFile_ne_error (hf : f ≠ .contextFile) : readContextFile v ≠ .error f := by
  unfold readContextFile
  split
  · simp
  · split
    · simp
    · simp [hf.symm]

theorem readOutputStyle_eq_error_iff :
    readOutputStyle v = .error f ↔
      (∀ style, ¬ NamesStyle v style) ∧ f = refused .outputStyle v := by
  simp only [← readOutputStyle_eq_ok_iff]
  cases v with
  | text s =>
    have hshown : refused .outputStyle (.text s) = .outputStyle (.text s) := by
      simp [refused, Value.isShowable]
    rw [hshown]
    simp only [readOutputStyle]
    cases OutputStyle.ofName? s with
    | some style => simp
    | none => simp [eq_comm]
  | _ => simp [readOutputStyle, eq_comm]

theorem readPrecision_ne_error (hf : f ≠ .precision) : readPrecision v ≠ .error f := by
  cases v with
  | integer n =>
    simp only [readPrecision]
    split_ifs <;> simp [hf.symm]
  | _ => simp [readPrecision, hf.symm]

theorem readSourceComments_ne_error (hf : f ≠ .sourceComments) :
    readSourceComments v ≠ .error f := by
  cases v <;> simp [readSourceComments, hf.symm]

theorem refused_eq_unshowable_iff {fault : Value → OptionFault}
    (hfault : fault v ≠ .unshowable) :
    refused fault v = .unshowable ↔ v.isShowable = false := by
  unfold refused
  split_ifs with h <;> simp [h, hfault]

/-! ### Markers that are sequences -/

/-- Whether a value is a sequence of these items and no text; the items of bytes are numbers. -/
inductive IsSequence : String → Value → List Value → Prop
  | bytes (items : List UInt8) : IsSequence "bytes" (.bytes items) (items.map Value.ofByte)
  | list (items : List Value) : IsSequence "list" (.list items) items
  | tuple (items : List Value) : IsSequence "tuple" (.tuple items) items

/-- Whether two values are sequences of one type, of these items. -/
def AreSequences (opening closing : Value) (items items' : List Value) : Prop :=
  ∃ type, IsSequence type opening items ∧ IsSequence type closing items'

/-- Whether, of the two entries that touch the index, one that is no text is asked whether it is a
digit. The second is asked only if the first is none. -/
def AsksNoText (a b : Value) : Prop :=
  (∀ s, a ≠ .text s) ∨ (∃ s, a = .text s ∧ allDigits s = false) ∧ ∀ s, b ≠ .text s

theorem sequenceFault_eq_entryNotText_iff {type : String} :
    sequenceFault type [a, b] = .entryNotText ↔ AsksNoText a b := by
  have hlast : sequenceFault type [b] = .entryNotText ↔ ∀ s, b ≠ .text s := by
    cases b with
    | text t => cases h : allDigits t <;> simp [sequenceFault, h]
    | _ => simp [sequenceFault]
  cases a with
  | text s =>
    cases h : allDigits s with
    | true => simp [sequenceFault, AsksNoText, h]
    | false => simp [sequenceFault, AsksNoText, h, ← hlast]
  | _ => simp [sequenceFault, AsksNoText]

section Sequences

variable {edge : {α : Type} → List α → Option α} {type : String} {items : List Value}

theorem ofValue_of_isSequence (h : IsSequence type v items) :
    Slice.ofValue edge v = .ok (.sequence type (edge items).toList) := by
  cases h <;> rfl

theorem isSequence_of_ofValue {slice : List Value}
    (h : Slice.ofValue edge v = .ok (.sequence type slice)) :
    ∃ items, IsSequence type v items ∧ slice = (edge items).toList := by
  cases v with
  | bytes items =>
    obtain ⟨rfl, rfl⟩ := Slice.sequence.inj (Except.ok.inj h)
    exact ⟨_, .bytes items, rfl⟩
  | list items =>
    obtain ⟨rfl, rfl⟩ := Slice.sequence.inj (Except.ok.inj h)
    exact ⟨_, .list items, rfl⟩
  | tuple items =>
    obtain ⟨rfl, rfl⟩ := Slice.sequence.inj (Except.ok.inj h)
    exact ⟨_, .tuple items, rfl⟩
  | _ => simp [Slice.ofValue] at h

theorem IsSequence.isGiven_iff (h : IsSequence type v items) :
    v.isGiven = true ↔ items ≠ [] := by
  cases h <;> simp [Value.isGiven]

theorem IsSequence.ne_text (h : IsSequence type v items) (s : String) : v ≠ .text s := by
  cases h <;> simp

end Sequences

theorem ofValue_ne_error_entryNotText {edge : {α : Type} → List α → Option α} :
    Slice.ofValue edge v ≠ .error .entryNotText := by
  cases v <;> simp [Slice.ofValue]

theorem readMarkers_eq_error_entryNotText_iff {opening closing : Value} :
    readMarkers opening closing = .error .entryNotText ↔
      ∃ items items' a b, AreSequences opening closing items items' ∧
        items.getLast? = some a ∧ items'.head? = some b ∧ AsksNoText a b := by
  constructor
  · intro h
    unfold readMarkers at h
    split at h
    · simp [bind, Except.bind] at h
    · next hgiven =>
      simp only [bind_eq_error_iff, ofValue_ne_error_entryNotText, false_or] at h
      obtain ⟨left, hleft, right, hright, h⟩ := h
      split at h
      · obtain ⟨cause, -, hcause⟩ := mapError_eq_error_iff.1 h
        simp at hcause
      · split_ifs at h with htype
        · obtain ⟨all, hopening, rfl⟩ := isSequence_of_ofValue hleft
          obtain ⟨all', hclosing, rfl⟩ := isSequence_of_ofValue hright
          subst htype
          have hall : all ≠ [] ∧ all' ≠ [] := by
            rw [← hopening.isGiven_iff, ← hclosing.isGiven_iff]
            simpa using hgiven
          have hlast := List.getLast?_eq_some_getLast hall.1
          have hhead := List.head?_eq_some_head hall.2
          refine ⟨all, all', _, _, ⟨_, hopening, hclosing⟩, hlast, hhead, ?_⟩
          rw [hlast, hhead] at h
          exact sequenceFault_eq_entryNotText_iff.1 (Except.error.inj h)
        · simp at h
      · simp at h
  · rintro ⟨items, items', a, b, ⟨type, hopening, hclosing⟩, ha, hb, hask⟩
    have hitems : items ≠ [] := by
      rintro rfl
      simp at ha
    have hitems' : items' ≠ [] := by
      rintro rfl
      simp at hb
    have hfault : sequenceFault type [a, b] = .entryNotText :=
      sequenceFault_eq_entryNotText_iff.2 hask
    have hleft : Slice.ofValue List.getLast? opening = .ok (.sequence type [a]) := by
      rw [ofValue_of_isSequence hopening, ha, Option.toList_some]
    have hright : Slice.ofValue List.head? closing = .ok (.sequence type [b]) := by
      rw [ofValue_of_isSequence hclosing, hb, Option.toList_some]
    unfold readMarkers
    rw [hopening.isGiven_iff.2 hitems, hclosing.isGiven_iff.2 hitems', hleft, hright]
    cases opening with
    | text s => exact absurd rfl (hopening.ne_text s)
    | _ => simp [hfault, bind, Except.bind]

theorem readMarkersOf_ne_error (hf : ∀ cause, f ≠ .markers cause) :
    readMarkersOf entries ≠ .error f := by
  simp only [readMarkersOf]
  split_ifs
  · simp
  · intro h
    obtain ⟨cause, -, hcause⟩ := mapError_eq_error_iff.1 h
    exact hf cause hcause.symm

/-- Markers that are missing are texts, so both of them must be there to be sequences. -/
theorem readMarkersOf_eq_error_entryNotText_iff :
    readMarkersOf entries = .error (.markers .entryNotText) ↔
      ∃ opening closing items items' a b,
        Value.find? entries "placeholder_open" = some opening ∧
          Value.find? entries "placeholder_close" = some closing ∧
            AreSequences opening closing items items' ∧
              items.getLast? = some a ∧ items'.head? = some b ∧ AsksNoText a b := by
  have hno {s : List Char} {v : Value} {items items' : List Value} :
      ¬ AreSequences (.text (String.ofList s)) v items items' ∧
        ¬ AreSequences v (.text (String.ofList s)) items items' := by
    refine ⟨?_, ?_⟩
    · rintro ⟨type, hopening, -⟩
      exact hopening.ne_text _ rfl
    · rintro ⟨type, -, hclosing⟩
      exact hclosing.ne_text _ rfl
  unfold readMarkersOf
  cases Value.find? entries "placeholder_open" <;> cases Value.find? entries "placeholder_close" <;>
    simp [mapError_eq_error_iff, readMarkers_eq_error_entryNotText_iff, hno]

/-! ### Mappings -/

/-- Whether the wording of a mapping's fault would show a number of too many digits. -/
inductive ShowsTooMuch (entries : List (Value × Value)) : Prop
  | key {k : Value} (hunknown : k ∈ unknownKeys entries) (hlong : k.isShowable = false)
  | dialect {v : Value} (hknown : unknownKeys entries = [])
      (hvalue : Value.find? entries "dialect" = some v) (hwrong : ∀ d, ¬ NamesDialect v d)
      (hlong : v.isShowable = false)
  | outputStyle {v : Value} (hknown : unknownKeys entries = [])
      (hearlier : ∃ o, Stated (only (knownKeys.take 4) entries) o)
      (hvalue : Value.find? entries "output_style" = some v)
      (hwrong : ∀ style, ¬ NamesStyle v style) (hlong : v.isShowable = false)

/-- Whether everything but the markers is stated, and the markers are sequences in which an entry
that is no text is asked whether it is a digit. -/
structure AsksMarkers (entries : List (Value × Value)) : Prop where
  known : unknownKeys entries = []
  earlier : ∃ o, Stated (only (knownKeys.take 7) entries) o
  markers : ∃ opening closing items items' a b,
    Value.find? entries "placeholder_open" = some opening ∧
      Value.find? entries "placeholder_close" = some closing ∧
        AreSequences opening closing items items' ∧
          items.getLast? = some a ∧ items'.head? = some b ∧ AsksNoText a b

theorem readEntries_eq_error_unshowable_iff :
    readEntries entries = .error .unshowable ↔ ShowsTooMuch entries := by
  have hdialect {v : Value} : readDialect v = .error .unshowable ↔
      (∀ d, ¬ NamesDialect v d) ∧ v.isShowable = false := by
    rw [readDialect_eq_error_iff, eq_comm, refused_eq_unshowable_iff (by simp)]
  have hstyle {v : Value} : readOutputStyle v = .error .unshowable ↔
      (∀ style, ¬ NamesStyle v style) ∧ v.isShowable = false := by
    rw [readOutputStyle_eq_error_iff, eq_comm, refused_eq_unshowable_iff (by simp)]
  have hmarkers : readMarkersOf entries ≠ .error .unshowable :=
    readMarkersOf_ne_error fun cause => by simp
  simp only [readEntries, bind_eq_error_iff, pure_ne_error, readKey_eq_error_iff,
    checkKeys_eq_error_unshowable_iff, checkKeys_eq_ok_iff, hdialect, hstyle, hmarkers,
    readPreamble_ne_error, readIncludePaths_ne_error, readContextFile_ne_error,
    readPrecision_ne_error, readSourceComments_ne_error, ne_eq, reduceCtorEq, not_false_eq_true,
    and_false, exists_false, or_false, false_or, readKey_eq_ok_iff readDialect_eq_ok_iff,
    readKey_eq_ok_iff readPreamble_eq_ok_iff, readKey_eq_ok_iff readIncludePaths_eq_ok_iff,
    readKey_eq_ok_iff readContextFile_eq_ok_iff]
  constructor
  · rintro (⟨k, hk, hlong⟩ | ⟨-, hknown, ⟨v, hv, hwrong, hlong⟩ | ⟨d, hd, s, hs, paths, hpaths,
      file, hfile, v, hv, hwrong, hlong⟩⟩)
    · exact .key hk hlong
    · exact .dialect hknown hv hwrong hlong
    · have hearlier := exists_stated_take_four_iff.2 ⟨d, s, paths, file, hd, hs, hpaths, hfile⟩
      exact .outputStyle hknown hearlier hv hwrong hlong
  · intro h
    cases h with
    | key hk hlong => exact .inl ⟨_, hk, hlong⟩
    | dialect hknown hv hwrong hlong =>
      exact .inr ⟨(), hknown, .inl ⟨_, hv, hwrong, hlong⟩⟩
    | outputStyle hknown hearlier hv hwrong hlong =>
      obtain ⟨d, s, paths, file, hd, hs, hpaths, hfile⟩ := exists_stated_take_four_iff.1 hearlier
      exact .inr ⟨(), hknown, .inr ⟨d, hd, s, hs, paths, hpaths, file, hfile, _, hv, hwrong, hlong⟩⟩

theorem readEntries_eq_error_entryNotText_iff :
    readEntries entries = .error (.markers .entryNotText) ↔ AsksMarkers entries := by
  have hrefused {fault : Value → OptionFault} {v : Value}
      (hfault : fault v ≠ .markers .entryNotText) :
      .markers .entryNotText ≠ refused fault v := by
    unfold refused
    split_ifs
    · exact hfault.symm
    · simp
  have hdialect {v : Value} : readDialect v ≠ .error (.markers .entryNotText) :=
    fun h => hrefused (by simp) (readDialect_eq_error_iff.1 h).2
  have hstyle {v : Value} : readOutputStyle v ≠ .error (.markers .entryNotText) :=
    fun h => hrefused (by simp) (readOutputStyle_eq_error_iff.1 h).2
  simp only [readEntries, bind_eq_error_iff, pure_ne_error, readKey_eq_error_iff,
    checkKeys_ne_error_markers, checkKeys_eq_ok_iff, hdialect, hstyle,
    readPreamble_ne_error, readIncludePaths_ne_error, readContextFile_ne_error,
    readPrecision_ne_error, readSourceComments_ne_error, ne_eq, reduceCtorEq, not_false_eq_true,
    and_false, exists_false, or_false, false_or, readKey_eq_ok_iff readDialect_eq_ok_iff,
    readKey_eq_ok_iff readPreamble_eq_ok_iff, readKey_eq_ok_iff readIncludePaths_eq_ok_iff,
    readKey_eq_ok_iff readContextFile_eq_ok_iff, readKey_eq_ok_iff readOutputStyle_eq_ok_iff,
    readKey_eq_ok_iff readPrecision_eq_ok_iff, readKey_eq_ok_iff readSourceComments_eq_ok_iff,
    readMarkersOf_eq_error_entryNotText_iff]
  constructor
  · rintro ⟨-, hknown, d, hd, s, hs, paths, hpaths, file, hfile, style, hstyle, n, hn, b, hb,
      hmarkers⟩
    have hearlier := exists_stated_take_seven_iff.2
      ⟨d, s, paths, file, style, n, b, hd, hs, hpaths, hfile, hstyle, hn, hb⟩
    exact ⟨hknown, hearlier, hmarkers⟩
  · intro h
    obtain ⟨d, s, paths, file, style, n, b, hd, hs, hpaths, hfile, hstyle, hn, hb⟩ :=
      exists_stated_take_seven_iff.1 h.earlier
    exact ⟨(), h.known, d, hd, s, hs, paths, hpaths, file, hfile, style, hstyle, n, hn, b, hb,
      h.markers⟩

theorem ofValue_mapping_eq (entries : List (Value × Value)) :
    ofValue (.mapping entries) = readEntries entries := by
  cases entries with
  | nil => rfl
  | cons e entries => rfl

theorem category_options_eq_value_iff : (Fault.options f).category = .value ↔ f = .unshowable := by
  cases f with
  | markers cause => cases cause <;> simp [Fault.category]
  | _ => simp [Fault.category]

theorem category_options_eq_attribute_iff :
    (Fault.options f).category = .attribute ↔ f = .markers .entryNotText := by
  cases f with
  | markers cause => cases cause <;> simp [Fault.category]
  | _ => simp [Fault.category]

theorem category_options (hshown : f ≠ .unshowable) (hasked : f ≠ .markers .entryNotText) :
    (Fault.options f).category = .configuration := by
  cases f with
  | markers cause => cases cause <;> simp_all [Fault.category]
  | _ => simp_all [Fault.category]

/-- A mapping is read as the options that it states. If it states none it is refused with a fault of
configuration, unless the fault would show a number of too many digits, or the markers are sequences
and an entry that is no text is asked whether it is a digit. -/
theorem ofValue_mapping (entries : List (Value × Value)) :
    (∀ o, ofValue (.mapping entries) = .ok o ↔ Stated entries o) ∧
    ((∃ f, ofValue (.mapping entries) = .error f ∧ (Fault.options f).category = .value) ↔
      ShowsTooMuch entries) ∧
    ((∃ f, ofValue (.mapping entries) = .error f ∧ (Fault.options f).category = .attribute) ↔
      AsksMarkers entries) ∧
    ∀ f, ofValue (.mapping entries) = .error f → ¬ ShowsTooMuch entries → ¬ AsksMarkers entries →
      (Fault.options f).category = .configuration := by
  rw [ofValue_mapping_eq]
  simp only [category_options_eq_value_iff, category_options_eq_attribute_iff, exists_eq_right,
    readEntries_eq_error_unshowable_iff, readEntries_eq_error_entryNotText_iff]
  refine ⟨fun o => readEntries_eq_ok_iff, trivial, trivial, fun f h hshown hasked => ?_⟩
  apply category_options
  · rintro rfl
    exact hshown (readEntries_eq_error_unshowable_iff.1 h)
  · rintro rfl
    exact hasked (readEntries_eq_error_entryNotText_iff.1 h)

def mixedEntries : List (Value × Value) :=
  [(.text "dialect", .text " Indented\n"),
    (.text "include_paths", .tuple [.text "styles", .path (.ofString "a//b")]),
    (.text "precision", .integer 8)]

def tooLarge : Int :=
  .ofNat (Nat.pow 10 longest)

theorem isShowable_ofNat {n : Nat} (h : Nat.pow 10 longest ≤ n) :
    (Value.integer (.ofNat n)).isShowable = false := by
  rw [Value.isShowable, decide_eq_false_iff_not, Nat.not_lt]
  exact h

def longEntries : List (Value × Value) :=
  [(.text "output_style", .list [.integer tooLarge])]

theorem ofValue_mapping_mixedEntries :
    Stated mixedEntries
      { dialect := .indented, includePaths := ["styles", "a/b"], precision := some 8 } ∧
    ∃ f, ofValue (.mapping longEntries) = .error f ∧ (Fault.options f).category = .value := by
  obtain ⟨hread, -, -, -⟩ := ofValue_mapping mixedEntries
  obtain ⟨-, hlong, -, -⟩ := ofValue_mapping longEntries
  have hearlier : ∃ o, Stated (only (knownKeys.take 4) longEntries) o :=
    ⟨{}, readEntries_eq_ok_iff.1 rfl⟩
  have hshown : (Value.list [.integer tooLarge]).isShowable = false := by
    rw [Value.isShowable, Value.areShowable, tooLarge, isShowable_ofNat (Nat.le_refl _),
      Bool.false_and]
  have hwrong (style : OutputStyle) : ¬ NamesStyle (.list [.integer tooLarge]) style := by
    simp [NamesStyle]
  exact ⟨(hread _).1 rfl, hlong.2 (.outputStyle rfl hearlier rfl hwrong hshown)⟩

def listMarkers : List (Value × Value) :=
  [(.text "placeholder_open", .list [.integer 1]), (.text "placeholder_close", .list [.integer 2])]

/-- The markers are lists, and the fault is none of configuration. -/
theorem ofValue_mapping_listMarkers :
    (∀ e ∈ listMarkers, ∃ s, e.1 = .text s) ∧
      ofValue (.mapping listMarkers) = .error (.markers .entryNotText) ∧
      (Fault.options (.markers .entryNotText)).category = .attribute := by
  refine ⟨?_, rfl, rfl⟩
  simp [listMarkers]

end Stencil.Options
