import Mathlib.Tactic.SplitIfs
import Stencil.Options.Read
import Stencil.Proofs.Success

/-!
# What options a mapping states

A mapping states options if each of its keys is the key of an option, and each option is what the
value of its key says, or the default where the key is missing. Reading returns exactly the options
that a mapping states, so it accepts no value of another kind: `readEntries_eq_ok_iff`.
-/

namespace Stencil.Token.Markers

theorem ofTexts_eq_ok_iff {m : Markers} {opening closing : List Char} :
    ofTexts opening closing = .ok m ↔ m.opening = opening ∧ m.closing = closing := by
  constructor
  · intro h
    unfold ofTexts at h
    split_ifs at h
    obtain rfl := Except.ok.inj h
    exact ⟨rfl, rfl⟩
  · rintro ⟨rfl, rfl⟩
    have hdigit : (touching m.opening m.closing).any Text.isDigit = false := by
      simp only [touching, List.any_append, Bool.or_eq_false_iff, List.any_eq_false,
        Option.mem_toList]
      exact ⟨fun c hc => by simp [m.opening_digit c hc], fun c hc => by simp [m.closing_digit c hc]⟩
    simp [ofTexts, m.opening_ne_nil, m.closing_ne_nil, hdigit]

end Stencil.Token.Markers

namespace Stencil.Options

open Stencil.Text Stencil.Token

variable {entries : List (Value × Value)} {v : Value} {key : String} {o : Options}

/-! ### Keys -/

theorem same_text_iff {s : String} : v.same (.text s) = true ↔ v = .text s := by
  cases v with
  | fraction x =>
    cases h : x.toInt? <;> simp [Value.same, Value.sameScalar, Value.asInteger?, h]
  | _ => simp [Value.same, Value.sameScalar, Value.asInteger?]

theorem isKnown_iff : isKnown v = true ↔ ∃ k ∈ knownKeys, v = .text k := by
  simp [isKnown, same_text_iff]

theorem unknownKeys_eq_nil_iff :
    unknownKeys entries = [] ↔ ∀ e ∈ entries, ∃ k ∈ knownKeys, e.1 = .text k := by
  simp [unknownKeys, List.filter_eq_nil_iff, isKnown_iff]

theorem checkKeys_eq_ok_iff {u : Unit} : checkKeys entries = .ok u ↔ unknownKeys entries = [] := by
  simp only [checkKeys, List.isEmpty_iff]
  split_ifs with h
  · simp [h]
  · simp [h]
  · simp [h]

/-- Whether `a` is what a key says: what its value means, or `missing` if there is no such key. -/
def Says {α : Type} (entries : List (Value × Value)) (key : String) (missing : α)
    (means : Value → α → Prop) (a : α) : Prop :=
  match Value.find? entries key with
  | some v => means v a
  | none => a = missing

theorem readKey_eq_ok_iff {α : Type} {missing a : α} {read : Value → Except OptionFault α}
    {means : Value → α → Prop} (hread : ∀ v a, read v = .ok a ↔ means v a) :
    readKey entries key missing read = .ok a ↔ Says entries key missing means a := by
  unfold readKey Says
  cases Value.find? entries key with
  | some v => exact hread v a
  | none => simp [eq_comm]

/-! ### Values -/

/-- Whether a value is a dialect, or the name of one in any case with blanks around it. -/
def NamesDialect (v : Value) (d : Dialect) : Prop :=
  v = .dialect d ∨ (strip v.plain).map lowerPlain = d.name.toList

theorem readDialect_eq_ok_iff (v : Value) (d : Dialect) :
    readDialect v = .ok d ↔ NamesDialect v d := by
  have hname (v : Value) (hv : ∀ d, v ≠ .dialect d) : readDialect v = .ok d ↔
      (strip v.plain).map lowerPlain = d.name.toList := by
    have hread : readDialect v =
        if (strip v.plain).map lowerPlain == Dialect.block.name.toList then .ok .block
        else if (strip v.plain).map lowerPlain == Dialect.indented.name.toList then .ok .indented
        else .error (refused .dialect v) := by
      cases v with
      | dialect e => exact absurd rfl (hv e)
      | _ => rfl
    rw [hread]
    simp only [beq_iff_eq]
    split_ifs with hblock hindented
    · rw [hblock]
      cases d <;> simp [Dialect.name]
    · rw [hindented]
      cases d <;> simp [Dialect.name]
    · cases d <;> simp [hblock, hindented]
  cases v with
  | dialect e =>
    have hplain : (strip (Value.dialect e).plain).map lowerPlain ≠ d.name.toList := by
      cases e <;> cases d <;> decide +kernel
    simp [readDialect, NamesDialect, hplain]
  | _ => simp [hname, NamesDialect]

/-- Whether a value is a text, where null is the empty one. -/
def GivesText (v : Value) (s : String) : Prop :=
  v = .text s ∨ v = .null ∧ s = ""

theorem readPreamble_eq_ok_iff (v : Value) (s : String) :
    readPreamble v = .ok s ↔ GivesText v s := by
  cases v <;> simp [readPreamble, GivesText, eq_comm]

/-- Whether a value lists paths: it is a list or a tuple of texts and paths, or it counts as not
given. -/
def ListsPaths (v : Value) (paths : List String) : Prop :=
  v.isGiven = false ∧ paths = [] ∨
    ∃ items, (v = .list items ∨ v = .tuple items) ∧ items.map pathText? = paths.map some

theorem readPaths_eq_ok_iff {items : List Value} {paths : List String} :
    readPaths items = .ok paths ↔ items.map pathText? = paths.map some := by
  rw [← mapM_eq_some_iff]
  unfold readPaths
  cases items.mapM pathText? <;> simp

theorem readIncludePaths_eq_ok_iff (v : Value) (paths : List String) :
    readIncludePaths v = .ok paths ↔ ListsPaths v paths := by
  -- An empty list counts as not given and lists no paths, so both ways to read it agree.
  have hitems (items : List Value) :
      (if !items.isEmpty then readPaths items else .ok []) = .ok paths ↔
        items.isEmpty = true ∧ paths = [] ∨ items.map pathText? = paths.map some := by
    cases items with
    | nil => cases paths <;> simp
    | cons item items => simp [readPaths_eq_ok_iff]
  have hrest (hv : ∀ items, v ≠ .list items ∧ v ≠ .tuple items) :
      readIncludePaths v = .ok paths ↔ v.isGiven = false ∧ paths = [] := by
    unfold readIncludePaths
    split_ifs with h
    · split
      · exact absurd rfl (hv _).1
      · exact absurd rfl (hv _).2
      · simp [h]
    · simp [h]
  cases v with
  | list items => simpa [readIncludePaths, ListsPaths, Value.isGiven] using hitems items
  | tuple items => simpa [readIncludePaths, ListsPaths, Value.isGiven] using hitems items
  | _ => simp [hrest, ListsPaths]

/-- Whether a value names a file, where null names none. -/
def NamesFile (v : Value) (file : Option String) : Prop :=
  v = .null ∧ file = none ∨ ∃ s, pathText? v = some s ∧ file = some s

theorem readContextFile_eq_ok_iff (v : Value) (file : Option String) :
    readContextFile v = .ok file ↔ NamesFile v file := by
  have hrest (hv : v ≠ .null) :
      readContextFile v = .ok file ↔ ∃ s, pathText? v = some s ∧ file = some s := by
    unfold readContextFile
    split
    · exact absurd rfl hv
    · cases pathText? v <;> simp [eq_comm]
  cases v with
  | null => simp [readContextFile, NamesFile, pathText?, eq_comm]
  | _ => simp [hrest, NamesFile]

theorem name_eq_of_ofName? {s : String} {style : OutputStyle}
    (h : OutputStyle.ofName? s = some style) : style.name = s := by
  unfold OutputStyle.ofName? at h
  have hname := List.find?_some h
  exact eq_of_beq hname

def NamesStyle (v : Value) (style : OutputStyle) : Prop :=
  v = .text style.name

theorem readOutputStyle_eq_ok_iff (v : Value) (style : OutputStyle) :
    readOutputStyle v = .ok style ↔ NamesStyle v style := by
  unfold NamesStyle
  cases v with
  | text s =>
    rw [Value.text.injEq]
    simp only [readOutputStyle]
    cases h : OutputStyle.ofName? s with
    | some found =>
      obtain rfl := name_eq_of_ofName? h
      constructor
      · intro hstyle
        rw [Except.ok.inj hstyle]
      · intro hname
        rw [hname, OutputStyle.ofName?_name] at h
        exact congrArg Except.ok (Option.some.inj h).symm
    | none =>
      have hne : s ≠ style.name := by
        rintro rfl
        simp [OutputStyle.ofName?_name] at h
      simp [hne]
  | _ => simp [readOutputStyle]

/-- Whether a value is a precision: an integer that is not negative, or null for none. -/
def GivesPrecision (v : Value) (precision : Option Int) : Prop :=
  v = .null ∧ precision = none ∨ ∃ n, 0 ≤ n ∧ v = .integer n ∧ precision = some n

theorem readPrecision_eq_ok_iff (v : Value) (precision : Option Int) :
    readPrecision v = .ok precision ↔ GivesPrecision v precision := by
  cases v with
  | integer n =>
    simp only [readPrecision, GivesPrecision]
    split_ifs with h
    · constructor
      · simp
      · rintro (⟨hn, -⟩ | ⟨k, hk, hn, -⟩)
        · simp at hn
        · obtain rfl := Value.integer.inj hn
          omega
    · have hn : 0 ≤ n := by omega
      constructor
      · intro hp
        exact .inr ⟨n, hn, rfl, (Except.ok.inj hp).symm⟩
      · rintro (⟨hnull, -⟩ | ⟨k, -, hk, rfl⟩)
        · simp at hnull
        · rw [Value.integer.inj hk]
  | _ => simp [readPrecision, GivesPrecision, eq_comm]

def GivesTruth (v : Value) (b : Bool) : Prop :=
  v = .truth b

theorem readSourceComments_eq_ok_iff (v : Value) (b : Bool) :
    readSourceComments v = .ok b ↔ GivesTruth v b := by
  cases v <;> simp [readSourceComments, GivesTruth]

/-! ### Markers -/

theorem isGiven_text_iff {s : String} : (Value.text s).isGiven = true ↔ s.toList ≠ [] := by
  simp [Value.isGiven]

theorem readMarkers_eq_ok_iff {opening closing : Value} {m : Markers} :
    readMarkers opening closing = .ok m ↔
      opening = .text (String.ofList m.opening) ∧ closing = .text (String.ofList m.closing) := by
  constructor
  · intro h
    unfold readMarkers at h
    split at h
    · simp [bind, Except.bind] at h
    · simp only [bind_eq_ok_iff] at h
      obtain ⟨left, -, right, -, h⟩ := h
      split at h
      · rw [mapError_eq_ok_iff, Markers.ofTexts_eq_ok_iff] at h
        simp [h.1, h.2]
      · split at h <;> simp at h
      · simp at h
  · rintro ⟨rfl, rfl⟩
    have hmarkers : Markers.ofTexts m.opening m.closing = .ok m :=
      Markers.ofTexts_eq_ok_iff.2 ⟨rfl, rfl⟩
    have hopening := isGiven_text_iff.2
      (by simpa using m.opening_ne_nil : (String.ofList m.opening).toList ≠ [])
    have hclosing := isGiven_text_iff.2
      (by simpa using m.closing_ne_nil : (String.ofList m.closing).toList ≠ [])
    simp [readMarkers, hopening, hclosing, hmarkers, Slice.ofValue, Except.mapError, bind,
      Except.bind]

def Spells (v : Value) (s : List Char) : Prop :=
  v = .text (String.ofList s)

theorem readMarkersOf_eq_ok_iff {m : Markers} : readMarkersOf entries = .ok m ↔
    Says entries "placeholder_open" Markers.standard.opening Spells m.opening ∧
      Says entries "placeholder_close" Markers.standard.closing Spells m.closing := by
  have htext (s t : List Char) :
      Value.text (String.ofList s) = .text (String.ofList t) ↔ t = s := by
    rw [Value.text.injEq, String.ofList_inj, eq_comm]
  have hstandard : Markers.standard = m ↔
      m.opening = Markers.standard.opening ∧ m.closing = Markers.standard.closing := by
    rw [← Markers.ofTexts_eq_ok_iff, Markers.ofTexts_eq_ok_iff.2 ⟨rfl, rfl⟩, Except.ok.injEq]
  unfold readMarkersOf Says
  cases Value.find? entries "placeholder_open" <;> cases Value.find? entries "placeholder_close" <;>
    simp [mapError_eq_ok_iff, readMarkers_eq_ok_iff, Spells, htext, hstandard]

/-! ### Mappings -/

/-- Whether a mapping states options: its keys are keys of options, and every option is what its key
says, or the default. -/
structure Stated (entries : List (Value × Value)) (o : Options) : Prop where
  known : ∀ e ∈ entries, ∃ k ∈ knownKeys, e.1 = .text k
  dialect : Says entries "dialect" .block NamesDialect o.dialect
  preamble : Says entries "preamble" "" GivesText o.preamble
  includePaths : Says entries "include_paths" [] ListsPaths o.includePaths
  contextFile : Says entries "context_file" none NamesFile o.contextFile
  outputStyle : Says entries "output_style" .expanded NamesStyle o.outputStyle
  precision : Says entries "precision" none GivesPrecision o.precision
  sourceComments : Says entries "source_comments" false GivesTruth o.sourceComments
  opening : Says entries "placeholder_open" Markers.standard.opening Spells o.markers.opening
  closing : Says entries "placeholder_close" Markers.standard.closing Spells o.markers.closing

theorem readEntries_eq_ok_iff : readEntries entries = .ok o ↔ Stated entries o := by
  simp only [readEntries, bind_eq_ok_iff, pure_eq_ok_iff, checkKeys_eq_ok_iff,
    unknownKeys_eq_nil_iff, readKey_eq_ok_iff readDialect_eq_ok_iff,
    readKey_eq_ok_iff readPreamble_eq_ok_iff, readKey_eq_ok_iff readIncludePaths_eq_ok_iff,
    readKey_eq_ok_iff readContextFile_eq_ok_iff, readKey_eq_ok_iff readOutputStyle_eq_ok_iff,
    readKey_eq_ok_iff readPrecision_eq_ok_iff, readKey_eq_ok_iff readSourceComments_eq_ok_iff,
    readMarkersOf_eq_ok_iff]
  constructor
  · rintro ⟨_, hknown, d, hd, s, hs, paths, hpaths, file, hfile, style, hstyle, n, hn, b, hb, m,
      ⟨hopening, hclosing⟩, rfl⟩
    exact ⟨hknown, hd, hs, hpaths, hfile, hstyle, hn, hb, hopening, hclosing⟩
  · intro h
    exact ⟨(), h.known, _, h.dialect, _, h.preamble, _, h.includePaths, _, h.contextFile, _,
      h.outputStyle, _, h.precision, _, h.sourceComments, _, ⟨h.opening, h.closing⟩, rfl⟩

end Stencil.Options
