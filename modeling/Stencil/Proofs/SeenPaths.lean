import Stencil.Proofs.FirstOccurrences
import Stencil.Proofs.OptionFiles

/-!
# Include directories of an options file

The directories in which imports are looked for are the same whether the paths of the options are
seen from the directory of the options file or the directories are, once they are known. There is
one exception: a context file that is no file, but the directory itself from which it is seen. An
empty text is such a context file, although it names none in a mapping, and so is a dot. Then the
directory above that of the options file comes first.
-/

namespace Stencil.Source

open Stencil.Text Stencil.Files Stencil.Options

variable {read : Reader} {h : Host} {base path : Path} {text source : List Char} {o : Options}
  {entries : List (Value × Value)} {file : String} {staged : Staged}

/-- Whether the context file has no part, so that it is the directory that it is seen from. -/
def ContextIsDirectory (o : Options) : Prop :=
  ∃ file, o.contextFile = some file ∧ Path.ofString file = .dot

/-! ### The directory of the context file -/

theorem contextDirectory_of_some (hfile : o.contextFile = some file) (hne : file.isEmpty = false) :
    contextDirectory o = [(Path.ofString file).parent.string] := by
  simp [contextDirectory, hfile, hne]

theorem contextDirectory_seenFrom (habsolute : base.isAbsolute = true)
    (hfile : o.contextFile = some file) : contextDirectory (seenFrom base o) =
      [(base.join (Path.ofString file)).parent.string] := by
  have hseen : (seenFrom base o).contextFile = some (seen base file) := by
    simp [seenFrom_eq, hfile]
  rw [contextDirectory_of_some hseen (seen_ne_empty habsolute file), ofString_seen]

theorem contextDirectory_seenFrom_of_file (habsolute : base.isAbsolute = true)
    (ho : ¬ ContextIsDirectory o) :
    contextDirectory (seenFrom base o) = (contextDirectory o).map (seen base) := by
  cases hfile : o.contextFile with
  | none => simp [contextDirectory, seenFrom_eq, hfile]
  | some file =>
    have hparts : Path.ofString file ≠ .dot := fun hparts => ho ⟨file, hfile, hparts⟩
    have hne : file.isEmpty = false := by
      rw [Bool.eq_false_iff]
      intro hempty
      obtain rfl := String.isEmpty_iff.1 hempty
      exact hparts (by decide +kernel)
    have hparent := Path.ofString_string (Path.ofString file).parent
    rw [contextDirectory_seenFrom habsolute hfile, contextDirectory_of_some hfile hne,
      List.map_singleton, seen, hparent, Path.parent_join hparts]

theorem contextDirectory_seenFrom_of_directory (habsolute : base.isAbsolute = true)
    (ho : ContextIsDirectory o) :
    contextDirectory (seenFrom base o) = [base.parent.string] := by
  obtain ⟨file, hfile, hparts⟩ := ho
  rw [contextDirectory_seenFrom habsolute hfile, hparts, Path.join_dot]

theorem contextDirectory_eq (o : Options) :
    contextDirectory o = [] ∨ ∃ directory, contextDirectory o = [directory] := by
  unfold contextDirectory
  split
  · exact .inl rfl
  · split
    · exact .inl rfl
    · exact .inr ⟨_, rfl⟩

/-! ### Include directories -/

theorem includePaths_seenFrom (base : Path) (o : Options) : includePaths (seenFrom base o) =
    (contextDirectory (seenFrom base o) ++ o.includePaths.map (seen base)).eraseDups := rfl

theorem map_seen_includePaths (base : Path) (o : Options) :
    ((includePaths o).map (seen base)).eraseDups =
      ((contextDirectory o).map (seen base) ++ o.includePaths.map (seen base)).eraseDups := by
  rw [includePaths, eraseDups_map_eraseDups, List.map_append]

theorem head?_map_seen_includePaths (base : Path) (o : Options) :
    ((includePaths o).map (seen base)).head? =
      ((contextDirectory o).map (seen base) ++ o.includePaths.map (seen base)).head? := by
  rw [List.head?_map, includePaths, head?_eraseDups, ← List.head?_map, List.map_append]

theorem head?_includePaths_seenFrom (habsolute : base.isAbsolute = true)
    (ho : ContextIsDirectory o) :
    (includePaths (seenFrom base o)).head? = some base.parent.string := by
  rw [includePaths_seenFrom, head?_eraseDups,
    contextDirectory_seenFrom_of_directory habsolute ho]
  rfl

/-- Seeing paths and listing directories may be exchanged, unless the context file is a directory
and the one above it would not come first otherwise. -/
theorem includePaths_seenFrom_iff (habsolute : base.isAbsolute = true) :
    includePaths (seenFrom base o) = ((includePaths o).map (seen base)).eraseDups ↔
      (ContextIsDirectory o →
        ((includePaths o).map (seen base)).head? = some base.parent.string) := by
  constructor
  · intro heq ho
    rw [← head?_eraseDups, ← heq, head?_includePaths_seenFrom habsolute ho]
  · intro hfirst
    rw [includePaths_seenFrom, map_seen_includePaths]
    by_cases ho : ContextIsDirectory o
    · have hhead := hfirst ho
      rw [head?_map_seen_includePaths] at hhead
      rw [contextDirectory_seenFrom_of_directory habsolute ho]
      -- The directory above stands in both lists, or only in the one, where it stands twice.
      rcases contextDirectory_eq o with hnone | ⟨directory, hone⟩
      · rw [hnone] at hhead ⊢
        exact eraseDups_cons_of_head? hhead
      · rw [hone] at hhead ⊢
        obtain hdirectory : seen base directory = base.parent.string := Option.some.inj hhead
        rw [List.map_singleton, hdirectory]
    · rw [contextDirectory_seenFrom_of_file habsolute ho]

/-! ### Staging -/

theorem stage_seenFrom (base : Path) (o : Options) (source : List Char) :
    stage source (seenFrom base o) = (stage source o).map fun staged =>
      { staged with includePaths := includePaths (seenFrom base o) } := by
  simp only [stage, map_bind_eq]
  rfl

/-- How a source is staged with options whose paths are seen from a directory, as against the same
options without it. -/
structure SeenStaged (base : Path) (o : Options) (staged staged' : Staged) : Prop where
  text : staged'.text = staged.text
  dialect : staged'.dialect = staged.dialect
  includePaths : staged'.includePaths = (staged.includePaths.map (seen base)).eraseDups ↔
    (ContextIsDirectory o →
      (staged.includePaths.map (seen base)).head? = some base.parent.string)
  first : ContextIsDirectory o → staged'.includePaths.head? = some base.parent.string

/-- The include directories of a source that is staged with the options of a file are those that
the mapping in the file yields, seen from the directory of the file, unless the context file is a
directory; then the directory above that of the file comes first. -/
theorem stage_ofFile (htext : h.text path (.noDocument path.string) = .ok text)
    (hentries : read text = .ok (.mapping entries)) (ho : ofValue (.mapping entries) = .ok o) :
    (∀ f, h.directory path = .error f → ofFile read h path = .error f) ∧
    ∀ base, h.directory path = .ok base → ∃ o', ofFile read h path = .ok o' ∧ ∀ source,
      (∀ f, stage source o' = .error f ↔ stage source o = .error f) ∧
      ∀ staged, stage source o = .ok staged → ∃ staged', stage source o' = .ok staged' ∧
        SeenStaged base o staged staged' := by
  have hfile : ofFile read h path = (h.directory path).map fun base => seenFrom base o := by
    rw [ofFile_eq_ofFileValue htext hentries, ofFileValue_mapping, ho]
    rfl
  refine ⟨fun f hbase => ?_, fun base hbase => ?_⟩
  · rw [hfile, hbase]
    rfl
  · have habsolute := isAbsolute_of_directory hbase
    rw [hbase] at hfile
    refine ⟨_, hfile, fun source => ⟨fun f => ?_, fun staged hstaged => ?_⟩⟩
    · rw [stage_seenFrom, map_eq_error_iff]
    · refine ⟨_, by rw [stage_seenFrom, hstaged]; rfl, ?_⟩
      obtain ⟨_, _, _, -, -, -, -, rfl⟩ := stage_eq_ok_iff.1 hstaged
      exact ⟨rfl, rfl, includePaths_seenFrom_iff habsolute, head?_includePaths_seenFrom habsolute⟩

/-- An options file whose context file lies beside a directory that it lists, and which lists another
one twice. -/
def siblingFile : String :=
  "'include_paths': ['..', 'lib', './lib']\n'context_file': '../b'"

def siblingEntries : List (Value × Value) :=
  [(.text "include_paths", .list [.text "..", .text "lib", .text "./lib"]),
    (.text "context_file", .text "../b")]

def siblingOptions : Options where
  includePaths := ["..", "lib", "./lib"]
  contextFile := some "../b"

theorem stage_ofFile_siblingFile :
    (homeHost siblingFile).text (Path.ofString "o.yaml") (.noDocument "o.yaml") =
        .ok siblingFile.toList ∧
      Yaml.reader siblingFile.toList = .ok (.mapping siblingEntries) ∧
      ofValue (.mapping siblingEntries) = .ok siblingOptions ∧
      stage [] siblingOptions = .ok ⟨[], .block, ["..", "lib", "./lib"]⟩ ∧
      ∃ o' staged', ofFile Yaml.reader (homeHost siblingFile) (Path.ofString "o.yaml") = .ok o' ∧
        stage [] o' = .ok staged' ∧
          staged'.includePaths = ["/home/css/..", "/home/css/lib"] := by
  have htext : (homeHost siblingFile).text (Path.ofString "o.yaml") (.noDocument "o.yaml") =
      .ok siblingFile.toList := by cbv
  have hentries : Yaml.reader siblingFile.toList = .ok (.mapping siblingEntries) := by cbv
  have ho : ofValue (.mapping siblingEntries) = .ok siblingOptions := by cbv
  have hstaged : stage [] siblingOptions = .ok ⟨[], .block, ["..", "lib", "./lib"]⟩ := by cbv
  have hcontext : ¬ ContextIsDirectory siblingOptions := by
    rintro ⟨file, hfile, hparts⟩
    obtain rfl := Option.some.inj hfile
    exact absurd hparts (by decide +kernel)
  have hbase : (homeHost siblingFile).directory (Path.ofString "o.yaml") =
      .ok (Path.ofString "/home/css") := by cbv
  obtain ⟨o', ho', hsource⟩ := (stage_ofFile htext hentries ho).2 _ hbase
  obtain ⟨staged', hstaged', hseen⟩ := (hsource []).2 _ hstaged
  refine ⟨htext, hentries, ho, hstaged, o', staged', ho', hstaged', ?_⟩
  rw [hseen.includePaths.2 fun hdirectory => absurd hdirectory hcontext]
  decide +kernel

/-- An empty context file adds no directory as part of a mapping, and it adds one as part of a
file. -/
theorem stage_ofFile_emptyContext :
    Yaml.reader "'context_file': ''".toList =
        .ok (.mapping [(.text "context_file", .text "")]) ∧
      ofValue (.mapping [(.text "context_file", .text "")]) = .ok { contextFile := some "" } ∧
      stage [] { contextFile := some "" } = .ok ⟨[], .block, []⟩ ∧
      ∃ o', ofFile Yaml.reader (homeHost "'context_file': ''") (Path.ofString "o.yaml") = .ok o' ∧
        stage [] o' = .ok ⟨[], .block, ["/home"]⟩ := by
  have htext : (homeHost "'context_file': ''").text (Path.ofString "o.yaml")
      (.noDocument "o.yaml") = .ok "'context_file': ''".toList := by cbv
  have hentries : Yaml.reader "'context_file': ''".toList =
      .ok (.mapping [(.text "context_file", .text "")]) := by cbv
  have ho : ofValue (.mapping [(.text "context_file", .text "")]) =
      .ok { contextFile := some "" } := by cbv
  have hfile := ofFile_eq_ofFileValue htext hentries
  rw [ofFileValue_mapping, ho] at hfile
  exact ⟨hentries, ho, by cbv, _, hfile, by cbv⟩

end Stencil.Source
