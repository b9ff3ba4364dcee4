import Mathlib
import Stencil.Proofs.CommandOutcomes
import Stencil.Proofs.WrittenPaths

/-!
# What options files are accepted

A mapping and an empty document are accepted exactly if they are accepted as options, and the paths
of these options are seen from the directory of the file. Any other value is refused if it counts as
given. A list without items, a text without characters, a zero and a false do not, and a file that
holds one of them is read like an empty document.
-/

namespace Stencil.Options

open Stencil.Text Stencil.Files

variable {read : Reader} {h : Host} {path base : Path} {text : List Char} {v : Value} {o : Options}
  {entries : List (Value × Value)}

def seen (base : Path) (s : String) : String :=
  (base.join (Path.ofString s)).string

theorem seenFrom_eq (base : Path) (o : Options) : seenFrom base o =
    { o with includePaths := o.includePaths.map (seen base),
             contextFile := o.contextFile.map (seen base) } := rfl

/-! ### Seen paths -/

theorem isAbsolute_of_directory (hbase : h.directory path = .ok base) : base.isAbsolute = true := by
  simp only [Host.directory, bind_eq_ok_iff, pure_eq_ok_iff] at hbase
  obtain ⟨file, -, rfl⟩ := hbase
  exact file.property

theorem ofString_seen (base : Path) (s : String) :
    Path.ofString (seen base s) = base.join (Path.ofString s) :=
  Path.ofString_string _

theorem seen_of_isAbsolute {s : String} (hs : (Path.ofString s).isAbsolute = true) :
    seen base s = (Path.ofString s).string := by
  rw [seen, Path.join_of_isAbsolute hs]

theorem seen_ne_empty (hbase : base.isAbsolute = true) (s : String) :
    (seen base s).isEmpty = false :=
  Path.string_ne_empty (Path.isAbsolute_join hbase)

/-! ### Files -/

theorem ofFile_eq_ofFileValue (htext : h.text path (.noDocument path.string) = .ok text)
    (hv : read text = .ok v) : ofFile read h path = ofFileValue h path v := by
  simp only [ofFile, fileValue, bind, Except.bind, htext, hv, Except.mapError]

theorem ofFileValue_of_entries (hentries : fileEntries path v = .ok entries) :
    ofFileValue h path v = ((ofValue (.mapping entries)).mapError .options).bind fun o =>
      (h.directory path).map fun base => seenFrom base o := by
  simp only [ofFileValue, bind, Except.bind, hentries]
  cases ofValue (.mapping entries) with
  | error cause => rfl
  | ok o => cases h.directory path <;> rfl

theorem ofFileValue_mapping : ofFileValue h path (.mapping entries) =
    ((ofValue (.mapping entries)).mapError .options).bind fun o =>
      (h.directory path).map fun base => seenFrom base o :=
  ofFileValue_of_entries (Command.fileEntries_eq_ok_iff.2 (.inl rfl))

theorem ofFileValue_of_not_given (hv : v.isGiven = false) :
    ofFileValue h path v = (h.directory path).map fun _ => {} := by
  rw [ofFileValue_of_entries (Command.fileEntries_eq_ok_iff.2 (.inr ⟨rfl, hv⟩))]
  rfl

theorem ofFileValue_of_given (hv : v.isGiven = true) (hmapping : ∀ entries, v ≠ .mapping entries) :
    ofFileValue h path v = .error (.notMapping path.string) := by
  have hentries : fileEntries path v = .error (.notMapping path.string) := by
    unfold fileEntries
    rw [if_pos hv]
    split
    · exact absurd rfl (hmapping _)
    · rfl
  unfold ofFileValue
  rw [hentries]
  rfl

/-- How a value of an options file is read. -/
structure FileRead (h : Host) (path : Path) (v : Value) (result : Except Fault Options) : Prop where
  accepted : v = .null ∨ (∃ entries, v = .mapping entries) →
    result = ((ofValue v).mapError .options).bind fun o => (h.directory path).map fun base =>
      { o with includePaths := o.includePaths.map (seen base),
               contextFile := o.contextFile.map (seen base) }
  refused : v ≠ .null → (∀ entries, v ≠ .mapping entries) → v.isGiven = true →
    ∃ f, result = .error f ∧ f.category = .configuration ∧
      f.message = "YAML must be a mapping: " ++ path.string
  /-- Any other value that does not count as given is no options, and it is not refused. -/
  overlooked : v ≠ .null → (∀ entries, v ≠ .mapping entries) → v.isGiven = false →
    result = (h.directory path).map fun _ => {}
  seen : ∀ base s, Path.ofString (seen base s) = base.join (Path.ofString s)
  absolute : ∀ base s, (Path.ofString s).isAbsolute = true →
    Options.seen base s = (Path.ofString s).string

/-- An options file is read as a mapping or an empty document is, or it is refused, or it holds
something that counts as not given and is no mapping. -/
theorem fileRead_ofFile (htext : h.text path (.noDocument path.string) = .ok text)
    (hv : read text = .ok v) : FileRead h path v (ofFile read h path) := by
  rw [ofFile_eq_ofFileValue htext hv]
  refine ⟨?_, fun hnull hmapping hgiven => ?_, fun _ _ => ofFileValue_of_not_given,
    ofString_seen, fun _ _ => seen_of_isAbsolute⟩
  · rintro (rfl | ⟨entries, rfl⟩)
    · exact ofFileValue_of_not_given rfl
    · exact ofFileValue_mapping
  · exact ⟨_, ofFileValue_of_given hgiven hmapping, rfl, rfl⟩

/-- A host that is in a directory of some depth, with these characters in its only file. -/
def homeHost (file : String) : Host :=
  Command.hostIn "/home/css" file ""

def pathsFile : String :=
  "'include_paths': ['lib', '//a/.']\n'context_file': '../b'\n"

def pathsEntries : List (Value × Value) :=
  [(.text "include_paths", .list [.text "lib", .text "//a/."]),
    (.text "context_file", .text "../b")]

theorem fileRead_ofFile_pathsFile :
    (homeHost pathsFile).text (Path.ofString "o.yaml") (.noDocument "o.yaml") =
        .ok pathsFile.toList ∧
      Yaml.reader pathsFile.toList = .ok (.mapping pathsEntries) ∧
      ofFile Yaml.reader (homeHost pathsFile) (Path.ofString "o.yaml") =
        .ok { includePaths := ["/home/css/lib", "//a"], contextFile := some "/home/css/../b" } := by
  have htext : (homeHost pathsFile).text (Path.ofString "o.yaml") (.noDocument "o.yaml") =
      .ok pathsFile.toList := by cbv
  have hentries : Yaml.reader pathsFile.toList = .ok (.mapping pathsEntries) := by cbv
  refine ⟨htext, hentries, ?_⟩
  rw [(fileRead_ofFile htext hentries).accepted (.inr ⟨_, rfl⟩)]
  cbv

/-- A list without items is no mapping, and the file that holds it is accepted. -/
theorem fileRead_ofFile_emptyList :
    Yaml.reader "[]\n".toList = .ok (.list []) ∧
      ofFile Yaml.reader (homeHost "[]\n") (Path.ofString "o.yaml") = .ok {} := by
  have htext : (homeHost "[]\n").text (Path.ofString "o.yaml") (.noDocument "o.yaml") =
      .ok "[]\n".toList := by cbv
  have hlist : Yaml.reader "[]\n".toList = .ok (.list []) := by cbv
  refine ⟨hlist, ?_⟩
  rw [ofFile_eq_ofFileValue htext hlist]
  exact ofFileValue_of_not_given rfl

end Stencil.Options
