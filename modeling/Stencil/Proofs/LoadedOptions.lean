import Stencil.Proofs.CommandOutcomes

/-!
# Options under settings

The options of a run are loaded first, from the options file if the command line names one, and the
settings of the command line are laid over them. What is loaded from a file was read from a mapping,
and only its paths are others.
-/

namespace Stencil.Command

open Stencil.Files Stencil.Options

variable {read : Reader} {h : Host} {s : Settings} {o merged : Options}

/-- The options that a command line starts from: those of the options file, or the default ones if
it names none. -/
inductive Loaded (read : Reader) (h : Host) (s : Settings) : Options → Prop
  | default (hconfig : s.config.getD [] = []) : Loaded read h s {}
  | file {c : Char} {name : List Char} {o : Options} (hconfig : s.config = some (c :: name))
      (ho : ofFile read h (Path.ofText (c :: name)) = .ok o) : Loaded read h s o

/-! ### Loading -/

/-- The options of a file are those of a mapping, with paths that are seen from its directory. -/
theorem exists_of_ofFile {path : Path} (ho : ofFile read h path = .ok o) :
    ∃ entries base given, ofValue (.mapping entries) = .ok given ∧
      h.directory path = .ok base ∧ o = seenFrom base given := by
  simp only [ofFile, ofFileValue, bind_eq_ok_iff, pure_eq_ok_iff, mapError_eq_ok_iff] at ho
  obtain ⟨v, -, entries, -, given, hgiven, base, hbase, rfl⟩ := ho
  exact ⟨entries, base, given, hgiven, hbase, rfl⟩

theorem given_eq_none_iff {value : Option (List Char)} :
    Settings.given value = none ↔ value.getD [] = [] := by
  cases value with
  | none => simp [Settings.given]
  | some text => cases text <;> simp [Settings.given]

theorem given_eq_some_iff {value : Option (List Char)} {text : List Char} :
    Settings.given value = some text ↔ ∃ c name, text = c :: name ∧ value = some (c :: name) := by
  cases value with
  | none => simp [Settings.given]
  | some given =>
    cases given with
    | nil => simp [Settings.given]
    | cons c name =>
      have hgiven : Settings.given (some (c :: name)) = some (c :: name) := rfl
      rw [hgiven]
      constructor
      · intro htext
        exact ⟨c, name, (Option.some.inj htext).symm, rfl⟩
      · rintro ⟨_, _, rfl, htext⟩
        exact htext

theorem loaded_iff : Loaded read h s o ↔ s.loaded read h = .ok o := by
  unfold Settings.loaded Settings.configFile?
  cases hconfig : Settings.given s.config with
  | none =>
    rw [given_eq_none_iff] at hconfig
    simp only [Option.map_none, Except.ok.injEq]
    constructor
    · intro hload
      cases hload with
      | default => rfl
      | file hfile => simp [hfile] at hconfig
    · rintro rfl
      exact .default hconfig
  | some text =>
    obtain ⟨c, name, rfl, hname⟩ := given_eq_some_iff.1 hconfig
    simp only [Option.map_some]
    constructor
    · intro hload
      cases hload with
      | default hnone => simp [hname] at hnone
      | file hfile ho =>
        obtain ⟨rfl, rfl⟩ := List.cons.inj (Option.some.inj (hname.symm.trans hfile))
        exact ho
    · exact .file hname

/-! ### Laying settings over options -/

theorem options_eq_ok_iff : s.options read h = .ok merged ↔
    ∃ o preamble contextFile, Loaded read h s o ∧ s.preambleText h = .ok preamble ∧
      s.contextPath h o = .ok contextFile ∧ merged = s.merge o preamble contextFile := by
  simp only [Settings.options, loaded_iff, bind_eq_ok_iff, pure_eq_ok_iff, exists_and_left]

end Stencil.Command
