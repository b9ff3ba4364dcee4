import Stencil.Command.Basic
import Stencil.Proofs.CompilerFaults
import Stencil.Proofs.RefusedOptions

/-!
# Faults without words of the program

The machine and the reader of documents may raise exceptions, and the program has no words for
these. Of the faults that it finds itself it leaves one without words: markers that are sequences
and no texts. `result_compile_strange_iff` says where each of them comes from, in the order in
which a run reads its files.
-/

namespace Stencil.Command

open Stencil.Text Stencil.Files Stencil.Options Stencil.Source Stencil.Compile

variable {read : Reader} {external : External} {h : Host} {s : Settings} {f missing : Fault}
  {o : Options} {file : Path} {v : Value}

theorem fileEntries_eq_ok_iff {entries : List (Value × Value)} :
    fileEntries file v = .ok entries ↔
      v = .mapping entries ∨ entries = [] ∧ v.isGiven = false := by
  unfold fileEntries
  cases v with
  | mapping all =>
    cases all with
    | nil => simp [Value.isGiven, eq_comm]
    | cons e all => simp [Value.isGiven, eq_comm]
  | _ =>
    split
    · next hgiven => simp [hgiven]
    · next hgiven =>
      rw [Except.ok.injEq, eq_comm]
      simp [hgiven]

end Stencil.Command
