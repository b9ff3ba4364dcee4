import Stencil.Proofs.CompiledRuns
import Stencil.Proofs.CutSplit
import Stencil.Proofs.ShieldedCut

/-!
# What ends a run

A run ends with a fault of its source or of the compiler, or because a number has too many digits.
Such a number may stand in a token of the source, in the compiler's message, or in a form of the
style sheet that the compiler returns; nothing else fails once the compiler has answered.
-/

namespace Stencil

open Stencil.Text Stencil.Number Stencil.Token Stencil.Source Stencil.Shield Stencil.Adjacency

namespace Shield

variable {m : Markers} {d : Dialect} {s : List Char}

theorem exists_shield_eq_ok_iff : (∃ out, shield m d s = .ok out) ↔
    ∀ digits ∈ (m.cut s).lexemes, digits.length ≤ longest := by
  simp only [shield_eq_ok_iff, exists_and_left, exists_eq, and_true]
  exact (m.lexeme.forall_mem_lexemes_iff (fun digits => digits.length ≤ longest) s).symm

theorem exists_unshield_eq_ok_iff : (∃ out, unshield m s = .ok out) ↔
    ∀ f ∈ Form.lexeme.lexemes s, f.digits.length ≤ longest := by
  simp only [unshield_eq_ok_iff, exists_and_left, exists_eq, and_true]
  exact (Form.lexeme.forall_mem_lexemes_iff (fun f => f.digits.length ≤ longest) s).symm

theorem exists_shield_eq_error_iff : (∃ t, shield m d s = .error t) ↔
    ∃ digits ∈ (m.cut s).lexemes, longest < digits.length := by
  rw [exists_eq_error_iff, exists_shield_eq_ok_iff]
  push Not
  rfl

theorem exists_unshield_eq_error_iff : (∃ t, unshield m s = .error t) ↔
    ∃ f ∈ Form.lexeme.lexemes s, longest < f.digits.length := by
  rw [exists_eq_error_iff, exists_unshield_eq_ok_iff]
  push Not
  rfl

end Shield

namespace Source

variable {source : List Char} {o : Options} {e : Fault}

inductive StageFault (source : List Char) (o : Options) : Fault → Prop
  | misindented {cause : Misindented} (hdialect : o.dialect = .indented)
      (h : stripIndent source = .error cause) : StageFault source o (.misindented cause)
  | reserved {text name : List Char} (htext : assembled o source = .ok text)
      (h : reserved? text = some name) : StageFault source o (.reserved name)
  | unsupportedUse {text : List Char} {cause : UnsupportedUse}
      (htext : assembled o source = .ok text) (hfree : reserved? text = none)
      (h : rewriteUse text = .error cause) : StageFault source o (.unsupportedUse cause)
  | tooLong {text rewritten : List Char} {cause : TooLong} (htext : assembled o source = .ok text)
      (hfree : reserved? text = none) (huse : rewriteUse text = .ok rewritten)
      (h : shield o.markers o.dialect rewritten = .error cause) :
      StageFault source o (.tooLong cause)

theorem checkReserved_eq_error_iff {text : List Char} :
    checkReserved text = .error e ↔ ∃ name, reserved? text = some name ∧ e = .reserved name := by
  unfold checkReserved
  cases reserved? text with
  | none => simp
  | some name => simp [eq_comm]

theorem assembled_eq_error_iff : assembled o source = .error e ↔ o.dialect = .indented ∧
    ∃ cause, stripIndent source = .error cause ∧ e = .misindented cause := by
  simp only [assembled, bind_eq_error_iff, pure_ne_error, and_false, exists_false, or_false]
  unfold unindented
  cases o.dialect with
  | block => simp
  | indented =>
    rw [mapError_eq_error_iff]
    constructor
    · rintro ⟨cause, h, rfl⟩
      exact ⟨rfl, cause, h, rfl⟩
    · rintro ⟨-, cause, h, rfl⟩
      exact ⟨cause, h, rfl⟩

theorem stage_eq_error_iff : stage source o = .error e ↔ StageFault source o e := by
  simp only [stage, bind_eq_error_iff, pure_ne_error, and_false, exists_false, or_false,
    mapError_eq_ok_iff, mapError_eq_error_iff, checkReserved_eq_error_iff, assembled_eq_error_iff]
  constructor
  · rintro (⟨hdialect, cause, h, rfl⟩ | ⟨text, htext, ⟨name, h, rfl⟩ | ⟨_, hfree, hrest⟩⟩)
    · exact .misindented hdialect h
    · exact .reserved htext h
    · have hfree := checkReserved_eq_ok_iff.1 hfree
      rcases hrest with ⟨cause, h, rfl⟩ | ⟨rewritten, huse, cause, h, rfl⟩
      · exact .unsupportedUse htext hfree h
      · exact .tooLong htext hfree huse h
  · intro h
    cases h with
    | misindented hdialect h => exact .inl ⟨hdialect, _, h, rfl⟩
    | reserved htext h => exact .inr ⟨_, htext, .inl ⟨_, h, rfl⟩⟩
    | unsupportedUse htext hfree h =>
      exact .inr ⟨_, htext, .inr ⟨(), checkReserved_eq_ok_iff.2 hfree, .inl ⟨_, h, rfl⟩⟩⟩
    | tooLong htext hfree huse h =>
      have hcheck := checkReserved_eq_ok_iff.2 hfree
      exact .inr ⟨_, htext, .inr ⟨(), hcheck, .inr ⟨_, huse, _, h, rfl⟩⟩⟩

theorem category_of_stageFault (h : StageFault source o e) :
    e.category = .configuration ∨ e.category = .compilation ∨ ∃ t, e = .tooLong t := by
  cases h with
  | misindented _ _ => exact .inl rfl
  | reserved _ _ => exact .inl rfl
  | unsupportedUse _ _ _ => exact .inr (.inl rfl)
  | tooLong _ _ _ _ => exact .inr (.inr ⟨_, rfl⟩)

end Source

namespace Compile

namespace Run

variable {α β : Type} {r : Run α} {a : α} {e : Fault}

theorem result_bind_eq_error_iff {f : α → Run β} : (r >>= f).result = .error e ↔
    r.result = .error e ∨ ∃ a, r.result = .ok a ∧ (f a).result = .error e := by
  cases h : r.result with
  | error e' => simp [bind, andThen, h]
  | ok a => simp [bind, andThen, h]

theorem result_pure_ne_error : (pure a : Run α).result ≠ .error e := by
  intro h
  exact absurd h (by simp [pure, done])

theorem events_bind_of_ok (h : r.result = .ok a) (f : α → Run β) :
    (r >>= f).events = r.events ++ (f a).events :=
  events_andThen_of_ok h f

theorem filterMap_events_bind {γ : Type} {choice : Event → Option γ} {f : α → Run β}
    (hf : ∀ a, (f a).events.filterMap choice = []) :
    (r >>= f).events.filterMap choice = r.events.filterMap choice := by
  cases h : r.result with
  | error e => simp [bind, andThen, h]
  | ok a => simp [events_bind_of_ok h, hf]

end Run

variable {compiler : Compiler} {source css : List Char} {o : Options} {staged : Staged}
  {e : Fault}

def requestFor (staged : Staged) (o : Options) : Request :=
  ⟨staged.text, staged.dialect, staged.includePaths, o⟩

theorem result_restored_eq_error_iff : (restored o css).result = .error e ↔
    ∃ t, unshield o.markers css = .error t ∧ e = .tooLong t := by
  have hreport (r : Restored) : (if !r.hits.isEmpty then do
      Run.note (.restored r.hits)
      pure (r.text o.markers) else pure (r.text o.markers) : Run (List Char)).result ≠
        .error e := by
    split
    · exact Run.result_pure_ne_error
    · exact Run.result_pure_ne_error
  simp only [restored, restore, Run.result_bind_eq_error_iff, Run.result_ofExcept,
    mapError_eq_error_iff, bind_eq_error_iff, pure_ne_error, and_false, exists_false, or_false,
    hreport]
  exact exists_congr fun t => and_congr_right fun _ => eq_comm

/-- A choice of events that takes none but requests and calls of the compiler. -/
structure AsksOnly {β : Type} (choice : Event → Option β) : Prop where
  staged (length : Nat) (d : Dialect) (paths : List String) : choice (.staged length d paths) = none
  returned (length : Nat) : choice (.returned length) = none
  restored (hits : List Rule) : choice (.restored hits) = none

theorem asksOnly_request? : AsksOnly Event.request? :=
  ⟨fun _ _ _ => rfl, fun _ => rfl, fun _ => rfl⟩

theorem asksOnly_invocation? : AsksOnly Event.invocation? :=
  ⟨fun _ _ _ => rfl, fun _ => rfl, fun _ => rfl⟩

theorem filterMap_events_restored {β : Type} {choice : Event → Option β} (hc : AsksOnly choice)
    (o : Options) (css : List Char) : (restored o css).events.filterMap choice = [] := by
  unfold restored
  refine Run.filterMap_events_bind fun r => ?_
  split
  · simp [Run.note, hc.restored, pure, Run.done, bind, Run.andThen]
  · rfl

/-- Of a staged source a compiler is asked once, and nothing else is asked for. -/
theorem filterMap_events_compile {β : Type} {choice : Event → Option β} (hc : AsksOnly choice)
    (hstaged : stage source o = .ok staged) :
    (compile compiler source o).events.filterMap choice =
      (choice (.requested (requestFor staged o))).toList ++
        (compiler (requestFor staged o)).events.filterMap choice := by
  have hrest (css : List Char) : (do
      Run.note (.returned css.length)
      let css ← restored o css
      return finish css : Run (List Char)).events.filterMap choice = [] := by
    rw [Run.events_bind_of_ok rfl, List.filterMap_append,
      Run.filterMap_events_bind fun _ => rfl, filterMap_events_restored hc]
    simp [Run.note, hc.returned]
  unfold compile
  rw [hstaged, Run.events_bind_of_ok rfl, Run.events_bind_of_ok rfl, Run.events_bind_of_ok rfl]
  simp only [List.filterMap_append, Run.filterMap_events_bind hrest, requestFor]
  simp only [Run.ofExcept, Run.note, List.filterMap_cons, List.filterMap_nil, hc.staged,
    List.nil_append]
  cases choice (.requested ⟨staged.text, staged.dialect, staged.includePaths, o⟩) <;> rfl

/-- A run fails with the fault of the first stage that fails; once the compiler has answered, that
is unshielding. -/
theorem result_compile_eq_error_iff : (compile compiler source o).result = .error e ↔
    StageFault source o e ∨ ∃ staged, stage source o = .ok staged ∧
      ((compiler (requestFor staged o)).result = .error e ∨
        ∃ css, (compiler (requestFor staged o)).result = .ok css ∧
          ∃ t, unshield o.markers css = .error t ∧ e = .tooLong t) := by
  simp only [compile, Run.result_bind_eq_error_iff, Run.result_ofExcept, Run.result_note_bind,
    Run.result_pure_ne_error, and_false, exists_false, or_false, result_restored_eq_error_iff,
    stage_eq_error_iff, requestFor]

theorem requests_compile_of_staged (hstaged : stage source o = .ok staged)
    (hquiet : (compiler (requestFor staged o)).requests = []) :
    (compile compiler source o).requests = [requestFor staged o] := by
  unfold Run.requests at hquiet ⊢
  rw [filterMap_events_compile asksOnly_request? hstaged, hquiet]
  rfl

theorem invocations_compile_of_staged (external : External)
    (hstaged : stage source o = .ok staged) :
    (compile external.compiler source o).invocations = [(requestFor staged o).invocation] := by
  unfold Run.invocations
  rw [filterMap_events_compile asksOnly_invocation? hstaged]
  rfl

theorem events_compile_of_fault (h : stage source o = .error e) :
    (compile compiler source o).events = [] := by
  unfold compile
  rw [h]
  rfl

theorem requests_compile_of_fault (h : stage source o = .error e) :
    (compile compiler source o).requests = [] := by
  rw [Run.requests, events_compile_of_fault h, List.filterMap_nil]

theorem invocations_compile_of_fault (h : stage source o = .error e) :
    (compile compiler source o).invocations = [] := by
  rw [Run.invocations, events_compile_of_fault h, List.filterMap_nil]

end Compile

end Stencil
