import Stencil.Proofs.CutLaws
import Stencil.Shield.Form

/-!
# Forms as lexemes

The three kinds of form differ right behind their common stem, so a form is read as one kind only.
A text in front of an index never begins inside of another one, and so a form that begins inside of
another one has to begin behind its digits: forms are rigid lexemes.
-/

namespace Stencil.Shield

open Stencil.Text Stencil.Token

namespace Kind

theorem left_digit (k : Kind) : ∀ c ∈ k.left, isDecimal c = false := by
  have h : k.left.all (fun c => !isDecimal c) = true := by cases k <;> decide +kernel
  intro c hc
  simpa using List.all_eq_true.1 h c hc

theorem left_not_inside (k : Kind) {l : Kind} {u y : List Char} (hu : u ≠ [])
    (h : l.left = u ++ y) : ¬ k.left <+: y := by
  have hfinite : ∀ n < 14, ¬ k.left <+: l.left.drop (n + 1) := by cases k <;> cases l <;> decide
  have hlength : l.left.length ≤ 14 := by cases l <;> decide
  have hpos := List.length_pos_iff.2 hu
  have hle : u.length ≤ l.left.length := by simp [h]
  have hy : y = l.left.drop (u.length - 1 + 1) := by
    rw [Nat.sub_add_cancel hpos, h, List.drop_left]
  rw [hy]
  exact hfinite _ (by omega)

theorem eq_of_left_append {k l : Kind} {s t : List Char} (h : k.left ++ s = l.left ++ t) :
    k = l := by
  cases k <;> cases l <;> simp [left, stem, label] at h <;> rfl

theorem left_append_digits {k l : Kind} {u digits s t : List Char} (hu : u ≠ [])
    (hne : digits ≠ []) (hdec : ∀ c ∈ digits, isDecimal c = true)
    (h : u ++ (k.left ++ s) = l.left ++ (digits ++ t)) : ∃ y, u = l.left ++ (digits ++ y) := by
  obtain ⟨c, left, hleft⟩ := List.exists_cons_of_ne_nil k.left_ne_nil
  rcases List.append_eq_append_iff.1 h with ⟨y, hl, hs⟩ | ⟨y, rfl, hs⟩
  · -- It would begin inside of the other one, or have a digit in it.
    refine absurd ?_ (left_not_inside k hu hl)
    obtain ⟨d, digits, rfl⟩ := List.exists_cons_of_ne_nil hne
    rcases List.append_eq_append_iff.1 hs with ⟨z, hz, -⟩ | ⟨z, hz, hz'⟩
    · exact ⟨z, hz.symm⟩
    · cases z with
      | nil => simp [hz]
      | cons e z =>
        obtain ⟨rfl, -⟩ := List.cons.inj hz'
        have := k.left_digit d (by simp [hz])
        simp [hdec d List.mem_cons_self] at this
  · rcases List.append_eq_append_iff.1 hs with ⟨z, rfl, -⟩ | ⟨z, rfl, hz⟩
    · exact ⟨z, rfl⟩
    · cases z with
      | nil => exact ⟨[], by simp⟩
      | cons e z =>
        rw [hleft] at hz
        obtain ⟨rfl, -⟩ := List.cons.inj hz
        have := k.left_digit c (by simp [hleft])
        simp [hdec c (by simp)] at this

end Kind

namespace Form

variable {f : Form} {s r : List Char}

@[simp] theorem lexeme_written : lexeme.written = written := rfl

theorem readKind?_eq_some_iff {k : Kind} :
    readKind? k s = some (f, r) ↔ f.kind = k ∧ s = f.written ++ r ∧ f.digits ≠ [] ∧
      ∀ c ∈ f.digits, isDecimal c = true := by
  constructor
  · intro h
    have hs := readKind?_eq h
    obtain ⟨p, hp, he⟩ := Option.map_eq_some_iff.1 h
    obtain ⟨rfl, rfl⟩ := Prod.mk.inj he
    exact ⟨rfl, hs, (readEnclosed_eq_some hp).2⟩
  · rintro ⟨rfl, rfl, hne, hdec⟩
    rw [readKind?, written, readEnclosed_append f.kind.right_ne_nil f.kind.stops_right hne hdec]
    rfl

/-- A form is read wherever it is written with an index of decimal digits, and as nothing else. -/
theorem read?_eq_some_iff : lexeme.read? s = some (f, r) ↔
    s = f.written ++ r ∧ f.digits ≠ [] ∧ ∀ c ∈ f.digits, isDecimal c = true := by
  have hother {k : Kind} (hk : k ≠ f.kind) (hs : s = f.written ++ r) : readKind? k s = none := by
    cases h : readKind? k s with
    | none => rfl
    | some p =>
      obtain ⟨g, z⟩ := p
      obtain ⟨rfl, hg, -⟩ := readKind?_eq_some_iff.1 h
      rw [hs, written, written] at hg
      simp only [List.append_assoc] at hg
      exact absurd (Kind.eq_of_left_append hg).symm hk
  have hread : lexeme.read? s =
      (readKind? .statement s <|> readKind? .plain s <|> readKind? .percent s) := rfl
  constructor
  · intro h
    rw [hread] at h
    simp only [Option.orElse_eq_orElse, Option.orElse_eq_or, Option.or_eq_some_iff] at h
    rcases h with h | ⟨-, h | ⟨-, h⟩⟩ <;> exact (readKind?_eq_some_iff.1 h).2
  · rintro ⟨hs, h⟩
    have hf : readKind? f.kind s = some (f, r) := readKind?_eq_some_iff.2 ⟨rfl, hs, h⟩
    rw [hread]
    cases hk : f.kind with
    | statement => simp [← hk, hf]
    | plain =>
      rw [hother (k := .statement) (by simp [hk]) hs, ← hk, hf]
      rfl
    | percent =>
      rw [hother (k := .statement) (by simp [hk]) hs, hother (k := .plain) (by simp [hk]) hs,
        ← hk, hf]
      rfl

theorem reads_iff :
    lexeme.Reads f ↔ f.digits ≠ [] ∧ ∀ c ∈ f.digits, isDecimal c = true := by
  constructor
  · intro h
    exact (read?_eq_some_iff.1 (h [])).2
  · intro h r
    exact read?_eq_some_iff.2 ⟨rfl, h⟩

theorem not_mem_of_sides {c : Char} (hsides : ∀ k : Kind, c ∉ k.left ∧ c ∉ k.right)
    (hdec : isDecimal c = false) (hf : lexeme.Reads f) : c ∉ f.written := by
  intro hmem
  rw [written, List.mem_append, List.mem_append] at hmem
  rcases hmem with (hmem | hmem) | hmem
  · exact (hsides f.kind).1 hmem
  · have := (reads_iff.1 hf).2 c hmem
    simp [hdec] at this
  · exact (hsides f.kind).2 hmem

theorem begins_behind_digits {u z : List Char} {g : Form} (hu : u ≠ [])
    (h : lexeme.read? (u ++ (f.written ++ r)) = some (g, z)) :
    ∃ y, u = g.kind.left ++ (g.digits ++ y) ∧ y ++ (f.written ++ r) = g.kind.right ++ z := by
  obtain ⟨he, hne, hdec⟩ := read?_eq_some_iff.1 h
  simp only [written, List.append_assoc] at he
  obtain ⟨y, rfl⟩ := Kind.left_append_digits hu hne hdec he
  refine ⟨y, rfl, ?_⟩
  simpa [written] using he

theorem length_right_le (k : Kind) (f : Form) : k.right.length ≤ f.written.length := by
  have h : k.right.length ≤ 4 := by cases k <;> decide
  have hf : 4 ≤ f.kind.left.length := by cases f.kind <;> decide
  simp only [written, List.length_append]
  omega

/-- Forms are rigid lexemes. -/
theorem rigid_lexeme : lexeme.Rigid where
  reads h := reads_iff.2 (read?_eq_some_iff.1 h).2
  ends_inside {u r z f g} hu _ h := by
    obtain ⟨y, rfl, hz⟩ := begins_behind_digits hu h
    rw [← List.append_assoc] at hz
    have hp : g.kind.right <+: y ++ f.written := by
      have hfirst := List.prefix_append g.kind.right z
      have hsecond : y ++ f.written <+: g.kind.right ++ z := hz ▸ List.prefix_append _ r
      refine List.prefix_of_prefix_length_le hfirst hsecond ?_
      have := length_right_le g.kind f
      rw [List.length_append]
      omega
    obtain ⟨x, hx⟩ := hp
    rw [← hx, List.append_assoc] at hz
    exact ⟨x, (List.append_cancel_left hz).symm⟩

end Form

end Stencil.Shield
