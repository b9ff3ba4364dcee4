import Stencil.Proofs.CutLaws

/-!
# Characters that no lexeme holds

At a character that no lexeme of a kind holds a text falls in two, and each part is cut without a
look at the other one. The last gap of the first part and the first gap of the second become one:
`Rigid.cut_append_cons`.
-/

namespace Stencil.Token

variable {α : Type}

namespace Cut

/-- The gap in front and the lexemes behind it, followed by another cut. -/
def glue (e : Cut α) : List Char → List (α × List Char) → Cut α
  | gap, [] => ⟨gap ++ e.head, e.tail⟩
  | gap, (a, next) :: more => ⟨gap, ((glue e next more).consLexeme a).tail⟩

/-- One cut behind another. The two gaps that meet become one. -/
def append (c e : Cut α) : Cut α :=
  glue e c.head c.tail

theorem append_consChar (x : Char) (c e : Cut α) :
    (c.consChar x).append e = (c.append e).consChar x := by
  obtain ⟨gap, tail⟩ := c
  cases tail <;> rfl

theorem append_consLexeme (a : α) (c e : Cut α) :
    (c.consLexeme a).append e = (c.append e).consLexeme a := rfl

@[simp] theorem lexemes_consChar (x : Char) (c : Cut α) : (c.consChar x).lexemes = c.lexemes := rfl

theorem lexemes_append (c e : Cut α) : (c.append e).lexemes = c.lexemes ++ e.lexemes := by
  obtain ⟨gap, tail⟩ := c
  induction tail generalizing gap with
  | nil => rfl
  | cons q more ih =>
    obtain ⟨a, next⟩ := q
    exact congrArg (a :: ·) (ih next)

end Cut

namespace Lexeme

variable {L : Lexeme α} {c : Char}

variable (L) in
def Avoids (c : Char) : Prop :=
  ∀ a, L.Reads a → c ∉ L.written a

@[simp] theorem lexemes_nil : L.lexemes [] = [] := by
  rw [lexemes, cut_nil]
  rfl

theorem forall_mem_lexemes_iff (L : Lexeme α) (P : α → Prop) (s : List Char) :
    (∀ a ∈ L.lexemes s, P a) ↔ ∀ q ∈ (L.cut s).tail, P q.1 := by
  simp [lexemes, Cut.lexemes]

namespace Rigid

theorem lexemes_of_silent (hL : L.Rigid) {gap next : List Char} (h : L.Silent gap next) :
    L.lexemes gap = [] := by
  have hcut := cut_append (hL.silent_nil_of_silent h)
  rw [List.append_nil, L.cut_nil] at hcut
  rw [lexemes, hcut]
  rfl

variable (hL : L.Rigid) (hc : L.Avoids c)
include hL hc

/-- What is read in front of a character outside of lexemes does not depend on what stands behind
that character. -/
theorem read?_append_cons (s t : List Char) :
    L.read? (s ++ c :: t) = (L.read? s).map fun p => (p.1, p.2 ++ c :: t) := by
  cases hs : L.read? s with
  | some p => exact hL.read?_append hs _
  | none =>
    cases h : L.read? (s ++ c :: t) with
    | none => rfl
    | some p =>
      exfalso
      obtain ⟨a, z⟩ := p
      have ha := hL.reads h
      rcases List.append_eq_append_iff.1 (L.read?_eq h) with ⟨y, hy, hz⟩ | ⟨y, hy, hz⟩
      · -- The lexeme ends with the first part, or it would hold the character.
        cases y with
        | nil =>
          have hread := ha []
          rw [hy, List.append_nil, List.append_nil, hs] at hread
          exact absurd hread (by simp)
        | cons d y =>
          obtain ⟨rfl, -⟩ := List.cons.inj hz
          exact hc a ha (by simp [hy])
      · rw [hy, ha y] at hs
        exact absurd hs (by simp)

theorem cut_append_cons (s t : List Char) :
    L.cut (s ++ c :: t) = (L.cut s).append ((L.cut t).consChar c) := by
  -- On the length, for a lexeme takes any number of characters at once.
  induction hn : s.length using Nat.strongRecOn generalizing s with
  | _ n ih =>
    subst hn
    have hread := hL.read?_append_cons hc s t
    cases hs : L.read? s with
    | some p =>
      obtain ⟨a, r⟩ := p
      rw [hs] at hread
      rw [L.cut_of_read? hread, ih _ (L.length_lt hs) r rfl, L.cut_of_read? hs,
        Cut.append_consLexeme]
    | none =>
      rw [hs] at hread
      cases s with
      | nil =>
        rw [List.nil_append, L.cut_cons hread, L.cut_nil]
        rfl
      | cons x s =>
        rw [List.cons_append] at hread ⊢
        rw [L.cut_cons hread, ih _ (Nat.lt_succ_self _) s rfl, L.cut_cons hs, Cut.append_consChar]

theorem lexemes_append_cons (s t : List Char) :
    L.lexemes (s ++ c :: t) = L.lexemes s ++ L.lexemes t := by
  rw [lexemes, hL.cut_append_cons hc, Cut.lexemes_append, Cut.lexemes_consChar]
  rfl

end Rigid

end Lexeme

end Stencil.Token
