import Stencil.Token.Cut

/-!
# Which cut a text has

The cut of a text is known by two facts: every lexeme in it is read where it is written, and no
lexeme begins inside of a gap. For most kinds of lexemes the second fact is local. If none of them
can go on past the end of one that begins later, it is enough to look at each gap together with the
lexeme right behind it, so a gap may be changed without a look at the rest of the text:
`Rigid.cut_eq_iff`.
-/

namespace Stencil.Token

variable {α : Type}

/-- The text of lexemes, each with the gap behind it. -/
def woven (f : α → List Char) (tail : List (α × List Char)) : List Char :=
  tail.flatMap fun p => f p.1 ++ p.2

@[simp] theorem woven_nil (f : α → List Char) : woven f [] = [] := rfl

@[simp] theorem woven_cons (f : α → List Char) (a : α) (gap : List Char)
    (tail : List (α × List Char)) :
    woven f ((a, gap) :: tail) = f a ++ (gap ++ woven f tail) := by
  simp [woven]

theorem woven_append (f : α → List Char) (front tail : List (α × List Char)) :
    woven f (front ++ tail) = woven f front ++ woven f tail :=
  List.flatMap_append

theorem woven_map {β : Type} (f : β → List Char) (g : α → β) (tail : List (α × List Char)) :
    woven f (tail.map fun q => (g q.1, q.2)) = woven (fun a => f (g a)) tail := by
  rw [woven, woven, List.flatMap_map]

theorem Cut.weave_eq (f : α → List Char) (c : Cut α) : c.weave f = c.head ++ woven f c.tail := rfl

namespace Lexeme

variable (L : Lexeme α)

/-- Whether `a` is read wherever it is written. -/
def Reads (a : α) : Prop :=
  ∀ r, L.read? (L.written a ++ r) = some (a, r)

/-- Whether no lexeme begins inside of `gap` when `next` stands behind it. -/
def Silent (gap next : List Char) : Prop :=
  ∀ u, u ≠ [] → u <:+ gap → L.read? (u ++ next) = none

/-- The first of some lexemes as it is written. -/
def front : List (α × List Char) → List Char
  | [] => []
  | (a, _) :: _ => L.written a

/-- Whether every gap is silent before the lexeme behind it and every lexeme is read. -/
def Apart : List Char → List (α × List Char) → Prop
  | gap, [] => L.Silent gap []
  | gap, (a, next) :: more => L.Silent gap (L.written a) ∧ L.Reads a ∧ Apart next more

variable {L} {gap gap' next r : List Char} {a : α} {tail : List (α × List Char)}

theorem silent_nil : L.Silent [] next := by
  intro u hne hu
  exact absurd (List.suffix_nil.1 hu) hne

theorem Silent.of_suffix (h : L.Silent gap next) (hs : gap' <:+ gap) : L.Silent gap' next :=
  fun u hne hu => h u hne (hu.trans hs)

theorem silent_cons_iff {x : Char} :
    L.Silent (x :: gap) next ↔ L.read? (x :: (gap ++ next)) = none ∧ L.Silent gap next := by
  constructor
  · intro h
    exact ⟨h (x :: gap) (by simp) List.suffix_rfl, h.of_suffix (List.suffix_cons x gap)⟩
  · rintro ⟨h, hs⟩ u hne hu
    rcases List.suffix_cons_iff.1 hu with rfl | hu
    · exact h
    · exact hs u hne hu

theorem Apart.silent (h : L.Apart gap tail) : L.Silent gap (L.front tail) := by
  cases tail with
  | nil => exact h
  | cons p more => exact h.1

theorem Apart.replace (h : L.Apart gap tail) (hs : L.Silent gap' (L.front tail)) :
    L.Apart gap' tail := by
  cases tail with
  | nil => exact hs
  | cons p more => exact ⟨hs, h.2⟩

theorem Apart.reads (h : L.Apart gap tail) : ∀ p ∈ tail, L.Reads p.1 := by
  induction tail generalizing gap with
  | nil => simp
  | cons p more ih =>
    intro q hq
    rcases List.mem_cons.1 hq with rfl | hq
    · exact h.2.1
    · exact ih h.2.2 q hq

/-- A silent gap becomes part of the first gap of the cut. -/
theorem cut_append (h : L.Silent gap next) :
    L.cut (gap ++ next) = ⟨gap ++ (L.cut next).head, (L.cut next).tail⟩ := by
  induction gap with
  | nil => rfl
  | cons x gap ih =>
    obtain ⟨hx, h⟩ := silent_cons_iff.1 h
    rw [List.cons_append, L.cut_cons hx, ih h]
    rfl

/-- Where a gap is not silent, the first lexeme begins inside of it. -/
theorem silent_or_cut (L : Lexeme α) (gap next : List Char) : L.Silent gap next ∨
    ∃ g u a z tail, gap = g ++ u ∧ u ≠ [] ∧ L.cut (gap ++ next) = ⟨g, (a, z) :: tail⟩ := by
  induction gap with
  | nil => exact .inl silent_nil
  | cons x gap ih =>
    cases hx : L.read? (x :: (gap ++ next)) with
    | some p => exact .inr ⟨[], x :: gap, _, _, _, rfl, by simp, L.cut_of_read? hx⟩
    | none =>
      rcases ih with h | ⟨g, u, a, z, tail, rfl, hu, hc⟩
      · exact .inl (silent_cons_iff.2 ⟨hx, h⟩)
      · refine .inr ⟨x :: g, u, a, z, tail, rfl, hu, ?_⟩
        rw [List.cons_append, L.cut_cons hx, hc]
        rfl

variable (L) in
/-- A kind of lexeme that is read wherever it is written and none of which goes on past the end of
one that begins later. -/
structure Rigid : Prop where
  reads : ∀ {s r : List Char} {a : α}, L.read? s = some (a, r) → L.Reads a
  ends_inside : ∀ {u r z : List Char} {a b : α}, u ≠ [] → L.Reads a →
    L.read? (u ++ (L.written a ++ r)) = some (b, z) → ∃ y, z = y ++ r

namespace Rigid

variable (hL : L.Rigid)
include hL

theorem read?_append {s z : List Char} (h : L.read? s = some (a, z)) (r : List Char) :
    L.read? (s ++ r) = some (a, z ++ r) := by
  rw [L.read?_eq h, List.append_assoc]
  exact hL.reads h _

theorem read?_eq_none_of_append {s : List Char} (h : L.read? (s ++ r) = none) :
    L.read? s = none := by
  cases hs : L.read? s with
  | none => rfl
  | some p => simp [hL.read?_append hs r] at h

theorem silent_nil_of_silent (h : L.Silent gap next) : L.Silent gap [] := by
  intro u hne hu
  refine hL.read?_eq_none_of_append (r := next) ?_
  rw [List.append_nil]
  exact h u hne hu

/-- Whether a gap is silent does not depend on what stands behind the next lexeme. -/
theorem silent_append_iff (ha : L.Reads a) :
    L.Silent gap (L.written a ++ r) ↔ L.Silent gap (L.written a) := by
  constructor
  · intro h u hne hu
    refine hL.read?_eq_none_of_append (r := r) ?_
    rw [List.append_assoc]
    exact h u hne hu
  · intro h u hne hu
    cases hr : L.read? (u ++ (L.written a ++ r)) with
    | none => rfl
    | some p =>
      obtain ⟨b, z⟩ := p
      obtain ⟨y, rfl⟩ := hL.ends_inside hne ha hr
      have he : u ++ L.written a = L.written b ++ y := by
        have := L.read?_eq hr
        rw [← List.append_assoc, ← List.append_assoc] at this
        exact List.append_cancel_right this
      have hn := h u hne hu
      rw [he, hL.reads hr y] at hn
      exact absurd hn (by simp)

theorem silent_woven_iff (ht : ∀ p ∈ tail, L.Reads p.1) :
    L.Silent gap (woven L.written tail) ↔ L.Silent gap (L.front tail) := by
  cases tail with
  | nil => rfl
  | cons p more =>
    obtain ⟨a, next⟩ := p
    rw [woven_cons]
    exact hL.silent_append_iff (ht _ List.mem_cons_self)

/-- Lexemes that stand apart are the cut of their text. -/
theorem cut_woven (h : L.Apart gap tail) : L.cut (gap ++ woven L.written tail) = ⟨gap, tail⟩ := by
  rw [cut_append ((hL.silent_woven_iff h.reads).2 h.silent)]
  induction tail generalizing gap with
  | nil => simp
  | cons p more ih =>
    obtain ⟨a, next⟩ := p
    obtain ⟨-, ha, h⟩ := h
    rw [woven_cons, L.cut_of_read? (ha _), cut_append ((hL.silent_woven_iff h.reads).2 h.silent),
      Cut.consLexeme, ih h]
    simp

theorem apart_cut (s : List Char) : L.Apart (L.cut s).head (L.cut s).tail := by
  induction hn : s.length using Nat.strongRecOn generalizing s with
  | _ n ih =>
    subst hn
    cases h : L.read? s with
    | some p =>
      obtain ⟨a, r⟩ := p
      rw [L.cut_of_read? h]
      exact ⟨silent_nil, hL.reads h, ih _ (L.length_lt h) r rfl⟩
    | none =>
      cases s with
      | nil => simpa [Apart] using silent_nil
      | cons x s =>
        have hs := ih _ (Nat.lt_succ_self _) s rfl
        rw [L.cut_cons h]
        refine hs.replace (silent_cons_iff.2 ⟨?_, hs.silent⟩)
        -- Up to the end of the next lexeme the text is a front part of the whole one.
        cases ht : (L.cut s).tail with
        | nil =>
          have he := L.weave_cut s
          simp only [Cut.weave_eq, ht, woven_nil, List.append_nil] at he
          simpa [front, he] using h
        | cons p more =>
          obtain ⟨a, next⟩ := p
          refine hL.read?_eq_none_of_append (r := next ++ woven L.written more) ?_
          have he := L.weave_cut s
          simp only [Cut.weave_eq, ht, woven_cons] at he
          simpa [front, he] using h

/-- The cut of a text is the one way to write it as lexemes that stand apart. -/
theorem cut_eq_iff {s : List Char} {c : Cut α} :
    L.cut s = c ↔ c.weave L.written = s ∧ L.Apart c.head c.tail := by
  constructor
  · rintro rfl
    exact ⟨L.weave_cut s, hL.apart_cut s⟩
  · rintro ⟨rfl, h⟩
    exact hL.cut_woven h

end Rigid

end Lexeme

end Stencil.Token
