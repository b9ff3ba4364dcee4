import Mathlib.Data.List.TakeWhile
import Stencil.Text.Cursor

/-!
# Patterns

The front of a text can be searched for a pattern. The search takes the longest run of a class first
and goes back to a shorter one whenever the rest of the pattern fails behind it. Going back, it
finds every match there is and nothing else, `mem_tries_iff`, and so the order in which it tries
them matters only where there is more than one: `first?_eq_some_iff_of_unique`.
-/

namespace Stencil.Text

/-! ### Runs -/

/-- The ways to take a run of a class from the front of a text, the longest first, each with what it
leaves. -/
def runs (p : Char → Bool) : List Char → List (List Char × List Char)
  | [] => [([], [])]
  | c :: s =>
    if p c then (runs p s).map (fun q => (c :: q.1, q.2)) ++ [([], c :: s)] else [([], c :: s)]

/-- Whether `taken` is all of a run of a class that goes on at `rest`. -/
structure WholeRun (p : Char → Bool) (taken rest : List Char) : Prop where
  all : ∀ c ∈ taken, p c = true
  stops : ∀ c, rest.head? = some c → p c = false

variable {p stop : Char → Bool} {s taken rest : List Char}

theorem mem_runs_iff : (taken, rest) ∈ runs p s ↔ s = taken ++ rest ∧ ∀ c ∈ taken, p c = true := by
  induction s generalizing taken with
  | nil =>
    simp only [runs, List.mem_singleton, Prod.mk.injEq, List.nil_eq, List.append_eq_nil_iff]
    constructor
    · intro h
      exact ⟨h, by simp [h.1]⟩
    · intro h
      exact h.1
  | cons c s ih =>
    by_cases hc : p c = true
    · rw [runs, if_pos hc, List.mem_append, List.mem_map, List.mem_singleton]
      constructor
      · rintro (⟨⟨t, r⟩, hmem, he⟩ | he)
        · obtain ⟨rfl, rfl⟩ := Prod.mk.inj he
          obtain ⟨rfl, ht⟩ := ih.1 hmem
          exact ⟨rfl, List.forall_mem_cons.2 ⟨hc, ht⟩⟩
        · obtain ⟨rfl, rfl⟩ := Prod.mk.inj he
          exact ⟨rfl, by simp⟩
      · rintro ⟨hs, ht⟩
        cases taken with
        | nil => exact Or.inr (by rw [hs, List.nil_append])
        | cons d taken =>
          obtain ⟨rfl, rfl⟩ := List.cons.inj hs
          exact Or.inl ⟨(taken, rest), ih.2 ⟨rfl, (List.forall_mem_cons.1 ht).2⟩, rfl⟩
    · rw [runs, if_neg hc, List.mem_singleton, Prod.mk.injEq]
      constructor
      · rintro ⟨rfl, rfl⟩
        exact ⟨rfl, by simp⟩
      · rintro ⟨hs, ht⟩
        cases taken with
        | nil => exact ⟨rfl, hs.symm⟩
        | cons d taken =>
          obtain ⟨rfl, -⟩ := List.cons.inj hs
          exact absurd (List.forall_mem_cons.1 ht).1 hc

theorem head?_runs (p : Char → Bool) (s : List Char) :
    (runs p s).head? = some (s.takeWhile p, s.dropWhile p) := by
  induction s with
  | nil => rfl
  | cons c s ih =>
    by_cases hc : p c = true
    · rw [runs, if_pos hc, List.head?_append, List.head?_map, ih]
      simp [hc]
    · simp [runs, hc]

theorem wholeRun_iff :
    s = taken ++ rest ∧ WholeRun p taken rest ↔ s.takeWhile p = taken ∧ s.dropWhile p = rest := by
  constructor
  · rintro ⟨rfl, hall, hstops⟩
    rw [takeWhile_append_of_head? hstops, dropWhile_append_of_head? hstops,
      List.takeWhile_eq_self_iff.2 hall, List.dropWhile_eq_nil_iff.2 hall]
    exact ⟨rfl, rfl⟩
  · rintro ⟨rfl, rfl⟩
    refine ⟨List.takeWhile_append_dropWhile.symm, fun c hc => holds_of_mem_takeWhile hc, ?_⟩
    intro c hc
    have hstop := List.head?_dropWhile_not p s
    rwa [hc] at hstop

/-! ### Patterns -/

inductive Pattern where
  | one (p : Char → Bool)
  | many (p : Char → Bool)
  /-- Nothing, at the end of the text or in front of a line feed that ends it. -/
  | ending
  | notAhead (a : Pattern)
  | andThen (a b : Pattern)
  | orElse (a b : Pattern)

namespace Pattern

def atLeastOne (p : Char → Bool) : Pattern :=
  andThen (one p) (many p)

/-- The matches at the front of a text in the order in which they are tried: what each takes and
what it leaves. -/
def tries : Pattern → List Char → List (List Char × List Char)
  | one p, s =>
    match s with
    | [] => []
    | c :: r => if p c then [([c], r)] else []
  | many p, s => runs p s
  | ending, s => if s = [] ∨ s = ['\n'] then [([], s)] else []
  | notAhead a, s => if (a.tries s).isEmpty then [([], s)] else []
  | andThen a b, s => (a.tries s).flatMap fun q => (b.tries q.2).map fun u => (q.1 ++ u.1, u.2)
  | orElse a b, s => a.tries s ++ b.tries s

/-- What the search finds: the first match that it tries. -/
def first? (a : Pattern) (s : List Char) : Option (List Char × List Char) :=
  (a.tries s).head?

/-- Whether a pattern matches `taken` in front of `rest`, in whatever order one looks. -/
def Takes : Pattern → List Char → List Char → Prop
  | one p, taken, _ => ∃ c, p c = true ∧ taken = [c]
  | many p, taken, _ => ∀ c ∈ taken, p c = true
  | ending, taken, rest => taken = [] ∧ (rest = [] ∨ rest = ['\n'])
  | notAhead a, taken, rest => taken = [] ∧ ∀ t r, rest = t ++ r → ¬ a.Takes t r
  | andThen a b, taken, rest => ∃ t u, taken = t ++ u ∧ a.Takes t (u ++ rest) ∧ b.Takes u rest
  | orElse a b, taken, rest => a.Takes taken rest ∨ b.Takes taken rest

def Matches (a : Pattern) (s : List Char) : Prop :=
  ∃ taken rest, s = taken ++ rest ∧ a.Takes taken rest

variable {a b : Pattern}

/-! ### What the search finds -/

/-- Going back, the search tries every match there is and nothing else. -/
theorem mem_tries_iff : (taken, rest) ∈ a.tries s ↔ s = taken ++ rest ∧ a.Takes taken rest := by
  -- The text is arbitrary: the second pattern of two is tried on what the first one leaves.
  induction a generalizing s taken rest with
  | one p =>
    cases s with
    | nil => simp +contextual [tries, Takes]
    | cons d s =>
      simp only [tries, Takes, List.mem_ite_nil_right, List.mem_singleton, Prod.mk.injEq]
      constructor
      · rintro ⟨hd, rfl, rfl⟩
        exact ⟨rfl, d, hd, rfl⟩
      · rintro ⟨hs, c, hc, rfl⟩
        obtain ⟨rfl, rfl⟩ := List.cons.inj hs
        exact ⟨hc, rfl, rfl⟩
  | many p => exact mem_runs_iff
  | ending =>
    simp only [tries, Takes, List.mem_ite_nil_right, List.mem_singleton, Prod.mk.injEq]
    constructor
    · rintro ⟨hs, rfl, rfl⟩
      exact ⟨rfl, rfl, hs⟩
    · rintro ⟨rfl, rfl, hs⟩
      exact ⟨hs, rfl, rfl⟩
  | notAhead a ih =>
    have hnone : (a.tries s).isEmpty = true ↔ ∀ t r, s = t ++ r → ¬ a.Takes t r := by
      rw [List.isEmpty_iff, List.eq_nil_iff_forall_not_mem]
      constructor
      · intro h t r hs ht
        exact h (t, r) (ih.2 ⟨hs, ht⟩)
      · intro h q hq
        obtain ⟨hs, ht⟩ := ih.1 hq
        exact h q.1 q.2 hs ht
    simp only [tries, Takes, List.mem_ite_nil_right, List.mem_singleton, Prod.mk.injEq, hnone]
    constructor
    · rintro ⟨h, rfl, rfl⟩
      exact ⟨rfl, rfl, h⟩
    · rintro ⟨rfl, rfl, h⟩
      exact ⟨h, rfl, rfl⟩
  | andThen a b iha ihb =>
    simp only [tries, Takes, List.mem_flatMap, List.mem_map, Prod.exists, Prod.mk.injEq]
    constructor
    · rintro ⟨t, r, ha, u, v, hb, rfl, rfl⟩
      obtain ⟨rfl, hta⟩ := iha.1 ha
      obtain ⟨rfl, htb⟩ := ihb.1 hb
      exact ⟨(List.append_assoc t u v).symm, t, u, rfl, hta, htb⟩
    · rintro ⟨rfl, t, u, rfl, hta, htb⟩
      exact ⟨t, u ++ rest, iha.2 ⟨List.append_assoc t u rest, hta⟩, u, rest, ihb.2 ⟨rfl, htb⟩,
        rfl, rfl⟩
  | orElse a b iha ihb =>
    simp only [tries, Takes, List.mem_append, iha, ihb, and_or_left]

/-- The run is taken up to the `c` at first, and then the search goes back. -/
example : (andThen (many (· != 'c')) (one (· == 'b'))).first? ['a', 'b', 'b', 'c'] =
    some (['a', 'b', 'b'], ['c']) := by decide

theorem isSome_first?_iff : (a.first? s).isSome = true ↔ a.Matches s := by
  rw [first?, List.isSome_head?]
  constructor
  · intro h
    obtain ⟨q, hq⟩ := List.exists_mem_of_ne_nil _ h
    exact ⟨q.1, q.2, mem_tries_iff.1 hq⟩
  · rintro ⟨taken, rest, h⟩
    exact List.ne_nil_of_mem (mem_tries_iff.2 h)

theorem first?_eq_none_iff : a.first? s = none ↔ ¬ a.Matches s := by
  rw [← isSome_first?_iff, Bool.not_eq_true, Option.isSome_eq_false_iff, Option.isNone_iff_eq_none]

theorem eq_of_first? (h : a.first? s = some (taken, rest)) :
    s = taken ++ rest ∧ a.Takes taken rest :=
  mem_tries_iff.1 (List.mem_of_mem_head? h)

theorem first?_eq_some_iff_of_unique
    (hone : ∀ t r u v, s = t ++ r → s = u ++ v → a.Takes t r → a.Takes u v → t = u) :
    a.first? s = some (taken, rest) ↔ s = taken ++ rest ∧ a.Takes taken rest := by
  constructor
  · exact eq_of_first?
  · rintro ⟨hs, h⟩
    cases hfirst : a.first? s with
    | none => exact absurd ⟨taken, rest, hs, h⟩ (first?_eq_none_iff.1 hfirst)
    | some q =>
      obtain ⟨t, r⟩ := q
      obtain ⟨ht, htakes⟩ := eq_of_first? hfirst
      obtain rfl := hone t r taken rest ht hs htakes h
      rw [List.append_cancel_left (hs.symm.trans ht)]

/-! ### Runs as patterns -/

/-- Of a run that may be taken in several ways the whole one is found. -/
theorem first?_atLeastOne_iff :
    (atLeastOne p).first? s = some (taken, rest) ↔
      (s = taken ++ rest ∧ WholeRun p taken rest) ∧ taken ≠ [] := by
  have hfirst : (atLeastOne p).first? s =
      if s.takeWhile p = [] then none else some (s.takeWhile p, s.dropWhile p) := by
    cases s with
    | nil => rfl
    | cons c s => by_cases hc : p c = true <;> simp [first?, atLeastOne, tries, hc, head?_runs]
  rw [hfirst, wholeRun_iff]
  constructor
  · intro h
    split at h
    · cases h
    · next hne =>
      obtain ⟨rfl, rfl⟩ := Prod.mk.inj (Option.some.inj h)
      exact ⟨⟨rfl, rfl⟩, hne⟩
  · rintro ⟨⟨rfl, rfl⟩, hne⟩
    rw [if_neg hne]

theorem takes_atLeastOne_iff :
    (atLeastOne p).Takes taken rest ↔ taken ≠ [] ∧ ∀ c ∈ taken, p c = true := by
  simp only [atLeastOne, Takes]
  constructor
  · rintro ⟨t, u, rfl, ⟨c, hc, rfl⟩, hu⟩
    exact ⟨by simp, List.forall_mem_cons.2 ⟨hc, hu⟩⟩
  · rintro ⟨hne, h⟩
    obtain ⟨c, u, rfl⟩ := List.exists_cons_of_ne_nil hne
    obtain ⟨hc, hu⟩ := List.forall_mem_cons.1 h
    exact ⟨[c], u, rfl, ⟨c, hc, rfl⟩, hu⟩

/-! ### What comes first -/

theorem matches_one_iff : (one p).Matches s ↔ ∃ c r, s = c :: r ∧ p c = true := by
  constructor
  · rintro ⟨t, r, rfl, c, hc, rfl⟩
    exact ⟨c, r, rfl, hc⟩
  · rintro ⟨c, r, rfl, hc⟩
    exact ⟨[c], r, rfl, c, hc, rfl⟩

theorem matches_ending_iff : ending.Matches s ↔ s = [] ∨ s = ['\n'] := by
  constructor
  · rintro ⟨t, r, rfl, rfl, h⟩
    exact h
  · intro h
    exact ⟨[], s, rfl, rfl, h⟩

theorem matches_andThen_iff :
    (andThen a b).Matches s ↔ ∃ t r, s = t ++ r ∧ a.Takes t r ∧ b.Matches r := by
  constructor
  · rintro ⟨taken, rest, rfl, t, u, rfl, ha, hb⟩
    exact ⟨t, u ++ rest, List.append_assoc t u rest, ha, u, rest, rfl, hb⟩
  · rintro ⟨t, r, rfl, ha, u, rest, rfl, hb⟩
    exact ⟨t ++ u, rest, (List.append_assoc t u rest).symm, t, u, rfl, ha, hb⟩

theorem takes_andThen_notAhead_iff :
    (andThen a (notAhead b)).Takes taken rest ↔ a.Takes taken rest ∧ ¬ b.Matches rest := by
  constructor
  · rintro ⟨t, u, rfl, ha, rfl, hb⟩
    refine ⟨by simpa using ha, ?_⟩
    rintro ⟨t', r, hrest, htakes⟩
    exact hb t' r hrest htakes
  · rintro ⟨ha, hb⟩
    refine ⟨taken, [], (List.append_nil taken).symm, ha, rfl, ?_⟩
    intro t r hrest htakes
    exact hb ⟨t, r, hrest, htakes⟩

theorem matches_orElse_iff : (orElse a b).Matches s ↔ a.Matches s ∨ b.Matches s := by
  simp only [Matches, Takes, and_or_left, exists_or]

theorem matches_andThen_orElse_iff {c : Pattern} :
    (andThen a (orElse b c)).Matches s ↔ (andThen a b).Matches s ∨ (andThen a c).Matches s := by
  simp only [matches_andThen_iff, matches_orElse_iff, and_or_left, exists_or]

def upTo (stop : Char → Bool) : Pattern :=
  many fun c => !stop c

theorem matches_upTo_one_iff (hp : ∀ c, p c = true → stop c = true) :
    (andThen (upTo stop) (one p)).Matches s ↔ ∃ c, s.find? stop = some c ∧ p c = true := by
  rw [matches_andThen_iff]
  constructor
  · rintro ⟨t, r, rfl, ht, hone⟩
    obtain ⟨c, r, rfl, hc⟩ := matches_one_iff.1 hone
    exact ⟨c, List.find?_eq_some_iff_append.2 ⟨hp c hc, t, r, rfl, ht⟩, hc⟩
  · rintro ⟨c, hfind, hc⟩
    obtain ⟨-, t, r, rfl, ht⟩ := List.find?_eq_some_iff_append.1 hfind
    exact ⟨t, c :: r, rfl, ht, matches_one_iff.2 ⟨c, r, rfl, hc⟩⟩

/-- A line feed that ends the text makes no difference to a run that goes on to the end. -/
theorem matches_upTo_ending_iff (hfeed : stop '\n' = false) :
    (andThen (upTo stop) ending).Matches s ↔ s.find? stop = none := by
  rw [matches_andThen_iff, List.find?_eq_none]
  constructor
  · rintro ⟨t, r, rfl, ht, hending⟩ c hc
    rcases List.mem_append.1 hc with hc | hc
    · simpa using ht c hc
    · rcases matches_ending_iff.1 hending with rfl | rfl
      · simp at hc
      · simp [List.mem_singleton.1 hc, hfeed]
  · intro h
    refine ⟨s, [], (List.append_nil s).symm, fun c hc => ?_, matches_ending_iff.2 (Or.inl rfl)⟩
    simpa using h c hc

end Pattern

end Stencil.Text
