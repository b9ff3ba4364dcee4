import Stencil.Proofs.CutLaws
import Stencil.Token.Markers

/-!
# Tokens as lexemes

Markers may be any texts that do not touch the index with a digit. They may overlap themselves and
each other, and yet no token goes on past the end of one that begins later: the digits of the first
would have to run over the last character of the second one's opening marker. So tokens are rigid
lexemes, and the cut of a text at its tokens is known gap by gap.
-/

namespace Stencil.Token

open Stencil.Text

/-- Two texts that begin with the same `o`, one of them `u` later: the character behind the later
`o` lies inside of the run `e` behind the first one, if that run is no shorter than `u`. -/
theorem mem_of_shifted {u o e x y : List Char} {c c' : Char} (hu : u ≠ [])
    (h : u ++ (o ++ c :: x) = o ++ c' :: (e ++ y)) (hle : u.length ≤ e.length) : c ∈ e := by
  have hpos := List.length_pos_iff.2 hu
  have hat : (u ++ (o ++ c :: x))[u.length + o.length]? = some c := by
    rw [List.getElem?_append_right (by omega), List.getElem?_append_right (by omega)]
    simp
  rw [h, List.getElem?_append_right (by omega)] at hat
  obtain ⟨n, hn⟩ : ∃ n, u.length = n + 1 := ⟨u.length - 1, by omega⟩
  rw [show u.length + o.length - o.length = n + 1 by omega, List.getElem?_cons_succ,
    List.getElem?_append_left (by omega)] at hat
  exact List.mem_of_getElem? hat

/-- Where a text `o` stands behind `p` and the whole begins with `o` too, the character behind the
first `o` is one of `p`. -/
theorem mem_of_periodic {p : List Char} (hp : p ≠ []) {o t y : List Char} {d : Char}
    (h : p ++ (o ++ t) = o ++ d :: y) : d ∈ p := by
  induction hn : o.length using Nat.strongRecOn generalizing o with
  | _ n ih =>
    subst hn
    rcases List.append_eq_append_iff.1 h with ⟨o', rfl, h'⟩ | ⟨q, rfl, h'⟩
    · -- `o` begins with `p`, and the rest of `o` is in the same position.
      rw [List.append_assoc] at h'
      have hpos := List.length_pos_iff.2 hp
      refine ih o'.length ?_ h' rfl
      rw [List.length_append]
      omega
    · cases q with
      | nil =>
        -- `o` is `p`, and it stands behind itself.
        simp only [List.append_nil, List.nil_append] at hp h' ⊢
        obtain ⟨c, o, rfl⟩ := List.exists_cons_of_ne_nil hp
        obtain ⟨rfl, -⟩ := List.cons.inj h'
        exact List.mem_cons_self
      | cons c q =>
        obtain ⟨rfl, -⟩ := List.cons.inj h'
        simp

namespace Markers

variable (m : Markers)

@[simp] theorem lexeme_written : m.lexeme.written = m.token := rfl

theorem reads_iff {digits : List Char} :
    m.lexeme.Reads digits ↔ digits ≠ [] ∧ ∀ c ∈ digits, isDecimal c = true := by
  constructor
  · intro h
    exact (readEnclosed_eq_some (h [])).2
  · rintro ⟨hne, hdec⟩ r
    exact m.read?_token hne hdec r

theorem opening_getLast : ∃ o c, m.opening = o ++ [c] ∧ isDecimal c = false := by
  refine ⟨_, _, (List.dropLast_concat_getLast m.opening_ne_nil).symm, ?_⟩
  have h := m.opening_digit _ (List.getLast?_eq_some_getLast m.opening_ne_nil)
  cases hd : isDecimal (m.opening.getLast m.opening_ne_nil)
  · rfl
  · exact absurd (isDigit_of_isDecimal hd) (by simp [h])

theorem digits_length_lt {u digits digits' r z : List Char} (hu : u ≠ [])
    (h : m.lexeme.read? (u ++ (m.token digits ++ r)) = some (digits', z)) :
    digits'.length < u.length := by
  obtain ⟨he, -, hdec⟩ := readEnclosed_eq_some h
  obtain ⟨o, c, ho, hc⟩ := m.opening_getLast
  refine Nat.lt_of_not_le fun hle => ?_
  simp only [token, ho, List.append_assoc, List.cons_append, List.nil_append] at he
  have := hdec c (mem_of_shifted hu he hle)
  simp [hc] at this

theorem rigid_lexeme : m.lexeme.Rigid where
  reads h := m.reads_iff.2 (readEnclosed_eq_some h).2
  ends_inside {u r z digits digits'} hu _ h := by
    have hlt := m.digits_length_lt hu h
    have he := m.lexeme.read?_eq h
    rw [lexeme_written, ← List.append_assoc] at he
    have hp : m.token digits' <+: u ++ m.token digits := by
      have hfirst := List.prefix_append (m.token digits') z
      have hsecond : u ++ m.token digits <+: m.token digits' ++ z := he ▸ List.prefix_append _ r
      refine List.prefix_of_prefix_length_le hfirst hsecond ?_
      simp only [token, List.length_append]
      omega
    obtain ⟨y, hy⟩ := hp
    rw [← hy, List.append_assoc] at he
    exact ⟨y, (List.append_cancel_left he).symm⟩

variable {m}

theorem read?_cons_of_ne {x : Char} (hx : m.opening.head? ≠ some x) (s : List Char) :
    m.lexeme.read? (x :: s) = none := by
  cases h : m.lexeme.read? (x :: s) with
  | none => rfl
  | some p =>
    obtain ⟨c, o, ho⟩ := List.exists_cons_of_ne_nil m.opening_ne_nil
    have he := m.lexeme.read?_eq h
    simp only [lexeme_written, token, ho, List.cons_append, List.cons.injEq] at he
    exact absurd (by simp [ho, he.1]) hx

theorem read?_percent_space {t : List Char} (ht : m.opensAt t = true) :
    m.lexeme.read? ('%' :: ' ' :: t) = none := by
  cases h : m.lexeme.read? ('%' :: ' ' :: t) with
  | none => rfl
  | some p =>
    obtain ⟨digits, z⟩ := p
    obtain ⟨t, rfl⟩ := startsWith_iff.1 ht
    obtain ⟨he, hne, hdec⟩ := readEnclosed_eq_some h
    obtain ⟨d, digits, rfl⟩ := List.exists_cons_of_ne_nil hne
    have hd : d ∈ ['%', ' '] := by
      refine mem_of_periodic (by simp) (o := m.opening) (t := t)
        (y := digits ++ m.closing ++ z) ?_
      simpa using he
    have hdd := hdec d List.mem_cons_self
    rcases List.mem_cons.1 hd with rfl | hd
    · exact absurd hdd (by decide)
    · obtain rfl := List.mem_singleton.1 hd
      exact absurd hdd (by decide)

/-- An opening marker reaches no further than through the next token. -/
theorem opensAt_woven_iff {gap : List Char} {tail : List (List Char × List Char)} :
    m.opensAt (gap ++ woven m.token tail) = m.opensAt (gap ++ m.lexeme.front tail) := by
  cases tail with
  | nil => rfl
  | cons p more =>
    obtain ⟨digits, next⟩ := p
    rw [Bool.eq_iff_iff]
    simp only [opensAt, startsWith_iff, woven_cons, Lexeme.front, lexeme_written]
    constructor
    · rintro ⟨r, hr⟩
      have hp : m.opening <+: gap ++ m.token digits := by
        refine List.prefix_of_prefix_length_le (List.prefix_append _ r)
          (hr ▸ ⟨next ++ woven m.token more, by simp⟩) ?_
        simp only [token, List.length_append]
        omega
      obtain ⟨y, hy⟩ := hp
      exact ⟨y, hy.symm⟩
    · rintro ⟨r, hr⟩
      exact ⟨r ++ (next ++ woven m.token more), by rw [← List.append_assoc, hr, List.append_assoc]⟩

theorem opensAt_woven {tail : List (List Char × List Char)} (h : woven m.token tail ≠ []) :
    m.opensAt (woven m.token tail) = true := by
  cases tail with
  | nil => exact absurd rfl h
  | cons q tail =>
    rw [opensAt, startsWith_iff]
    exact ⟨q.1 ++ m.closing ++ (q.2 ++ woven m.token tail), by simp [woven, token]⟩

theorem cons_of_not_opensAt {gap next rest : List Char} {x : Char}
    (hnext : next ≠ [] → m.opensAt next = true) (hx : gap ++ next = x :: rest)
    (hclosed : m.opensAt (gap ++ next) = false) :
    ∃ rest', gap = x :: rest' ∧ rest = rest' ++ next := by
  cases gap with
  | nil =>
    have hne : next ≠ [] := by
      rintro rfl
      simp at hx
    rw [List.nil_append, hnext hne] at hclosed
    exact absurd hclosed (by simp)
  | cons c gap =>
    obtain ⟨rfl, rfl⟩ := List.cons.inj hx
    exact ⟨gap, rfl, rfl⟩

theorem cut_of_tokens_eq_nil {s : List Char} (h : m.tokens s = []) : m.cut s = ⟨s, []⟩ := by
  have htext : (m.cut s).weave m.token = s := m.lexeme.weave_cut s
  have htail : (m.cut s).tail = [] := List.map_eq_nil_iff.1 (List.map_eq_nil_iff.1 h)
  rw [Cut.weave_eq, htail, woven_nil, List.append_nil] at htext
  calc m.cut s = ⟨(m.cut s).head, (m.cut s).tail⟩ := rfl
    _ = ⟨s, []⟩ := by rw [htext, htail]

/-! ### The standard markers -/

/-- Two percent signs open a token, and no third one does. -/
theorem standard_opening :
    standard.opening = '%' :: '%' :: 's' :: "tyled-jsx-placeholder-".toList := by
  decide +kernel

theorem standard_head?_ne_space : standard.opening.head? ≠ some ' ' := by
  rw [standard_opening]
  decide

theorem standard_closing : standard.closing = ['%', '%'] := by
  decide +kernel

theorem standard_token_eq {digits : List Char} (h : standard.lexeme.Reads digits) :
    ∃ inside, '%' ∉ inside ∧ '_' ∉ inside ∧
      standard.token digits = '%' :: '%' :: 's' :: (inside ++ ['%', '%']) := by
  have hinside {c : Char} (hc : c ∉ "tyled-jsx-placeholder-".toList) (hd : isDecimal c = false) :
      c ∉ "tyled-jsx-placeholder-".toList ++ digits := by
    intro hmem
    rcases List.mem_append.1 hmem with hmem | hmem
    · exact hc hmem
    · simp [(standard.reads_iff.1 h).2 c hmem] at hd
  refine ⟨_, hinside (c := '%') (by decide +kernel) (by decide),
    hinside (c := '_') (by decide +kernel) (by decide), ?_⟩
  rw [token, standard_opening, standard_closing]
  simp only [List.cons_append]

theorem opensAt_standard_iff {s : List Char} : standard.opensAt s = true ↔
    ∃ r, s = '%' :: '%' :: 's' :: ("tyled-jsx-placeholder-".toList ++ r) := by
  rw [opensAt, startsWith_iff, standard_opening]
  rfl

theorem standard_not_opensAt_of_ne {c : Char} (hc : c ≠ '%') (s : List Char) :
    standard.opensAt (c :: s) = false := by
  rw [Bool.eq_false_iff, Ne, opensAt_standard_iff]
  rintro ⟨r, he⟩
  exact hc (List.cons.inj he).1

theorem standard_not_opensAt_percent_of_ne {c : Char} (hc : c ≠ '%') (s : List Char) :
    standard.opensAt ('%' :: c :: s) = false := by
  rw [Bool.eq_false_iff, Ne, opensAt_standard_iff]
  rintro ⟨r, he⟩
  exact hc (List.cons.inj (List.cons.inj he).2).1

theorem standard_not_opensAt_percent {s : List Char} (h : standard.opensAt s = true) :
    standard.opensAt ('%' :: s) = false := by
  obtain ⟨r, rfl⟩ := opensAt_standard_iff.1 h
  rw [Bool.eq_false_iff, Ne, opensAt_standard_iff]
  rintro ⟨r', he⟩
  simp at he

end Markers

end Stencil.Token
