import Stencil.Proofs.RestoreTwice

/-!
# Canonical adjacency

Every rule looks at the text before anything was changed, and yet the result is in order at all of
its tokens: no percent sign and no unit is left apart from the token that it belongs to, and in
front of the block of an at-rule stands one space. What is done at other tokens changes style blanks
alone, which is nothing that these properties depend on: `canonical_restoreText`.
-/

namespace Stencil.Adjacency

open Stencil.Text Stencil.Token

/-- Whether nothing is out of place behind a token. -/
structure Canonical (m : Markers) (p : Place) : Prop where
  percent : ∀ blanks rest, Blanks blanks → p.after = blanks ++ '%' :: rest →
    m.opensAt ('%' :: rest) = true
  /-- Behind all the letters that follow blanks, if they are a unit and no part of a longer name, a
  block opens before the statement ends. -/
  unit : ∀ blanks letters rest, Blanks blanks → (∀ c ∈ letters, isLetter c = true) →
    (∀ c, rest.head? = some c → isLetter c = false) → isUnit letters = true →
    continuesName rest = false → p.after = blanks ++ (letters ++ rest) → opensBlock rest = true
  brace : startsWith ['@'] p.head = true → ∀ blanks rest, Blanks blanks →
    p.after = blanks ++ '{' :: rest → blanks = [' ']

variable {b b' gap rest rest' css out : List Char} {p : Place}

theorem canonical_of_not_isStyleBlank {c : Char} {x : List Char} (hc : isStyleBlank c = false)
    (b : List Char) : Canonical .standard ⟨b, c :: x⟩ := by
  have hne {blanks s : List Char} (h : Blanks blanks) (he : c :: x = blanks ++ s) : False := by
    obtain ⟨d, y, rfl, hd⟩ := h.exists_cons
    obtain ⟨rfl, -⟩ := List.cons.inj he
    simp [hc] at hd
  exact ⟨fun _ _ h he => (hne h he).elim, fun _ _ _ h _ _ _ _ he => (hne h he).elim,
    fun _ _ _ h he => (hne h he).elim⟩

theorem startsUnit_append {letters : List Char} (hletters : ∀ c ∈ letters, isLetter c = true)
    (hstop : ∀ c, rest.head? = some c → isLetter c = false) :
    startsUnit (letters ++ rest) =
      (isUnit letters && !continuesName rest && endsValue rest) := by
  have hnone : rest.takeWhile isLetter = [] ∧ rest.dropWhile isLetter = rest := by
    cases rest with
    | nil => simp
    | cons c rest => simp [hstop c rfl]
  rw [startsUnit, List.takeWhile_append_of_pos hletters, List.dropWhile_append_of_pos hletters,
    hnone.1, hnone.2, List.append_nil]

theorem canonical_of_chosen_keep (h : chosen .standard Rule.table p = .keep) :
    Canonical .standard p := by
  obtain ⟨b, after⟩ := p
  constructor
  · rintro blanks rest hblanks rfl
    rw [hblanks.chosen_table_append (by decide)] at h
    by_contra hclosed
    simp [hclosed] at h
  · rintro blanks letters rest hblanks hletters hstop hunit hname rfl
    have hne : letters ≠ [] := by
      rintro rfl
      exact absurd hunit (by decide +kernel)
    obtain ⟨c, x, rfl⟩ := List.exists_cons_of_ne_nil hne
    have hc := not_isStyleBlank_of_isLetter (hletters c List.mem_cons_self)
    rw [List.cons_append, hblanks.chosen_table_append hc, ← List.cons_append,
      startsUnit_append hletters hstop] at h
    by_contra hopens
    rw [Bool.not_eq_true] at hopens
    simp [hunit, hname, endsValue, hopens] at h
  · rintro hhead blanks rest hblanks rfl
    rw [hblanks.chosen_table_append (by decide)] at h
    by_contra hne
    rw [startsUnit_cons_of_not_isLetter (by decide)] at h
    simp [hhead, hne] at h

/-- After one run nothing is out of place behind any token, in particular no sign that was joined to
the token before. -/
theorem canonical_again (hb : Alike b b') (h : Behind .standard rest rest') :
    Canonical .standard
      ⟨b', (chosen .standard Rule.table ⟨b, gap ++ rest⟩).apply gap ++ rest'⟩ := by
  by_cases hl : LoosePercent .standard ⟨b, gap ++ rest⟩
  · obtain ⟨⟨g, hg⟩, -⟩ := chosen_again_of_loose h hl b'
    rw [hg]
    exact canonical_of_not_isStyleBlank (by decide) b'
  · exact canonical_of_chosen_keep (chosen_again h b' Rule.table hb hl)

/-- In a restored style sheet nothing is out of place behind any token. -/
theorem canonical_restoreText (h : restoreText .standard css = .ok out) :
    ∀ p ∈ places .standard out, Canonical .standard p := by
  obtain ⟨s, -, rfl⟩ := restoreText_eq_ok_iff.1 h
  rw [places_settledText]
  exact forall_mem_places_settled (fun hb h => canonical_again hb h) rfl

/-- A style sheet with blanks to be removed at a unit and at a percent sign, which the next token
follows at once, and a line break in front of the block of an at-rule. -/
def mediaSheet : List Char :=
  "@media __sjx_ph_1__\n{a:__sjx_ph_2__ EM;b:__sjx_ph_3__  %__sjx_ph_4__}".toList

def restoredMediaSheet : List Char :=
  ("@media %%styled-jsx-placeholder-1%% " ++
    "{a:%%styled-jsx-placeholder-2%%EM;b:%%styled-jsx-placeholder-3%%%%%styled-jsx-placeholder-4%%}"
    ).toList

theorem canonical_restoreText_mediaSheet :
    restoreText .standard mediaSheet = .ok restoredMediaSheet ∧
      ∀ p ∈ places .standard restoredMediaSheet, Canonical .standard p := by
  have h : restoreText .standard mediaSheet = .ok restoredMediaSheet := by decide +kernel
  exact ⟨h, canonical_restoreText h⟩

end Stencil.Adjacency
