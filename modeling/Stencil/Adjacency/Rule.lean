import Stencil.Adjacency.Rewrite
import Stencil.Adjacency.Unit
import Stencil.Token.Markers

/-!
# Adjacency rules

A compiler that prints its own style sheet may leave a token apart from what belongs to it, or
together with what does not. A rule looks at the place of one token and says what to do with the
gap behind it, or that it does not apply. The rules stand in a fixed order and the first one that
applies decides alone.
-/

namespace Stencil.Adjacency

open Stencil.Text Stencil.Token

/-- The rules, in their order. -/
inductive Rule where
  | unitSuffix
  | percentSuffix
  | functionArgument
  | atRuleParameter
  | selector
  | noMatch
  deriving DecidableEq, Repr

namespace Rule

def table : List Rule :=
  [unitSuffix, percentSuffix, functionArgument, atRuleParameter, selector, noMatch]

def name : Rule → String
  | unitSuffix => "unit_suffix"
  | percentSuffix => "percent_suffix"
  | functionArgument => "function_argument"
  | atRuleParameter => "at_rule_parameter"
  | selector => "selector"
  | noMatch => "no_match"

def ofName? (n : String) : Option Rule :=
  table.find? fun r => r.name == n

def space (after : List Char) : List Char :=
  after.takeWhile isStyleBlank

def beyond (after : List Char) : List Char :=
  after.dropWhile isStyleBlank

/-- A unit is joined to the token. The other way round, two tokens that touch are set apart by a
space, also when a percent sign of the first stands between them. -/
def onUnit (m : Markers) (after : List Char) : Option Rewrite :=
  if m.opensAt after then some .separate
  else if startsWith ['%'] after && m.opensAt (after.drop 1) then some .separateSecond
  else if !(space after).isEmpty && startsUnit (beyond after) then some .join
  else none

/-- A percent sign is joined to the token, unless it starts the next token. -/
def onPercent (m : Markers) (after : List Char) : Option Rewrite :=
  if !(space after).isEmpty && startsWith ['%'] (beyond after) && !m.opensAt (beyond after) then
    some .join
  else none

/-- Whether the argument that the token ends is over: spaces or tabs, then a comma or a closing
parenthesis. -/
def endsArgument (after : List Char) : Bool :=
  match after.dropWhile isIndent with
  | c :: _ => c == ')' || c == ','
  | [] => false

def inParentheses (head : List Char) : Bool :=
  head.count ')' < head.count '('

/-- The end of an argument stays as the compiler wrote it. -/
def onArgument (p : Place) : Option Rewrite :=
  if endsArgument p.after && inParentheses p.head then some .keep else none

/-- In front of the block of an at-rule the blanks become one space; nothing else is changed in an
at-rule. -/
def onAtRule (p : Place) : Option Rewrite :=
  if startsWith ['@'] p.head then
    if !(space p.after).isEmpty && space p.after != [' '] && startsWith ['{'] (beyond p.after) then
      some .oneSpace
    else some .keep
  else none

/-- In a selector blanks are combinators and stay. -/
def onSelector (p : Place) : Option Rewrite :=
  if opensBlock p.after then some .keep else none

def act (m : Markers) (p : Place) : Rule → Option Rewrite
  | unitSuffix => onUnit m p.after
  | percentSuffix => onPercent m p.after
  | functionArgument => onArgument p
  | atRuleParameter => onAtRule p
  | selector => onSelector p
  | noMatch => some .keep

/-- The first rule that applies, with what it does. -/
def decide? (m : Markers) (p : Place) : List Rule → Option (Rule × Rewrite)
  | [] => none
  | r :: rules =>
    match r.act m p with
    | some w => some (r, w)
    | none => decide? m p rules

theorem mem_of_decide? {m : Markers} {p : Place} {rules : List Rule} {r : Rule} {w : Rewrite}
    (h : decide? m p rules = some (r, w)) : r ∈ rules ∧ r.act m p = some w := by
  induction rules with
  | nil => simp [decide?] at h
  | cons q rules ih =>
    rw [decide?] at h
    split at h
    · next w' hw =>
      obtain ⟨rfl, rfl⟩ := Prod.mk.inj (Option.some.inj h)
      exact ⟨List.mem_cons_self, hw⟩
    · exact ⟨List.mem_cons_of_mem _ (ih h).1, (ih h).2⟩

end Rule

end Stencil.Adjacency
