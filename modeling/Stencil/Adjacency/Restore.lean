import Stencil.Adjacency.Rule
import Stencil.Shield.Basic

/-!
# Restoring adjacency

The shielded forms of a compiled style sheet become tokens again, and then the rules decide about
the gap behind every token. All rules look at the text before any gap was changed, so no decision
depends on another one.
-/

namespace Stencil.Adjacency

open Stencil.Text Stencil.Number Stencil.Token Stencil.Shield

/-- A token after its rule was applied. -/
structure Settled where
  digits : List Char
  gap : List Char
  rule : Option Rule

def settle (m : Markers) (rules : List Rule) (p : Place) (digits gap : List Char) : Settled :=
  match Rule.decide? m p rules with
  | some (rule, rewrite) => ⟨digits, rewrite.apply gap, some rule⟩
  | none => ⟨digits, gap, none⟩

structure Restored where
  head : List Char
  tail : List Settled

namespace Restored

def text (m : Markers) (r : Restored) : List Char :=
  r.head ++ r.tail.flatMap fun t => m.token t.digits ++ t.gap

/-- The rules that applied, token by token. -/
def hits (r : Restored) : List Rule :=
  r.tail.filterMap Settled.rule

end Restored

/-- Settles every token of a text that holds no shielded forms. -/
def settleAll (m : Markers) (rules : List Rule) (s : List Char) : Restored :=
  let c := m.cut s
  ⟨c.head, visit m.token (settle m rules) c.head c.tail⟩

/-- Unshields a compiled style sheet and settles every token. -/
def restore (m : Markers) (css : List Char) (rules : List Rule := Rule.table) :
    Except TooLong Restored := do
  return settleAll m rules (← unshield m css)

def restoreText (m : Markers) (css : List Char) (rules : List Rule := Rule.table) :
    Except TooLong (List Char) := do
  return (← restore m css rules).text m

/-- The removal of outer blanks that ends every run. -/
def finish (css : List Char) : List Char :=
  strip css

end Stencil.Adjacency
