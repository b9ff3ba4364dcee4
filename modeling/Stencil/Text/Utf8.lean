/-!
# UTF-8

A character is one byte, or a lead byte and up to three continuation bytes. The lead byte says how
many follow and, by the range of the first of them, rules out longer forms than needed, surrogates,
and codes beyond the last character. A text is refused at the first byte that cannot go on; the
refusal spans the bytes of the character that was begun.
-/

namespace Stencil.Text

inductive Utf8Fault where
  /-- No character starts with this byte. -/
  | start
  /-- The character cannot go on with the next byte. -/
  | continuation
  | truncated
  deriving DecidableEq, Repr

/-- The place where bytes stop being text. -/
structure Undecodable where
  fault : Utf8Fault
  position : Nat
  /-- The bytes of the character that are in order, at least the first. -/
  length : Nat
  byte : UInt8
  deriving DecidableEq, Repr

/-- A character of which some bytes were read. -/
structure Partial where
  byte : UInt8
  length : Nat
  /-- How many bytes are still to come, at least one. -/
  missing : Nat
  low : Nat
  high : Nat
  code : Nat

/-- The character that a byte begins, if it needs more bytes. -/
def Partial.ofLead? (b : UInt8) : Option Partial :=
  let n := b.toNat
  if 0xc2 ≤ n && n ≤ 0xdf then some ⟨b, 1, 1, 0x80, 0xbf, n - 0xc0⟩
  else if n == 0xe0 then some ⟨b, 1, 2, 0xa0, 0xbf, 0⟩
  else if n == 0xed then some ⟨b, 1, 2, 0x80, 0x9f, 0xd⟩
  else if 0xe1 ≤ n && n ≤ 0xef then some ⟨b, 1, 2, 0x80, 0xbf, n - 0xe0⟩
  else if n == 0xf0 then some ⟨b, 1, 3, 0x90, 0xbf, 0⟩
  else if 0xf1 ≤ n && n ≤ 0xf3 then some ⟨b, 1, 3, 0x80, 0xbf, n - 0xf0⟩
  else if n == 0xf4 then some ⟨b, 1, 3, 0x80, 0x8f, 4⟩
  else none

def Partial.push (p : Partial) (b : UInt8) : Partial :=
  ⟨p.byte, p.length + 1, p.missing - 1, 0x80, 0xbf, p.code * 64 + (b.toNat - 0x80)⟩

/-- Decodes bytes, the first of which stands at `position`, in the middle of a character or not. -/
def decodeFrom : Option Partial → Nat → List UInt8 → Except Undecodable (List Char)
  | none, _, [] => .ok []
  | some p, position, [] => .error ⟨.truncated, position - p.length, p.length, p.byte⟩
  | none, position, b :: bytes =>
    if b < 0x80 then (decodeFrom none (position + 1) bytes).map (Char.ofNat b.toNat :: ·)
    else
      match Partial.ofLead? b with
      | some p => decodeFrom (some p) (position + 1) bytes
      | none => .error ⟨.start, position, 1, b⟩
  | some p, position, b :: bytes =>
    if p.low ≤ b.toNat && b.toNat ≤ p.high then
      let q := p.push b
      if q.missing = 0 then (decodeFrom none (position + 1) bytes).map (Char.ofNat q.code :: ·)
      else decodeFrom (some q) (position + 1) bytes
    else .error ⟨.continuation, position - p.length, p.length, p.byte⟩

def decodeUtf8 (bytes : List UInt8) : Except Undecodable (List Char) :=
  decodeFrom none 0 bytes

end Stencil.Text
