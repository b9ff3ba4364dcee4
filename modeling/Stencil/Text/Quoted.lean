import Stencil.Text.Printable

/-!
# Quoted literals

A literal stands between single quotes, or between double quotes if the text holds a single quote
and no double one. Inside, the backslash and the enclosing quote are escaped, line feed, carriage
return and tab have short escapes, and every other character that is not printable is written by
its code in the shortest of the forms with two, four or eight hexadecimal digits.
-/

namespace Stencil.Text

/-- The lower-case hexadecimal digits of `n`, at least `width` of them. -/
def hexadecimal (width n : Nat) : List Char :=
  let digits := Nat.toDigits 16 n
  List.replicate (width - digits.length) '0' ++ digits

def quotedChar (quote c : Char) : List Char :=
  if c == quote || c == '\\' then ['\\', c]
  else if c == '\n' then ['\\', 'n']
  else if c == '\r' then ['\\', 'r']
  else if c == '\t' then ['\\', 't']
  else if isPrintable c then [c]
  else if c.toNat < 0x100 then '\\' :: 'x' :: hexadecimal 2 c.toNat
  else if c.toNat < 0x10000 then '\\' :: 'u' :: hexadecimal 4 c.toNat
  else '\\' :: 'U' :: hexadecimal 8 c.toNat

/-- The quote that encloses a text: single, unless only single quotes occur in it. -/
def enclosingQuote (s : List Char) : Char :=
  if s.contains '\'' && !s.contains '"' then '"' else '\''

def quoted (s : List Char) : List Char :=
  let quote := enclosingQuote s
  quote :: s.flatMap (quotedChar quote) ++ [quote]

/-- The literal that stands for bytes. All bytes but those of plain characters are escaped. -/
def quotedBytes (bytes : List UInt8) : List Char :=
  let chars := bytes.map fun b => Char.ofNat b.toNat
  let quote := enclosingQuote chars
  let shown (c : Char) : List Char :=
    if c.toNat < 0x80 then quotedChar quote c else '\\' :: 'x' :: hexadecimal 2 c.toNat
  'b' :: quote :: chars.flatMap shown ++ [quote]

def quotedString (s : String) : String :=
  String.ofList (quoted s.toList)

end Stencil.Text
