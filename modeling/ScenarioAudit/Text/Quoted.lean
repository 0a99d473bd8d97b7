import ScenarioAudit.Text.Property.Printable

/-!
# Quoted text

A text in messages stands between single quotes, or double quotes when it holds a single quote and no
double one. The backslash, the quote, line feed, carriage return and tab are escaped by a letter; every
other character that does not print is escaped by its code in the shortest of three widths.
-/

namespace ScenarioAudit.Text

/-- A number in lower-case hexadecimal, padded with zeros to a width. -/
def hexPadded (width n : Nat) : List Char :=
  let ds := Nat.toDigits 16 n
  List.replicate (width - ds.length) '0' ++ ds

def escapeCode (quote : Char) (n : Nat) : List Char :=
  if n = '\\'.toNat ∨ n = quote.toNat then ['\\', Char.ofNat n]
  else if n = '\n'.toNat then ['\\', 'n']
  else if n = '\r'.toNat then ['\\', 'r']
  else if n = '\t'.toNat then ['\\', 't']
  else if printableSet.containsCode n then [Char.ofNat n]
  else if n < 0x100 then '\\' :: 'x' :: hexPadded 2 n
  else if n < 0x10000 then '\\' :: 'u' :: hexPadded 4 n
  else '\\' :: 'U' :: hexPadded 8 n

def quoteFor (s : List Char) : Char :=
  if s.contains '\'' && !s.contains '"' then '"' else '\''

/-- The text between quotes, with escapes. -/
def quote (s : List Char) : List Char :=
  let q := quoteFor s
  q :: s.flatMap (fun c => escapeCode q c.toNat) ++ [q]

def quoteString (s : String) : String :=
  String.ofList (quote s.toList)

end ScenarioAudit.Text
