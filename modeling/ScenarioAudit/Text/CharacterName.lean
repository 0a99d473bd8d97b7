import ScenarioAudit.Text.NormalForm
import ScenarioAudit.Text.Property.Name

/-!
# Characters by name

Hangul syllables are named by the sounds of their parts and unified ideographs by their code points; the names of
all other characters are in a table. Only the names in the table may be written in small letters.
-/

namespace ScenarioAudit.Text

/-! ## Table -/

/-- A row of the table of names. -/
structure NameRow where
  code : Nat
  words : List (List Char)

def piecesBetween (separator : Char) : List Char → List (List Char)
  | [] => [[]]
  | c :: s =>
    if c = separator then [] :: piecesBetween separator s
    else
      match piecesBetween separator s with
      | p :: ps => (c :: p) :: ps
      | [] => [[c]]

def NameRow.next (before : NameRow) (text : List Char) : NameRow :=
  let text := text.dropWhile Char.isWhitespace
  let digits := text.takeWhile Char.isDigit
  let code := if digits.isEmpty then before.code + 1 else Nat.ofDigitChars 10 digits 0
  match text.dropWhile Char.isDigit with
  | shared :: rest => ⟨code, before.words.take (shared.toNat - 'a'.toNat) ++ piecesBetween ' ' rest⟩
  | [] => ⟨code, before.words⟩

def codeOfWords? (words : List (List Char)) : NameRow → List (List Char) → Option Nat
  | _, [] => none
  | before, text :: texts =>
    let row := before.next text
    if row.words = words then some row.code else codeOfWords? words row texts

def codeInTable? (table : String) (name : List Char) : Option Nat :=
  codeOfWords? (piecesBetween ' ' name) ⟨0, []⟩ ((table.splitOn ";").map String.toList)

/-! ## Rules -/

/-- The sounds of leading parts, vowels and trailing parts, in order. -/
def leadingSounds : List String :=
  ["G", "GG", "N", "D", "DD", "R", "M", "B", "BB", "S", "SS", "", "J", "JJ", "C", "K", "T", "P", "H"]
def vowelSounds : List String :=
  ["A", "AE", "YA", "YAE", "EO", "E", "YEO", "YE", "O", "WA", "WAE", "OE", "YO", "U", "WEO", "WE", "WI", "YU",
    "EU", "YI", "I"]
def trailingSounds : List String :=
  ["", "G", "GG", "GS", "N", "NJ", "NH", "D", "L", "LG", "LM", "LB", "LS", "LT", "LP", "LH", "M", "B", "BS", "S",
    "SS", "NG", "J", "C", "K", "T", "P", "H"]

def longestSound? (sounds : List String) (name : List Char) : Option (Nat × List Char) :=
  let fitting := sounds.zipIdx.filter fun s => s.1.toList.isPrefixOf name
  let longest := fitting.foldl (fun best s =>
    match best with
    | some b => if b.1.length < s.1.length then some s else best
    | none => some s) none
  longest.map fun s => (s.2, name.drop s.1.length)

def syllableOfSounds? (name : List Char) : Option Nat := do
  let (leading, name) ← longestSound? leadingSounds name
  let (vowel, name) ← longestSound? vowelSounds name
  let (trailing, name) ← longestSound? trailingSounds name
  if name.isEmpty then some (hangulBase + (leading * vowelCount + vowel) * trailingCount + trailing) else none

def ideographBlocks : List (Nat × Nat) :=
  [(0x3400, 0x4DBF), (0x4E00, 0x9FFF), (0x20000, 0x2A6DF), (0x2A700, 0x2B738), (0x2B740, 0x2B81D),
    (0x2B820, 0x2CEA1), (0x2CEB0, 0x2EBE0), (0x30000, 0x3134A)]

def capitalHexDigit? (c : Char) : Option Nat :=
  if c.isDigit then some (c.toNat - '0'.toNat)
  else if 'A' ≤ c ∧ c ≤ 'F' then some (c.toNat - 'A'.toNat + 10)
  else none

/-- The ideograph whose code point is written in four or five digits. -/
def ideographOfDigits? (ds : List Char) : Option Nat := do
  if ds.length ≠ 4 ∧ ds.length ≠ 5 then none
  let n := (← ds.mapM capitalHexDigit?).foldl (fun n d => 16 * n + d) 0
  if ideographBlocks.any fun b => b.1 ≤ n && n ≤ b.2 then some n else none

def after? (start : String) (s : List Char) : Option (List Char) :=
  if start.toList.isPrefixOf s then some (s.drop start.length) else none

def characterNamed? (name : List Char) : Option Nat :=
  match after? "HANGUL SYLLABLE " name with
  | some sounds => syllableOfSounds? sounds
  | none =>
    match after? "CJK UNIFIED IDEOGRAPH-" name with
    | some digits => ideographOfDigits? digits
    | none =>
      let capitals := name.map Char.toUpper
      (codeInTable? characterNames capitals).or (codeInTable? characterAliases capitals)

end ScenarioAudit.Text
