/-!
# UTF-8

Reading bytes as text, either strictly or with every malformed piece replaced by `U+FFFD`. A malformed
piece is the longest start of a well-formed sequence, or one byte if there is none. Main statement: bytes have a first
malformed piece exactly when they are no text (`faultFrom_eq_none_iff`).
-/

namespace ScenarioAudit.Text

def replacementMark : Char := Char.ofNat 0xFFFD

def encodeUtf8 (s : List Char) : List UInt8 :=
  s.flatMap String.utf8EncodeChar

/-- How many bytes follow a lead byte, and the range of the first of them. -/
def leadShape (b : UInt8) : Option (Nat × UInt8 × UInt8) :=
  if b < 0x80 then some (0, 0, 0)
  else if b < 0xC2 then none
  else if b < 0xE0 then some (1, 0x80, 0xBF)
  else if b == 0xE0 then some (2, 0xA0, 0xBF)
  else if b == 0xED then some (2, 0x80, 0x9F)
  else if b < 0xF0 then some (2, 0x80, 0xBF)
  else if b == 0xF0 then some (3, 0x90, 0xBF)
  else if b < 0xF4 then some (3, 0x80, 0xBF)
  else if b == 0xF4 then some (3, 0x80, 0x8F)
  else none

def leadBits (b : UInt8) (following : Nat) : Nat :=
  match following with
  | 0 => b.toNat
  | 1 => b.toNat % 32
  | 2 => b.toNat % 16
  | _ => b.toNat % 8

/-- Reads `following` continuation bytes, the first of them within the given range. `none` is a malformed
piece; the rest always starts at the first byte that was not used. -/
def readFollowing : Nat → UInt8 → UInt8 → Nat → List UInt8 → Option Nat × List UInt8
  | 0, _, _, bits, bytes => (some bits, bytes)
  | _ + 1, _, _, _, [] => (none, [])
  | k + 1, lo, hi, bits, b :: bytes =>
    if lo ≤ b ∧ b ≤ hi then
      readFollowing k 0x80 0xBF (bits * 64 + b.toNat % 64) bytes
    else
      (none, b :: bytes)

theorem readFollowing_length (k : Nat) (lo hi : UInt8) (bits : Nat) (bytes : List UInt8) :
    (readFollowing k lo hi bits bytes).2.length ≤ bytes.length := by
  induction bytes generalizing k lo hi bits with
  | nil => cases k <;> simp [readFollowing]
  | cons b bytes ih =>
    cases k with
    | zero => simp [readFollowing]
    | succ k =>
      simp only [readFollowing]
      split
      · exact Nat.le_succ_of_le (ih _ _ _ _)
      · simp

/-- One character, or `none` for a malformed piece, and the bytes after it. -/
def readScalar (b : UInt8) (bytes : List UInt8) : Option Char × List UInt8 :=
  match leadShape b with
  | none => (none, bytes)
  | some (k, lo, hi) =>
    let (code, rest) := readFollowing k lo hi (leadBits b k) bytes
    (code.map Char.ofNat, rest)

theorem readScalar_length (b : UInt8) (bytes : List UInt8) :
    (readScalar b bytes).2.length ≤ bytes.length := by
  unfold readScalar
  split
  · simp
  · exact readFollowing_length _ _ _ _ _

/-- The text of the bytes as a list of characters, `none` for each malformed piece. -/
def decodePieces : List UInt8 → List (Option Char)
  | [] => []
  | b :: bytes => (readScalar b bytes).1 :: decodePieces (readScalar b bytes).2
termination_by bytes => bytes.length
decreasing_by
  have := readScalar_length b bytes
  simp
  omega

/-- The text of the bytes with malformed pieces replaced. -/
def decodeUtf8Lossy (bytes : List UInt8) : List Char :=
  (decodePieces bytes).map (·.getD replacementMark)

def decodeUtf8? (bytes : List UInt8) : Option (List Char) :=
  (decodePieces bytes).mapM id

/-! ## The first malformed piece -/

/-- What is wrong with a malformed piece. -/
inductive Malformation where
  /-- No character starts with its first byte. -/
  | start
  /-- The byte after it does not go on with the character. -/
  | continuation
  /-- The bytes end before the character does. -/
  | cut
  deriving DecidableEq, Repr

def Malformation.describe : Malformation → String
  | .start => "invalid start byte"
  | .continuation => "invalid continuation byte"
  | .cut => "unexpected end of data"

/-- A malformed piece: how many bytes come before it, its first byte and how many bytes it has. -/
structure Utf8Fault where
  position : Nat
  first : UInt8
  size : Nat
  kind : Malformation
  deriving DecidableEq, Repr

/-- The first malformed piece of bytes that come after `position` others. -/
def faultFrom (position : Nat) : List UInt8 → Option Utf8Fault
  | [] => none
  | b :: bytes =>
    match h : readScalar b bytes with
    | (some c, rest) =>
      have : rest.length ≤ bytes.length := by simpa [h] using readScalar_length b bytes
      faultFrom (position + c.utf8Size) rest
    | (none, rest) =>
      let kind := if leadShape b = none then .start else if rest.isEmpty then .cut else .continuation
      some ⟨position, b, bytes.length - rest.length + 1, kind⟩
termination_by bytes => bytes.length

def hexByte (b : UInt8) : String :=
  String.ofList [Nat.digitChar (b.toNat / 16), Nat.digitChar (b.toNat % 16)]

def Utf8Fault.message (f : Utf8Fault) : String :=
  let place :=
    if f.size = 1 then "byte 0x" ++ hexByte f.first ++ " in position " ++ toString f.position
    else "bytes in position " ++ toString f.position ++ "-" ++ toString (f.position + f.size - 1)
  "'utf-8' codec can't decode " ++ place ++ ": " ++ f.kind.describe

def decodeUtf8 (bytes : List UInt8) : Except Utf8Fault (List Char) :=
  match faultFrom 0 bytes with
  | some fault => .error fault
  | none => .ok (decodeUtf8Lossy bytes)

/-! ## Agreement -/

theorem faultFrom_eq_none_iff (position : Nat) (bytes : List UInt8) :
    faultFrom position bytes = none ↔ none ∉ decodePieces bytes := by
  fun_induction faultFrom position bytes with
  | case1 => simp [decodePieces]
  | case2 position b bytes c rest h _ ih => simp [decodePieces, h, ih]
  | case3 position b bytes rest h => simp [decodePieces, h]

theorem mapM_id_pieces (pieces : List (Option Char)) :
    pieces.mapM id = if none ∈ pieces then none else some (pieces.map (·.getD replacementMark)) := by
  induction pieces with
  | nil => rfl
  | cons p pieces ih =>
    cases p with
    | none => simp
    | some c => by_cases h : none ∈ pieces <;> simp [ih, h]

end ScenarioAudit.Text
