import ScenarioAudit.Text.Case

/-!
# Options

The words of a command line are options, operands, and the separator after which all words are operands. A long
option may be shortened as long as only one option starts that way, and its value may follow an equals sign.
Words are read in order, so the first help request, version request or mistake decides.
-/

namespace ScenarioAudit.CommandLine

open ScenarioAudit.Text

/-- Why the reading of a command line ends early. -/
inductive Stop where
  | help
  | version
  | misuse
  /-- A separator stands where a value should be. -/
  | noValue
  deriving DecidableEq, Repr

inductive OptionKind where
  | help
  | version
  | flag
  /-- It takes a value, possibly one out of some. -/
  | value (choices : Option (List String))
  deriving DecidableEq, Repr

structure OptionRule where
  /-- The long spelling. -/
  name : String
  /-- The spelling with a single letter. -/
  letter : Option Char := none
  kind : OptionKind
  deriving DecidableEq, Repr

namespace OptionRule

def help : OptionRule :=
  { name := "--help", letter := some 'h', kind := .help }

def taking (name : String) (choices : Option (List String) := none) : OptionRule :=
  { name := name, kind := .value choices }

def isSpelled (r : OptionRule) (w : String) : Bool :=
  r.name = w || r.letter.any fun c => w = String.ofList ['-', c]

def takesValue (r : OptionRule) : Bool :=
  match r.kind with
  | .value _ => true
  | _ => false

end OptionRule

/-- What may stand on a command line. -/
structure Layout where
  options : List OptionRule
  /-- The number of operands. -/
  operands : Nat := 0
  /-- Whether the first operand is a command that takes over all words after it. -/
  commands : Bool := false

/-! ## Words -/

inductive WordKind where
  | operand
  | separator
  /-- An option that is not known. -/
  | stray
  /-- An option, perhaps with the value that is part of the word. -/
  | option (rule : OptionRule) (value : Option String)
  /-- Single letters in a row, the first of which is an option. -/
  | letters (rule : OptionRule) (rest : List Char)
  deriving Repr

structure Word where
  text : String
  kind : WordKind
  deriving Repr

def Word.isOperand (w : Word) : Bool :=
  match w.kind with
  | .operand => true
  | _ => false

/-- A word before and after its first equals sign. -/
def splitValue (w : List Char) : List Char × Option String :=
  match w.dropWhile (· ≠ '=') with
  | [] => (w, none)
  | _ :: v => (w.takeWhile (· ≠ '='), some (String.ofList v))

/-- A negative number, which is an operand; a line break may end it. -/
def isNegativeNumber (w : List Char) : Bool :=
  match if w.getLast? = some '\n' then w.dropLast else w with
  | '-' :: ds =>
    match ds.dropWhile isDecimalDigit with
    | [] => !ds.isEmpty
    | '.' :: f => !f.isEmpty && f.all isDecimalDigit
    | _ => false
  | _ => false

/-- A word that starts with a hyphen and is no spelling of an option. -/
def strayWord (w : List Char) : WordKind :=
  if isNegativeNumber w || w.contains ' ' then .operand else .stray

def hyphenated (options : List OptionRule) (w : List Char) : Except Stop WordKind :=
  let (start, value) := splitValue w
  match options.find? (·.isSpelled (String.ofList w)) with
  | some r => .ok (.option r none)
  | none =>
    match value.bind fun _ => options.find? (·.isSpelled (String.ofList start)) with
    | some r =>
      .ok (if start.length = 2 ∧ value ≠ some "" then .letters r (w.drop 3) else .option r value)
    | none =>
      if w.take 2 = ['-', '-'] then
        match options.filter fun r => start.isPrefixOf r.name.toList with
        | [] => .ok (strayWord w)
        | [r] => .ok (.option r value)
        | _ => .error .misuse
      else
        match options.find? fun r => r.letter.isSome && r.letter = w[1]? with
        | some r => .ok (.letters r (w.drop 2))
        | none => .ok (strayWord w)

def wordKind (options : List OptionRule) (w : String) : Except Stop WordKind :=
  match w.toList with
  | '-' :: c :: s => hyphenated options ('-' :: c :: s)
  | _ => .ok .operand

def classify (options : List OptionRule) : List String → Except Stop (List Word)
  | [] => .ok []
  | w :: ws =>
    if w = "--" then .ok (⟨w, .separator⟩ :: ws.map fun v => ⟨v, .operand⟩)
    else do
      let kind ← wordKind options w
      return ⟨w, kind⟩ :: (← classify options ws)

/-! ## Reading -/

/-- What was read. -/
structure Arguments where
  flags : List String := []
  /-- The values of options, the last one first. -/
  values : List (String × String) := []
  operands : List String := []
  /-- The command and the words after it. -/
  command : Option (String × List String) := none
  /-- Whether a word was left over. -/
  leftover : Bool := false
  deriving Repr

namespace Arguments

def has (a : Arguments) (flag : String) : Bool :=
  a.flags.contains flag

def value? (a : Arguments) (name : String) : Option String :=
  a.values.lookup name

def withValue (a : Arguments) (r : OptionRule) (v : String) : Except Stop Arguments :=
  match r.kind with
  | .value choices =>
    if v = "--" then .error .noValue
    else if choices.all (·.contains v) then .ok { a with values := (r.name, v) :: a.values } else .error .misuse
  | _ => .error .misuse

def withOption (a : Arguments) (r : OptionRule) : Except Stop Arguments :=
  match r.kind with
  | .help => .error .help
  | .version => .error .version
  | .flag => .ok { a with flags := r.name :: a.flags }
  | .value _ => .error .misuse

/-- What letters in a row come to: only a repeated request for help is one. -/
def withLetters (a : Arguments) (r : OptionRule) (rest : List Char) : Except Stop Arguments :=
  if rest.all fun c => r.letter = some c then withOption a r else .error .misuse

end Arguments

/-- What stands right before a word. -/
inductive Before where
  | operand
  /-- A separator that belongs to the operand after it. -/
  | separator
  | other
  deriving DecidableEq, Repr

/-- Reads words. `room` is the number of operands still to come. A separator belongs to the operand before it, else
to the one after it; only the latter may look like a separator itself. -/
def readWords (l : Layout) : Nat → Before → List Word → Arguments → Except Stop Arguments
  | _, _, [], a => .ok a
  | room, before, w :: ws, a =>
    match w.kind with
    | .operand =>
      if l.commands then .ok { a with command := some (w.text, ws.map (·.text)) }
      else if room = 0 then readWords l 0 .other ws { a with leftover := true }
      else if w.text = "--" ∧ before ≠ .separator then .error .noValue
      else readWords l (room - 1) .operand ws { a with operands := a.operands ++ [w.text] }
    | .separator =>
      if l.commands && !ws.isEmpty then .error .misuse
      else if before = .operand then readWords l room .other ws a
      else if 0 < room && !ws.isEmpty then readWords l room .separator ws a
      else readWords l room .other ws { a with leftover := true }
    | .stray => readWords l room .other ws { a with leftover := true }
    | .letters r rest => do readWords l room .other ws (← a.withLetters r rest)
    | .option r (some v) => do readWords l room .other ws (← a.withValue r v)
    | .option r none =>
      if r.takesValue then
        match ws with
        | [] => .error .misuse
        | v :: ws' =>
          if v.isOperand then do readWords l room .other ws' (← a.withValue r v.text) else .error .misuse
      else do readWords l room .other ws (← a.withOption r)

def Layout.read (l : Layout) (words : List String) : Except Stop Arguments := do
  let a ← readWords l l.operands .other (← classify l.options words) {}
  if l.commands then
    if a.command.isSome then return a else .error .misuse
  else if a.operands.length = l.operands then return a
  else .error .misuse

end ScenarioAudit.CommandLine
