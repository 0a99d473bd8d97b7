import ScenarioAudit.Scan.Code
import ScenarioAudit.Scan.Rules

/-!
# Languages of the scanner

The rules of each language. A language that is not listed is scanned by the general rules, which know of
registrations and blocks only.
-/

namespace ScenarioAudit.Scan

open ScenarioAudit.Text Pattern

def anyQuote : Pattern :=
  one fun c => c == '\'' || c == '"'

def kindOf (keywords : List String) : Pattern :=
  capture 1 (oneOf keywords)

def plainList : Pattern :=
  char '(' ++ many true (· != ')') ++ char ')'

def sameTwice : Pattern :=
  capture 1 (word "true" ||| digits) ++ blanks ++ charBlanks ',' ++ same 1

def argumentEnd : Pattern :=
  blanks ++ one fun c => c == ',' || c == ')'

def statementEnd : Pattern :=
  blanks ++ opt (char ';')

/-- Statements that do nothing, in languages with braces. -/
def bracePlaceholders : List Pattern :=
  [whole (word "return" ++ statementEnd),
   whole (word "return" ++ blanks1 ++ oneOf ["null", "undefined", "nil"] ++ statementEnd),
   whole (word "return" ++ blanks1 ++ anyQuote ++ word "pending" ++ anyQuote ++ statementEnd)]

def startsWithWord (ws : List String) : Pattern :=
  textStart ++ oneOf ws ++ edge

def webRegistration : Pattern :=
  edge ++ kindOf ["Given", "When", "Then"] ++ blanks ++ charBlanks '('
    ++ capture 2 (one fun c => ['\'', '"', backquote, '/'].contains c)
    ++ capture 3 (many false fun _ => true) ++ same 2 ++ blanks ++ charBlanks ','
    ++ opt (word "async" ++ blanks1)
    ++ ((word "function" ++ blanks ++ wordChars ++ blanks ++ plainList)
      ||| ((plainList ||| wordChars1)
        ++ opt (blanks ++ charBlanks ':' ++ one (· != '=') ++ many false (· != '='))
        ++ blanks ++ word "=>"))
    ++ blanks ++ char '\x7b'

def webAssertions : List Pattern :=
  [spacedWord ["expect", "("], wholeWord "assert", wholeWord "should", word ".to." ++ wordChars1,
   word ".toEqual" ++ edge, word ".toBe" ++ edge, word ".toHaveBeenCalled", word ".toThrow",
   word ".rejects", word ".resolves"]

def webTautologies : List Pattern :=
  [spaced ["expect", "(", "true", ")", ".", "toBe", "(", "true", ")"],
   spaced ["expect", "(", "1", ")", ".", "toBe", "(", "1", ")"],
   spaced ["expect", "(", "true", ")", ".", "toBeTruthy", "(", ")"],
   spaced ["expect", "(", "false", ")", ".", "toBe"]
     ++ ((spaced ["Falsy", "("] ++ blanks) ||| (blanks ++ spaced ["(", "false"] ++ blanks)) ++ char ')',
   spaced ["assert", ".", "ok", "(", "true", ")"],
   spacedWord ["assert", "(", "true", ")"],
   spaced ["assert", "."] ++ blanks ++ oneOf ["strictEqual", "equal", "deepEqual"] ++ blanks ++ charBlanks '('
     ++ sameTwice ++ blanks ++ char ')']

def javascript : ScanRules where
  language := "javascript"
  suffixes := [".js", ".jsx", ".mjs", ".cjs"]
  registration := webRegistration
  style := .atRegistration
  quotes := ['"', '\'', backquote]
  placeholders := bracePlaceholders
  assertions := webAssertions
  tautologies := webTautologies
  raises := [wholeWord "throw"]

def typescript : ScanRules :=
  { javascript with language := "typescript", suffixes := [".ts", ".tsx", ".mts", ".cts"] }

def goAssertion (method : String) : Pattern :=
  edge ++ oneOf ["assert", "require"] ++ word method ++ blanks ++ char '('

def goArgument : Pattern :=
  blanks ++ wordChars1 ++ blanks ++ charBlanks ','

def go : ScanRules where
  language := "go"
  suffixes := [".go"]
  registration :=
    lineStart ++ many true (fun c => c == ' ' || c == '\t')
      ++ (wordChars1 ++ char '.') ++ star (wordChars1 ++ char '.')
      ++ kindOf ["Step", "Given", "When", "Then"] ++ blanks ++ char '('
  style := .inlineOrNamed
  quotes := ['"', '\'', backquote]
  placeholders :=
    [whole (word "return" ++ blanks),
     whole (word "return" ++ blanks1 ++ word "nil"),
     whole (word "return" ++ blanks1 ++ opt (wordChars1 ++ blanks ++ charBlanks ',') ++ word "nil"),
     whole (word "return" ++ blanks1 ++ word "godog.ErrPending")]
  assertions := [edge ++ oneOf ["assert", "require"] ++ char '.' ++ wordChars1 ++ blanks ++ char '(']
  tautologies :=
    [goAssertion ".True" ++ goArgument ++ word "true" ++ argumentEnd,
     goAssertion ".False" ++ goArgument ++ word "false" ++ argumentEnd,
     goAssertion ".Equal" ++ goArgument ++ sameTwice ++ argumentEnd]
  raises :=
    [spacedWord ["panic", "("],
     edge ++ oneOf ["fmt.Errorf", "errors.New"] ++ blanks ++ char '(',
     edge ++ word "t." ++ oneOf ["Error", "Errorf", "Fatal", "Fatalf", "Fail", "FailNow"] ++ blanks ++ char '(']
  terminator := startsWithWord ["return", "panic"]

def java : ScanRules where
  language := "java"
  suffixes := [".java"]
  registration := char '@' ++ kindOf ["Given", "When", "Then", "And", "But"] ++ blanks ++ char '('
  style := .nextBlock
  placeholders := bracePlaceholders ++
    [whole (word "throw" ++ blanks1 ++ word "new" ++ blanks1
      ++ opt (many1 (fun c => isWordChar c || c == '.') ++ char '.')
      ++ word "PendingException" ++ blanks ++ plainList ++ blanks ++ char ';')]
  assertions :=
    [startsWithWord ["assert"],
     edge ++ word "Assert" ++ opt (word "ions") ++ char '.' ++ wordChars1 ++ blanks ++ char '(',
     spacedWord ["fail", "("]]
  tautologies :=
    [spacedWord ["assertTrue", "(", "true", ")"],
     spacedWord ["assertFalse", "(", "false", ")"],
     edge ++ word "assertEquals" ++ blanks ++ charBlanks '(' ++ sameTwice ++ blanks ++ char ')',
     spacedWord ["assertThat", "(", "true", ")", ".", "isTrue", "(", ")"],
     textStart ++ word "assert" ++ blanks1 ++ spaced ["true", ";"]]
  raises := [wholeWord "throw", spacedWord ["fail", "("]]

def rust : ScanRules where
  language := "rust"
  suffixes := [".rs"]
  registration := word "#[" ++ kindOf ["given", "when", "then"] ++ blanks ++ char '('
  style := .nextBlock
  quotes := ['"']
  placeholders :=
    [whole (word "return" ++ statementEnd),
     whole (opt (word "return" ++ blanks1) ++ spaced ["Ok", "(", "(", ")", ")"] ++ statementEnd)]
  assertions := [edge ++ word "assert" ++ opt (oneOf ["_eq", "_ne"]) ++ char '!' ++ blanks ++ char '(']
  tautologies :=
    [spacedWord ["assert!", "(", "true"] ++ argumentEnd,
     spacedWord ["assert!", "(", "!", "false"] ++ argumentEnd,
     edge ++ word "assert_eq!" ++ blanks ++ charBlanks '(' ++ sameTwice ++ argumentEnd]
  raises :=
    [spacedWord ["panic!", "("], spacedWord ["bail!", "("], spacedWord ["unreachable!", "("],
     spacedWord ["Err", "("]]
  terminator := textStart ++ ((word "return" ++ edge) ||| word "panic!")

def classAssertion (methods : List String) : Pattern :=
  edge ++ word "Assert." ++ oneOf methods ++ blanks ++ charBlanks '('

def csharp : ScanRules where
  language := "csharp"
  suffixes := [".cs"]
  registration := char '[' ++ kindOf ["Given", "When", "Then"] ++ blanks ++ char '('
  style := .nextBlock
  placeholders := bracePlaceholders ++
    [whole (word "return" ++ blanks1 ++ word "Task.CompletedTask" ++ blanks ++ char ';'),
     whole (word "throw" ++ blanks1 ++ word "new" ++ blanks1 ++ word "PendingStepException" ++ blanks
      ++ plainList ++ blanks ++ char ';')]
  assertions :=
    [edge ++ word "Assert." ++ wordChars1 ++ blanks ++ char '(', spaced [".Should", "(", ")"]]
  tautologies :=
    [classAssertion ["True", "IsTrue"] ++ spaced ["true", ")"],
     classAssertion ["False", "IsFalse"] ++ spaced ["false", ")"],
     classAssertion ["Equal", "AreEqual"] ++ sameTwice ++ blanks ++ char ')',
     spacedWord ["true", ".", "Should", "(", ")", ".", "BeTrue", "(", ")"]]
  raises := [wholeWord "throw", edge ++ spaced ["Assert.Fail", "("]]

def isStringMark (c : Char) : Bool :=
  "rbuRBU".toList.contains c

/-- Python, without reading the source as a tree. -/
def python : ScanRules where
  language := "python"
  suffixes := [".py"]
  registration :=
    lineStart ++ many true (fun c => c == ' ' || c == '\t') ++ char '@' ++ star (wordChars1 ++ char '.')
      ++ kindOf ["given", "when", "then", "step"] ++ edge
  style := .indented
  placeholders :=
    [whole (word "pass"), whole (word "..."),
     whole (many true isStringMark ++ capture 1 anyQuote ++ inLine ++ same 1),
     whole (word "return" ++ opt (blanks1 ++ word "None"))]
  assertions := [startsWithWord ["assert"]]
  tautologies :=
    [textStart ++ word "assert" ++ blanks1
       ++ (oneOf ["True", "1"] ||| (word "not" ++ blanks1 ++ oneOf ["False", "0"]))
       ++ blanks ++ (char ',' ||| textEnd),
     edge ++ word "assert" ++ opt (char '_') ++ oneOf ["True", "true"] ++ blanks ++ charBlanks '('
       ++ spaced ["True", ")"]]
  raises := [startsWithWord ["raise"]]
  terminator := startsWithWord ["return", "raise"]

def general : ScanRules where
  language := "generic"
  suffixes := []
  registration := edge ++ kindOf ["Given", "When", "Then"] ++ blanks ++ char '('
  style := .nextBlock
  placeholders := bracePlaceholders
  raises := [wholeWord "throw"]

def languages : List ScanRules :=
  [python, javascript, typescript, go, java, rust, csharp]

def rulesFor (language : String) : ScanRules :=
  (languages.find? fun r => r.language = language).getD general

end ScenarioAudit.Scan
