import EntityDiagram.Session.Environment
import EntityDiagram.Text.Blank

/-! # Environment files

An environment file gives values to variables, one statement a line: a name, an equals sign and a
value, with an optional `export` before. A value is bare, and then ends before a blank and a number
sign, or stands in single or double quotes and may go over several lines. `${name}` in a value
stands for a variable, and `${name:-text}` for the text when there is none.
-/

namespace EntityDiagram.EnvFile

/-- A statement of an environment file. -/
inductive Statement where
  /-- A blank line or a remark. -/
  | nothing
  /-- A variable, with its value if an equals sign follows. -/
  | binding (name : String) (value : Option String)
  | unreadable
  deriving Repr, DecidableEq

/-- What a reader gives, with the rest of the file, or the rest at which it stopped. -/
abbrev Reads (α : Type) := Except (List Char) (α × List Char)

/-- Whether `c` is a blank inside a line. -/
def isInlineBlank (c : Char) : Bool := Text.isBlank c && c != '\n' && c != '\r'

/-- The rest after blanks inside the line. -/
def skipInline (cs : List Char) : List Char := cs.dropWhile isInlineBlank

/-- Whether `c` is inside a line. -/
def isInLine (c : Char) : Bool := c != '\n' && c != '\r'

/-- The rest after a leading `export`, which needs a blank after it. -/
def skipExport (cs : List Char) : List Char :=
  let word := ['e', 'x', 'p', 'o', 'r', 't']
  let rest := cs.drop word.length
  if word.isPrefixOf cs && rest.head?.any isInlineBlank then skipInline rest else cs

/-- The name of a variable; a number sign starts a remark instead. -/
def key : List Char → Reads (Option (List Char))
  | '#' :: rest => .ok (none, '#' :: rest)
  | '\'' :: rest =>
      let name := rest.takeWhile (· != '\'')
      match rest.dropWhile (· != '\'') with
      | _ :: after => if name.isEmpty then .error ('\'' :: rest) else .ok (some name, after)
      | [] => .error ('\'' :: rest)
  | cs =>
      let inName := fun c => c != '=' && c != '#' && !Text.isBlank c
      let name := cs.takeWhile inName
      if name.isEmpty then .error cs else .ok (some name, cs.dropWhile inName)

/-- The text up to the first quote `mark` that is not escaped; a backslash escapes what follows. -/
def closed? (mark : Char) : List Char → Option (List Char × List Char)
  | [] => none
  | '\\' :: c :: rest => (closed? mark rest).map fun (text, rest) => ('\\' :: c :: text, rest)
  | c :: rest =>
      if c = mark then some ([], rest)
      else (closed? mark rest).map fun (text, rest) => (c :: text, rest)

/-- Replaces the escapes that `meaning?` knows. -/
def unescape (meaning? : Char → Option Char) : List Char → List Char
  | [] => []
  | '\\' :: c :: rest =>
      match meaning? c with
      | some meaning => meaning :: unescape meaning? rest
      | none => '\\' :: unescape meaning? (c :: rest)
  | c :: rest => c :: unescape meaning? rest

/-- The escapes between single quotes. -/
def singleMeaning? (c : Char) : Option Char := if c = '\\' || c = '\'' then some c else none

/-- The escapes between double quotes. -/
def doubleMeaning? (c : Char) : Option Char :=
  if c = '\\' || c = '\'' || c = '"' then some c
  else if c = 'a' then some '\x07'
  else if c = 'b' then some '\x08'
  else if c = 'f' then some '\x0c'
  else if c = 'n' then some '\n'
  else if c = 'r' then some '\r'
  else if c = 't' then some '\t'
  else if c = 'v' then some '\x0b'
  else none

/-- The text before a number sign that has a blank before it. -/
def beforeRemark : List Char → List Char
  | [] => []
  | [c] => [c]
  | a :: b :: rest => if Text.isBlank a && b = '#' then [] else a :: beforeRemark (b :: rest)

/-- The value of a variable: what stands between quotes, or else the line up to a remark, without
the blanks around it. -/
def value (cs : List Char) : Reads (List Char) :=
  match skipInline cs with
  | '\'' :: rest =>
      match closed? '\'' rest with
      | some (text, rest) => .ok (unescape singleMeaning? text, rest)
      | none => .error ('\'' :: rest)
  | '"' :: rest =>
      match closed? '"' rest with
      | some (text, rest) => .ok (unescape doubleMeaning? text, rest)
      | none => .error ('"' :: rest)
  | _ => .ok (Text.trim (beforeRemark (cs.takeWhile isInLine)), cs.dropWhile isInLine)

/-- The rest after a remark and the end of the line, before which only blanks may stand. -/
def endOfLine (cs : List Char) : Except (List Char) (List Char) :=
  let cs :=
    match skipInline cs with
    | '#' :: rest => rest.dropWhile isInLine
    | _ => cs
  match skipInline cs with
  | [] => .ok []
  | '\n' :: rest => .ok rest
  | _ => .error cs

/-- The rest after the line. -/
def skipLine (cs : List Char) : List Char := (cs.dropWhile isInLine).drop 1

/-- A statement that starts with no blank. -/
def binding (cs : List Char) : Reads Statement :=
  match key (skipExport cs) with
  | .error rest => .error rest
  | .ok (name, rest) =>
      let assigned : Reads (Option (List Char)) :=
        match skipInline rest with
        | '=' :: rest =>
            match value rest with
            | .error rest => .error rest
            | .ok (text, rest) => .ok (some text, rest)
        | rest => .ok (none, rest)
      match assigned with
      | .error rest => .error rest
      | .ok (text, rest) =>
          match endOfLine rest with
          | .error rest => .error rest
          | .ok rest =>
              match name with
              | some name => .ok (.binding (String.ofList name) (text.map String.ofList), rest)
              | none => .ok (.nothing, rest)

/-- The statement at the start of a file and the rest after it. A statement that cannot be read ends
with its line. -/
def statement (cs : List Char) : Statement × List Char :=
  match cs.dropWhile Text.isBlank with
  | [] => (.nothing, [])
  | c :: rest =>
      match binding (c :: rest) with
      | .ok found => found
      | .error rest => (.unreadable, skipLine rest)

/-- The statements of a file with the numbers of the lines where they start. Every statement takes
at least one character, so the first argument bounds their number. -/
def statementsFrom : Nat → Nat → List Char → List (Nat × Statement)
  | 0, _, _ => []
  | _ + 1, _, [] => []
  | fuel + 1, line, cs =>
      let (found, rest) := statement cs
      let taken := cs.take (cs.length - rest.length)
      (line, found) :: statementsFrom fuel (line + taken.count '\n') rest

/-- The text of a file without a byte order mark at its start. -/
def dropMark : List Char → List Char
  | '\ufeff' :: rest => rest
  | cs => cs

/-- The statements of a file. -/
def statements (text : String) : List (Nat × Statement) :=
  let cs := dropMark text.toList
  statementsFrom (cs.length + 1) 1 cs

/-- The name, the text to use without a value, and the rest of a variable after its opening brace.
-/
def braced? (cs : List Char) : Option (List Char × List Char × List Char) :=
  let inName := fun c => c != '}' && c != ':'
  let name := cs.takeWhile inName
  match cs.dropWhile inName with
  | '}' :: rest => some (name, [], rest)
  | ':' :: '-' :: rest =>
      match rest.dropWhile (· != '}') with
      | _ :: after => some (name, rest.takeWhile (· != '}'), after)
      | [] => none
  | _ => none

/-- Replaces the variables in a text. Every step takes at least one character, so the first argument
bounds their number. -/
def expandFrom (valueOf : String → Option String) : Nat → List Char → List Char
  | 0, _ => []
  | _ + 1, [] => []
  | fuel + 1, '$' :: '{' :: rest =>
      match braced? rest with
      | some (name, otherwise, after) =>
          let value := ((valueOf (String.ofList name)).map (·.toList)).getD otherwise
          value ++ expandFrom valueOf fuel after
      | none => '$' :: expandFrom valueOf fuel ('{' :: rest)
  | fuel + 1, c :: rest => c :: expandFrom valueOf fuel rest

/-- Replaces the variables in a text. -/
def expand (valueOf : String → Option String) (text : String) : String :=
  String.ofList (expandFrom valueOf (text.toList.length + 1) text.toList)

/-- Values by names, in order; a name that has been mentioned may have no value. -/
abbrev Bindings := List (String × Option String)

/-- The value of a variable in a value: the environment comes before earlier lines of the file. A
name without a value gives nothing. -/
def lookup (environment : Environment) (bindings : Bindings) (name : String) : Option String :=
  match environment.get? name with
  | some value => some value
  | none => (bindings.lookup name).map fun value => value.getD ""

/-- The values that the statements of a file give. -/
def bindings (environment : Environment) (statements : List (Nat × Statement)) : Bindings :=
  statements.foldl (fun found (_, statement) =>
    match statement with
    | .binding name value => Entries.put name (value.map (expand (lookup environment found))) found
    | .nothing => found
    | .unreadable => found) []

/-- The lines at which a statement starts that cannot be read. -/
def unreadableLines (statements : List (Nat × Statement)) : List Nat :=
  statements.filterMap fun (line, statement) =>
    match statement with
    | .unreadable => some line
    | .nothing => none
    | .binding _ _ => none

end EntityDiagram.EnvFile
