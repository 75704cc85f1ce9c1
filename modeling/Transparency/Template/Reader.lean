import Transparency.Template.Basic

/-! Reading templates.

Only templates are read in which a statement has a line to itself, behind a mark or between two. Of
such a line nothing is left in the text, not even the line feed at its end. -/
namespace Transparency.Template

/-- What a line can say about the lines around it. -/
inductive Statement
  /-- The lines behind it are for when the variable passes its test. -/
  | test (name : String)
  /-- The lines behind it are for when the variable does not. -/
  | otherwise
  /-- The choice ends. -/
  | close
  /-- The text of another template stands here. -/
  | part (name : String)
  deriving DecidableEq, Repr

/-- A line of a template. -/
inductive Line
  | statement (said : Statement)
  | pieces (content : List Piece)

/-- What can begin a name. -/
def isNameStart (c : Char) : Bool := c.isAlpha || c = '_'

/-- The names that stand for something else than a variable. -/
def reserved : List String :=
  ["true", "True", "false", "False", "none", "None", "not", "range", "dict", "debug", "namespace"]

/-- The name of a variable. -/
def variableName? (word : List Char) : Option String :=
  match word with
  | [] => none
  | c :: rest =>
    let name := String.ofList word
    if isNameStart c && rest.all (fun c => isNameStart c || c.isDigit) && name ∉ reserved then some name
    else none

/-- What stands between spaces. -/
def splitWords (text : List Char) : List (List Char) := (text.splitOn ' ').filter (· ≠ [])

/-- The text between quotation marks, without any escapes. -/
def unquoted? : List Char → Option String
  | '"' :: rest =>
    match rest.reverse with
    | '"' :: inside =>
      if '"' ∈ inside ∨ '\\' ∈ inside then none else some (String.ofList inside.reverse)
    | _ => none
  | _ => none

/-- The statement that is written so. -/
def statement? (text : List Char) : Option Statement :=
  match splitWords text with
  | [['i', 'f'], name] => (variableName? name).map .test
  | [['e', 'l', 's', 'e']] => some .otherwise
  | [['e', 'n', 'd', 'i', 'f']] => some .close
  | [['i', 'n', 'c', 'l', 'u', 'd', 'e'], name] => (unquoted? name).map .part
  | _ => none

/-- What a line says behind a mark or between two marks, if there is nothing else in it. -/
def marked? (line : List Char) : Option (List Char) :=
  match line.dropWhile (fun c => c = ' ' || c = '\t') with
  | '$' :: '$' :: rest => some rest
  | '\x7b' :: '$' :: rest =>
    match rest.reverse with
    | '\x7d' :: '$' :: inside => some inside.reverse
    | _ => none
  | _ => none

section
variable (number : Nat) (feed : String)

mutual

/-- The pieces of a line, from within a text; the text read so far stands in reverse, and `feed` is what
the line ends with. -/
def readText (text : List Char) : List Char → Option (List Piece)
  | [] => some [.text (String.ofList text.reverse ++ feed)]
  | '\x7b' :: '\x7b' :: rest => (readPrint [] rest).map (.text (String.ofList text.reverse) :: ·)
  | '\x7b' :: '$' :: _ | '\x7b' :: '#' :: _ | '$' :: '$' :: _ | '\r' :: _ => none
  | c :: rest => readText (c :: text) rest

/-- The pieces of a line, from within a printed variable. -/
def readPrint (text : List Char) : List Char → Option (List Piece)
  | [] => none
  | '\x7d' :: '\x7d' :: rest =>
    match splitWords text.reverse with
    | [word] => do
      let name ← variableName? word
      let rest ← readText [] rest
      some (.print name number :: rest)
    | _ => none
  | c :: rest => readPrint (c :: text) rest

end

/-- Reads a line. -/
def readLine (line : List Char) : Option Line :=
  match marked? line with
  | some text => (statement? text).map .statement
  | none => (readText number feed [] line).map .pieces

end

/-- Reads lines, with their numbers. A line feed at the end of the last line does not count. -/
def readLines (number : Nat) : List (List Char) → Option (List (Nat × Line))
  | [] => some []
  | [line, []] | [line] => (readLine number "" line).map fun line => [(number, line)]
  | line :: rest => do
    let line ← readLine number "\n" line
    let rest ← readLines (number + 1) rest
    some ((number, line) :: rest)

/-- A choice that has not ended yet. -/
structure Choice where
  name : String
  line : Nat
  /-- What stands before the choice. -/
  before : List Piece
  /-- What is for when the variable passes its test, once this has ended. -/
  yes : Option (List Piece) := none

/-- The choice, once it has ended. -/
def Choice.closed (choice : Choice) (last : List Piece) : List Piece :=
  choice.before ++
    [match choice.yes with
      | some yes => .choose choice.name choice.line yes last
      | none => .choose choice.name choice.line last []]

/-- Puts lines together, within choices that have not ended yet, the innermost first. -/
def assemble : List (Nat × Line) → List Choice → List Piece → Option (List Piece)
  | [], [], before => some before
  | [], _ :: _, _ => none
  | (_, .pieces content) :: rest, around, before => assemble rest around (before ++ content)
  | (number, .statement (.part name)) :: rest, around, before =>
    assemble rest around (before ++ [.part name number])
  | (number, .statement (.test name)) :: rest, around, before =>
    assemble rest ({ name, line := number, before } :: around) []
  | (_, .statement .otherwise) :: rest, choice :: around, before =>
    match choice.yes with
    | none => assemble rest ({ choice with yes := some before } :: around) []
    | some _ => none
  | (_, .statement .close) :: rest, choice :: around, before =>
    assemble rest around (choice.closed before)
  | (_, .statement _) :: _, [], _ => none

/-- The pieces of a template with these lines. -/
def readChars (lines : List (List Char)) : Option (List Piece) := do
  assemble (← readLines 1 lines) [] []

/-- The pieces of a template with these lines, if it can be read. -/
def read (lines : List String) : Option (List Piece) := readChars (lines.map String.toList)

/-! ### Texts that are written out -/

/-- The lines have these characters. -/
inductive Spelled : List String → List (List Char) → Prop
  | nil : Spelled [] []
  | cons {chars : List Char} {lines : List String} {texts : List (List Char)} :
    Spelled lines texts → Spelled (String.ofList chars :: lines) (chars :: texts)

theorem Spelled.map_toList {lines : List String} {texts : List (List Char)}
    (h : Spelled lines texts) : lines.map String.toList = texts := by
  induction h with
  | nil => rfl
  | cons _ ih => rw [List.map_cons, String.toList_ofList, ih]

theorem Spelled.read_eq {lines : List String} {texts : List (List Char)} {pieces : List Piece}
    (h : Spelled lines texts) (reads : readChars texts = some pieces) : read lines = some pieces := by
  rw [read, h.map_toList, reads]

end Transparency.Template
