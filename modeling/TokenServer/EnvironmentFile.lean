import TokenServer.Table
import TokenServer.Text.Blank
import TokenServer.Text.Letter

/-!
Environment files: lines that set variables. A value may be quoted, may run over several lines while a
quote is open, and may name variables that are put in its place. Loading stops at the first line that
cannot be read and never changes a variable that is already set.
-/

namespace TokenServer.EnvironmentFile

inductive Quoting where
  | nothing
  | blank
  | escape
  | single
  | singleEscape
  | double
  | doubleEscape
  deriving Repr, DecidableEq

namespace Quoting

def opened (c : Char) : Quoting :=
  if c = '\\' then .escape else if c = '"' then .double else if c = '\'' then .single else .nothing

/-- The state behind a character, or nothing where a comment starts. -/
def step? : Quoting → Char → Option Quoting
  | .nothing, c => some (if isBlank c ∧ c ≠ '\n' ∧ c ≠ '\r' then .blank else opened c)
  | .blank, c => if c = '#' then none else some (opened c)
  | .escape, _ => some .nothing
  | .single, c => some (if c = '\\' then .singleEscape else if c = '\'' then .nothing else .single)
  | .singleEscape, _ => some .single
  | .double, c => some (if c = '\\' then .doubleEscape else if c = '"' then .nothing else .double)
  | .doubleEscape, _ => some .double

/-- The state behind a line, or what stands before its comment. -/
def scan (before : List Char) (state : Quoting) : List Char → Except (List Char) Quoting
  | [] => .ok state
  | c :: rest =>
    match state.step? c with
    | some next => scan (c :: before) next rest
    | none => .error before.reverse

end Quoting

def physicalLines : List Char → List (List Char)
  | [] => []
  | c :: rest =>
    if c = '\n' then [c] :: physicalLines rest
    else
      match physicalLines rest with
      | [] => [[c]]
      | line :: lines => (c :: line) :: lines

def withoutEnd (line : List Char) : List Char :=
  match line.reverse with
  | '\n' :: '\r' :: rest => rest.reverse
  | '\n' :: rest => rest.reverse
  | _ => line

/-- Joins lines while something is open; nothing stands for an end of the file before it is closed. -/
def joinLines (open? : Option (Quoting × List Char)) : List (List Char) → List (Option (List Char))
  | [] => open?.toList.map fun _ => none
  | line :: rest =>
    let (state, before) := open?.getD (.nothing, [])
    if (trimStart (before ++ line)).head? = some '#' then some [] :: joinLines none rest
    else
      match state.scan [] line with
      | .error kept => some (before ++ kept) :: joinLines none rest
      | .ok .nothing => some (withoutEnd (before ++ line)) :: joinLines none rest
      | .ok state => joinLines (some (state, before ++ line)) rest

inductive Quote where
  | nothing
  | single
  | double
  deriving Repr, DecidableEq

inductive Pending where
  | nothing
  | escape
  /-- The name of a variable, in reverse. -/
  | name (letters : List Char)
  /-- The name of a variable in braces, in reverse. -/
  | braced (letters : List Char)
  /-- Only blanks or a comment may follow. -/
  | finish
  deriving Repr, DecidableEq

/-- A value that is read; its characters so far are in reverse. -/
structure ValueState where
  quote : Quote := .nothing
  pending : Pending := .nothing
  read : List Char := []
  deriving Repr, DecidableEq

namespace ValueState

def substitute (lookup : String → Option String) (state : ValueState) (letters : List Char) :
    ValueState :=
  let value := (lookup (String.ofList letters.reverse)).getD ""
  { state with pending := .nothing, read := value.toList.reverse ++ state.read }

/-- A character that belongs to nothing that is pending. -/
def plainStep (state : ValueState) (c : Char) : ValueState :=
  let keep : ValueState := { state with read := c :: state.read }
  match state.quote with
  | .single => if c = '\'' then { state with quote := .nothing } else keep
  | .double =>
    if c = '$' then { state with pending := .name [] }
    else if c = '"' then { state with quote := .nothing }
    else if c = '\\' then { state with pending := .escape }
    else keep
  | .nothing =>
    if c = '$' then { state with pending := .name [] }
    else if c = '\'' then { state with quote := .single }
    else if c = '"' then { state with quote := .double }
    else if c = '\\' then { state with pending := .escape }
    else if c = ' ' ∨ c = '\t' then { state with pending := .finish }
    else keep

/-- The character that an escape stands for. -/
def escaped? (c : Char) : Option Char :=
  if c = 'n' then some '\n'
  else if c = '\\' ∨ c = '\'' ∨ c = '"' ∨ c = '$' ∨ c = ' ' then some c
  else none

def close? (lookup : String → Option String) (state : ValueState) : Option String :=
  if state.quote ≠ .nothing then none
  else
    match state.pending with
    | .braced _ => none
    | .name letters => some (String.ofList (state.substitute lookup letters).read.reverse)
    | _ => some (String.ofList state.read.reverse)

def run? (lookup : String → Option String) (state : ValueState) : List Char → Option String
  | [] => state.close? lookup
  | c :: rest =>
    match state.pending with
    | .nothing => run? lookup (state.plainStep c) rest
    | .finish =>
      if c = ' ' ∨ c = '\t' then run? lookup state rest
      else if c = '#' then state.close? lookup
      else none
    | .escape =>
      match escaped? c with
      | some value => run? lookup { state with pending := .nothing, read := value :: state.read } rest
      | none => none
    | .name letters =>
      if isLetterOrNumber c then run? lookup { state with pending := .name (c :: letters) } rest
      else if c = '\x7b' ∧ letters = [] then run? lookup { state with pending := .braced [] } rest
      else
        let state := state.substitute lookup letters
        if c = '$' then run? lookup { state with pending := .name [] } rest
        else run? lookup { state with read := c :: state.read } rest
    | .braced letters =>
      if c = '\x7d' then run? lookup (state.substitute lookup letters) rest
      else run? lookup { state with pending := .braced (c :: letters) } rest

end ValueState

def isKeyLetter (c : Char) : Bool := c.isAlphanum || c == '_' || c == '.'

def key? (line : List Char) : Option (String × List Char) :=
  match line with
  | c :: _ =>
    if c.isAlpha ∨ c = '_' then
      some (String.ofList (line.takeWhile isKeyLetter), line.dropWhile isKeyLetter)
    else none
  | [] => none

def afterEquals? : List Char → Option (List Char)
  | '=' :: rest => some rest
  | _ => none

/-- The key of a line, behind the optional word that exports it, and the text of its value. -/
def assignment? (line : List Char) : Option (String × List Char) := do
  let (key, rest) ← key? line
  match afterEquals? (trimStart rest) with
  | some value => return (key, trimStart value)
  | none =>
    guard (key = "export")
    let (key, rest) ← key? (trimStart rest)
    return (key, trimStart (← afterEquals? (trimStart rest)))

/-- The value of a variable in an environment that is a list of texts `name=value`. A name with an equals
sign in it so runs on into the value of a variable, and what stands behind the match is the value. -/
def lookUp? (environment : Table String) (name : String) : Option String :=
  let letters := name.toList
  match letters.dropWhile (· ≠ '=') with
  | [] => environment.get? name
  | _ :: start => do
    let value := (← environment.get? (String.ofList (letters.takeWhile (· ≠ '=')))).toList
    let start := start ++ ['=']
    guard (start.isPrefixOf value)
    return String.ofList (value.drop start.length)

def readValue? (lookup : String → Option String) (text : List Char) : Option String :=
  if text.isEmpty ∨ text.head? = some '#' then some "" else ({} : ValueState).run? lookup text

def setNew (environment : Table String) (name value : String) : Table String :=
  environment.insertNew name value

/-- Loads joined lines; `seen` holds what the file itself has set so far. -/
def loadLines (environment seen : Table String) : List (Option (List Char)) → Table String
  | [] | none :: _ => environment
  | some line :: rest =>
    let text := trim line
    if text.isEmpty ∨ text.head? = some '#' then loadLines environment seen rest
    else
      match assignment? text with
      | none => environment
      | some (key, value) =>
        match readValue? (fun name => lookUp? environment name <|> seen.get? name) value with
        | none => environment
        | some value => loadLines (setNew environment key value) (seen.insert key value) rest

def withoutMark : List Char → List Char
  | '\uFEFF' :: rest => rest
  | text => text

def load (environment : Table String) (file : String) : Table String :=
  loadLines environment ∅ (joinLines none (physicalLines (withoutMark file.toList)))

end TokenServer.EnvironmentFile
