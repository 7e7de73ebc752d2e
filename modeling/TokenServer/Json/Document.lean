import TokenServer.Json.Lexer
import TokenServer.Table

/-!
JSON documents: texts with their members in order, repeated keys and all. Reading one is a walk over
its tokens with the open arrays and objects in a stack. `Document.value?` is the stricter view as a
value: strings are sound, numbers in range, nesting bounded, and of a repeated key the last counts.
An object whose first key is a certain mark stands for the value of the text that it holds.
-/

namespace TokenServer.Json

/-- How many arrays and objects may stand inside one another in a text. -/
def nestingLimit : Nat := 127

/-- The key of the text in an object that stands for the value of a text. -/
def embeddingKey : String := "$serde_json::private::RawValue"

inductive Document where
  | null
  | bool (value : Bool)
  | number (value : NumberText)
  | string (value : Option String)
  | array (items : List Document)
  | object (members : List (Option String × Document))
  deriving Repr, Inhabited

namespace Document

/-- An array or object that is still open; what it holds so far is in reverse order. -/
inductive Frame where
  | array (items : List Document)
  | object (members : List (Option String × Document)) (key : Option String)
  deriving Repr

inductive State where
  | needsValue (stack : List Frame)
  | needsItemOrEnd (stack : List Frame)
  | afterItem (items : List Document) (stack : List Frame)
  | needsKeyOrEnd (stack : List Frame)
  | needsKey (members : List (Option String × Document)) (stack : List Frame)
  | needsColon (members : List (Option String × Document)) (key : Option String) (stack : List Frame)
  | afterMember (members : List (Option String × Document)) (stack : List Frame)
  | complete (document : Document)
  deriving Repr

/-- Hands a finished document to the innermost open array or object. -/
def State.give (document : Document) : List Frame → State
  | [] => .complete document
  | .array items :: stack => .afterItem (document :: items) stack
  | .object members key :: stack => .afterMember ((key, document) :: members) stack

def State.startValue (stack : List Frame) : Token → Option State
  | .null => some (.give .null stack)
  | .bool value => some (.give (.bool value) stack)
  | .number value => some (.give (.number value) stack)
  | .string value => some (.give (.string value) stack)
  | .openArray => some (.needsItemOrEnd stack)
  | .openObject => some (.needsKeyOrEnd stack)
  | _ => none

def State.step : State → Token → Option State
  | .needsValue stack, token => startValue stack token
  | .needsItemOrEnd stack, .closeArray => some (.give (.array []) stack)
  | .needsItemOrEnd stack, token => startValue (.array [] :: stack) token
  | .afterItem items stack, .comma => some (.needsValue (.array items :: stack))
  | .afterItem items stack, .closeArray => some (.give (.array items.reverse) stack)
  | .needsKeyOrEnd stack, .closeObject => some (.give (.object []) stack)
  | .needsKeyOrEnd stack, .string key => some (.needsColon [] key stack)
  | .needsKey members stack, .string key => some (.needsColon members key stack)
  | .needsColon members key stack, .colon => some (.needsValue (.object members key :: stack))
  | .afterMember members stack, .comma => some (.needsKey members stack)
  | .afterMember members stack, .closeObject => some (.give (.object members.reverse) stack)
  | _, _ => none

def State.run (state : State) (tokens : List Token) : Option State := tokens.foldlM State.step state

def parse? (text : List Char) : Option Document := do
  let tokens ← Token.scan .between text
  match ← State.run (.needsValue []) tokens with
  | .complete document => some document
  | _ => none

/-- What an object holds by its members: further values, or nothing but the text of a value. -/
inductive Content where
  | members
  | text (text : String)
  /-- The first key promises a text, but there is more or something else. -/
  | broken
  deriving Repr, DecidableEq

def contentOf : List (Option String × Document) → Content
  | (some key, value) :: rest =>
    if key = embeddingKey then
      match value, rest with
      | .string (some text), [] => .text text
      | _, _ => .broken
    else .members
  | _ => .members

mutual

/-- The value of a document with at most `depth` arrays and objects inside one another; embedded texts
are read by `embedded`. -/
def valueWith? (embedded : String → Option Json) (depth : Nat) : Document → Option Json
  | .null => some .null
  | .bool value => some (.bool value)
  | .number value => value.value?
  | .string value => value.map .string
  | .array items =>
    match depth with
    | 0 => none
    | depth + 1 => (itemValues? embedded depth items).map .array
  | .object members =>
    match depth with
    | 0 => none
    | depth + 1 =>
      match contentOf members with
      | .members =>
        (memberValues? embedded depth members).map fun members =>
          .object (Table.ofList members).entries
      | .text text => embedded text
      | .broken => none

def itemValues? (embedded : String → Option Json) (depth : Nat) :
    List Document → Option (List Json)
  | [] => some []
  | item :: rest => do
    return (← item.valueWith? embedded depth) :: (← itemValues? embedded depth rest)

def memberValues? (embedded : String → Option Json) (depth : Nat) :
    List (Option String × Document) → Option (List (String × Json))
  | [] => some []
  | (key, value) :: rest => do
    return (← key, ← value.valueWith? embedded depth) :: (← memberValues? embedded depth rest)

end

/-- The value of a text that has at most so many layers of texts embedded in one another, itself
included. Nesting counts anew in each layer. -/
def valueOfText? : (layers : Nat) → String → Option Json
  | 0, _ => none
  | layers + 1, text =>
    (parse? text.toList).bind (·.valueWith? (valueOfText? layers) nestingLimit)

mutual

def textLength : Document → Nat
  | .string (some text) => text.length
  | .array items => itemsTextLength items
  | .object members => membersTextLength members
  | _ => 0

def itemsTextLength : List Document → Nat
  | [] => 0
  | item :: rest => item.textLength + itemsTextLength rest

def membersTextLength : List (Option String × Document) → Nat
  | [] => 0
  | (_, value) :: rest => value.textLength + membersTextLength rest

end

/-- The value of a document with at most `depth` arrays and objects inside one another. A text is longer
than one that is embedded in it, so there cannot be more layers than characters. -/
def value? (depth : Nat) (document : Document) : Option Json :=
  document.valueWith? (valueOfText? document.textLength) depth

end Document

def parse? (text : String) : Option Json := (Document.parse? text.toList).bind (·.value? nestingLimit)

end TokenServer.Json
