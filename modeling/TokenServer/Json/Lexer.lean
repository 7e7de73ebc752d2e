import TokenServer.Json.Number
import TokenServer.Text.Digit

/-!
Tokens of a JSON text. Numbers keep their digits, and a string whose escapes name half of a surrogate
pair is kept as a string without content: both can be passed over where their value does not matter.
-/

namespace TokenServer.Json

inductive Token where
  | openArray
  | closeArray
  | openObject
  | closeObject
  | comma
  | colon
  | null
  | bool (value : Bool)
  | number (value : NumberText)
  | string (value : Option String)
  deriving Repr, DecidableEq

namespace Token

def isSpace (c : Char) : Bool := c == ' ' || c == '\t' || c == '\n' || c == '\r'

def isBare (c : Char) : Bool :=
  Digit.isDecimal c || ('a' ≤ c && c ≤ 'z') || ('A' ≤ c && c ≤ 'Z') ||
    c == '-' || c == '+' || c == '.'

def digitValues (digits : List Char) : List Nat := digits.map (fun c => c.toNat - '0'.toNat)

/-- The exponent of a number, up to its end. -/
def exponent? : List Char → Option (Option (Bool × List Nat))
  | [] => some none
  | mark :: rest =>
    if mark = 'e' ∨ mark = 'E' then
      let (negative, digits) : Bool × List Char := match rest with
        | '-' :: digits => (true, digits)
        | '+' :: digits => (false, digits)
        | digits => (false, digits)
      if digits.isEmpty ∨ !digits.all Digit.isDecimal then none
      else some (some (negative, digitValues digits))
    else none

/-- A number without its sign: digits without a leading zero, a fraction, an exponent. -/
def unsigned? (negative : Bool) (text : List Char) : Option NumberText := do
  let whole := text.takeWhile Digit.isDecimal
  guard (whole = ['0'] ∨ ¬ (whole.isEmpty ∨ whole.head? = some '0'))
  match text.dropWhile Digit.isDecimal with
  | '.' :: rest =>
    let fraction := rest.takeWhile Digit.isDecimal
    guard !fraction.isEmpty
    let exponent ← exponent? (rest.dropWhile Digit.isDecimal)
    return ⟨negative, digitValues whole, digitValues fraction, exponent⟩
  | rest =>
    let exponent ← exponent? rest
    return ⟨negative, digitValues whole, [], exponent⟩

def number? : List Char → Option NumberText
  | '-' :: rest => unsigned? true rest
  | text => unsigned? false text

def ofBare? (text : List Char) : Option Token :=
  if text = ['n', 'u', 'l', 'l'] then some .null
  else if text = ['t', 'r', 'u', 'e'] then some (.bool true)
  else if text = ['f', 'a', 'l', 's', 'e'] then some (.bool false)
  else (number? text).map .number

def isHighSurrogate (code : Nat) : Bool := 0xD800 ≤ code && code ≤ 0xDBFF

def isLowSurrogate (code : Nat) : Bool := 0xDC00 ≤ code && code ≤ 0xDFFF

/-- The characters of codes, where two surrogates in a row make up one character. -/
def charsOfCodes? : List Nat → Option (List Char)
  | [] => some []
  | high :: low :: rest =>
    if isHighSurrogate high then
      if isLowSurrogate low then
        (charsOfCodes? rest).map
          (Char.ofNat (0x10000 + (high - 0xD800) * 0x400 + (low - 0xDC00)) :: ·)
      else none
    else if isLowSurrogate high then none
    else (charsOfCodes? (low :: rest)).map (Char.ofNat high :: ·)
  | [code] => if isHighSurrogate code ∨ isLowSurrogate code then none else some [Char.ofNat code]

def ofCodes (codes : List Nat) : Token := .string ((charsOfCodes? codes).map String.ofList)

/-- Where a reader stands; what it has gathered is in reverse order. -/
inductive Mode where
  | between
  | bare (gathered : List Char)
  | text (codes : List Nat)
  | escape (codes : List Nat)
  /-- Inside a four-digit escape: digits still to come, and the value so far. -/
  | hex (codes : List Nat) (left value : Nat)
  deriving Repr, DecidableEq

def start? (c : Char) : Option (Option Token × Mode) :=
  if isSpace c then some (none, .between)
  else if c = '[' then some (some .openArray, .between)
  else if c = ']' then some (some .closeArray, .between)
  else if c = '\x7b' then some (some .openObject, .between)
  else if c = '\x7d' then some (some .closeObject, .between)
  else if c = ',' then some (some .comma, .between)
  else if c = ':' then some (some .colon, .between)
  else if c = '"' then some (none, .text [])
  else if isBare c then some (none, .bare [c])
  else none

def escapeCode? (c : Char) : Option Nat :=
  match c with
  | '"' | '\\' | '/' => some c.toNat
  | 'b' => some 0x08
  | 'f' => some 0x0C
  | 'n' => some 0x0A
  | 'r' => some 0x0D
  | 't' => some 0x09
  | _ => none

def scan : Mode → List Char → Option (List Token)
  | .between, [] => some []
  | .between, c :: rest => do
    let (token, mode) ← start? c
    return token.toList ++ (← scan mode rest)
  | .bare gathered, [] => do
    return [← ofBare? gathered.reverse]
  | .bare gathered, c :: rest =>
    if isBare c then scan (.bare (c :: gathered)) rest
    else do
      let bare ← ofBare? gathered.reverse
      let (token, mode) ← start? c
      return bare :: (token.toList ++ (← scan mode rest))
  | .text codes, c :: rest =>
    if c = '"' then do
      return ofCodes codes.reverse :: (← scan .between rest)
    else if c = '\\' then scan (.escape codes) rest
    else if c.toNat < 0x20 then none
    else scan (.text (c.toNat :: codes)) rest
  | .escape codes, c :: rest =>
    if c = 'u' then scan (.hex codes 3 0) rest
    else do
      let code ← escapeCode? c
      scan (.text (code :: codes)) rest
  | .hex codes left value, c :: rest => do
    let digit ← Digit.hex? c
    match left with
    | 0 => scan (.text ((value * 16 + digit) :: codes)) rest
    | left + 1 => scan (.hex codes left (value * 16 + digit)) rest
  | .text _, [] | .escape _, [] | .hex _ _ _, [] => none

end Token

end TokenServer.Json
