import ContinuityOS.Library.Dict
import ContinuityOS.Library.Json

/-! # Reading JSON text

The reader of the language's own library: blanks between tokens, the escapes of strings with
pairs of halves for characters beyond 16 bits, numbers that keep their literal when they have a
fraction or an exponent, and the three words for numbers that are not finite. Of a key that comes
twice the last value counts. A half without its partner stands for no character and is refused.
-/
namespace ContinuityOS.Library.Json

def isBlank (c : Char) : Bool := c = ' ' || c = '\t' || c = '\n' || c = '\r'

def skipBlanks (text : List Char) : List Char := text.dropWhile isBlank

section Strings

def hexDigit (c : Char) : Option ℕ :=
  if '0' ≤ c ∧ c ≤ '9' then some (c.toNat - '0'.toNat)
  else if 'a' ≤ c ∧ c ≤ 'f' then some (c.toNat - 'a'.toNat + 10)
  else if 'A' ≤ c ∧ c ≤ 'F' then some (c.toNat - 'A'.toNat + 10)
  else none

/-- Four hexadecimal digits. -/
def hexUnit : List Char → Option (ℕ × List Char)
  | a :: b :: c :: d :: text => do
    let a ← hexDigit a
    let b ← hexDigit b
    let c ← hexDigit c
    let d ← hexDigit d
    return (a * 4096 + b * 256 + c * 16 + d, text)
  | _ => none

/-- Behind the first half of a pair comes the escape of the second. -/
def secondHalf (high : ℕ) : List Char → Option (Char × List Char)
  | '\\' :: 'u' :: text => do
    let (low, rest) ← hexUnit text
    if 0xdc00 ≤ low ∧ low < 0xe000 then
      return (Char.ofNat (0x10000 + (high - 0xd800) * 1024 + (low - 0xdc00)), rest)
    else none
  | _ => none

def unicodeEscape (text : List Char) : Option (Char × List Char) := do
  let (unit, rest) ← hexUnit text
  if 0xd800 ≤ unit ∧ unit < 0xdc00 then secondHalf unit rest
  else if 0xdc00 ≤ unit ∧ unit < 0xe000 then none
  else return (Char.ofNat unit, rest)

/-- What stands behind a backslash, apart from the escape of a unit. -/
def shortEscape (c : Char) : Option Char :=
  if c = '"' then some '"'
  else if c = '\\' then some '\\'
  else if c = '/' then some '/'
  else if c = 'b' then some '\x08'
  else if c = 'f' then some '\x0c'
  else if c = 'n' then some '\n'
  else if c = 'r' then some '\r'
  else if c = 't' then some '\t'
  else none

/-- The next character of a string, which ends at an unescaped quote. -/
def nextChar : List Char → Option (Char × List Char)
  | [] => none
  | c :: text =>
    if c = '\\' then
      match text with
      | [] => none
      | e :: rest => if e = 'u' then unicodeEscape rest else (shortEscape e).map fun c => (c, rest)
    else if c = '"' ∨ c < ' ' then none
    else some (c, text)

/-- The rest of a string whose opening quote has been read. -/
def characters : ℕ → List Char → Option (List Char × List Char)
  | 0, _ => none
  | fuel + 1, text =>
    if text.head? = some '"' then some ([], text.tail)
    else do
      let (c, rest) ← nextChar text
      let (cs, rest) ← characters fuel rest
      return (c :: cs, rest)

def readString (text : List Char) : Option (String × List Char) :=
  (characters (text.length + 1) text).map fun read => (String.ofList read.1, read.2)

end Strings

section Numbers

/-- Digits behind the text that introduces them, nothing when there are none. -/
def optionalDigits (lead text : List Char) : List Char × List Char :=
  match text.span Char.isDigit with
  | ([], _) => ([], lead ++ text)
  | (digits, rest) => (lead ++ digits, rest)

def fraction : List Char → List Char × List Char
  | '.' :: text => optionalDigits ['.'] text
  | text => ([], text)

def exponentSign (e : Char) : List Char → List Char × List Char
  | '+' :: text => optionalDigits [e, '+'] text
  | '-' :: text => optionalDigits [e, '-'] text
  | text => optionalDigits [e] text

def exponent : List Char → List Char × List Char
  | c :: text => if c = 'e' ∨ c = 'E' then exponentSign c text else ([], c :: text)
  | [] => ([], [])

/-- A zero stands alone, and other digits do not start with one. -/
def integerPart : List Char → Option (List Char × List Char)
  | '0' :: text => some (['0'], text)
  | text =>
    match text.span Char.isDigit with
    | ([], _) => none
    | (digits, rest) => some (digits, rest)

def signPart : List Char → List Char × List Char
  | '-' :: text => (['-'], text)
  | text => ([], text)

def integerOf (sign digits : List Char) : ℤ :=
  if sign = [] then Nat.ofDigitChars 10 digits 0 else -Nat.ofDigitChars 10 digits 0

/-- An integer, or the literal of a number with a fraction or an exponent. -/
def numeral (sign digits decimals power : List Char) : Json :=
  if decimals = [] ∧ power = [] then .int (integerOf sign digits)
  else .float (String.ofList (sign ++ digits ++ decimals ++ power))

def readNumber (text : List Char) : Option (Json × List Char) :=
  (integerPart (signPart text).2).map fun read =>
    let decimals := fraction read.2
    let power := exponent decimals.2
    (numeral (signPart text).1 read.1 decimals.1 power.1, power.2)

end Numbers

/-- The words, and the values that they stand for. -/
def words : List (List Char × Json) :=
  [("null".toList, .null), ("true".toList, .bool true), ("false".toList, .bool false),
    ("NaN".toList, .float "NaN"), ("Infinity".toList, .float "Infinity"),
    ("-Infinity".toList, .float "-Infinity")]

def readWord (text : List Char) : Option (Json × List Char) :=
  words.findSome? fun word =>
    if word.1.isPrefixOf text then some (word.2, text.drop word.1.length) else none

def readScalar (text : List Char) : Option (Json × List Char) :=
  (readWord text).orElse fun _ => readNumber text

/-- Of a key that comes twice the last value counts, at the place of the first. -/
def ofMembers (members : List (String × Json)) : Json :=
  .object (members.foldl (fun l member => Bindings.assign l member.1 member.2) [])

/-- The text behind a character that must come next. -/
def expect (c : Char) (text : List Char) : Option (List Char) :=
  if text.head? = some c then some text.tail else none

mutual
def readValue : ℕ → List Char → Option (Json × List Char)
  | 0, _ => none
  | _ + 1, [] => none
  | fuel + 1, c :: text =>
    if c = '"' then (readString text).map fun read => (.string read.1, read.2)
    else if c = '[' then
      match expect ']' (skipBlanks text) with
      | some rest => some (.array [], rest)
      | none => (readItems fuel (skipBlanks text)).map fun read => (.array read.1, read.2)
    else if c = '\x7b' then
      match expect '\x7d' (skipBlanks text) with
      | some rest => some (.object [], rest)
      | none => (readMembers fuel (skipBlanks text)).map fun read => (ofMembers read.1, read.2)
    else readScalar (c :: text)
/-- The values up to the closing bracket, from the first one on. -/
def readItems : ℕ → List Char → Option (List Json × List Char)
  | 0, _ => none
  | fuel + 1, text => do
    let (item, rest) ← readValue fuel text
    match expect ']' (skipBlanks rest) with
    | some rest => return ([item], rest)
    | none =>
      let rest ← expect ',' (skipBlanks rest)
      let (items, rest) ← readItems fuel (skipBlanks rest)
      return (item :: items, rest)
/-- The keys and values up to the closing brace, from the first key on. -/
def readMembers : ℕ → List Char → Option (List (String × Json) × List Char)
  | 0, _ => none
  | fuel + 1, text => do
    let (key, rest) ← (expect '"' text).bind readString
    let rest ← expect ':' (skipBlanks rest)
    let (value, rest) ← readValue fuel (skipBlanks rest)
    match expect '\x7d' (skipBlanks rest) with
    | some rest => return ([(key, value)], rest)
    | none =>
      let rest ← expect ',' (skipBlanks rest)
      let (members, rest) ← readMembers fuel (skipBlanks rest)
      return ((key, value) :: members, rest)
end

/-- The value of a whole text. -/
def loads (text : List Char) : Option Json := do
  let (value, rest) ← readValue (2 * text.length) (skipBlanks text)
  if skipBlanks rest = [] then some value else none

end ContinuityOS.Library.Json
