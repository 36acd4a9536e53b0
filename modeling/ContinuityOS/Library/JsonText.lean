import ContinuityOS.Library.Json

/-! # JSON text in basic letters

The text that a writer with its default settings gives: a space behind commas and colons, and
every character outside the printable basic range escaped, those beyond 16 bits as two halves.
-/
namespace ContinuityOS.Library.Json

def escapeUnit (n : ℕ) : List Char :=
  '\\' :: 'u' :: [n / 4096 % 16, n / 256 % 16, n / 16 % 16, n % 16].map Nat.digitChar

def escapeAscii (c : Char) : List Char :=
  if c = '"' then ['\\', '"']
  else if c = '\\' then ['\\', '\\']
  else if c = '\n' then ['\\', 'n']
  else if c = '\r' then ['\\', 'r']
  else if c = '\t' then ['\\', 't']
  else if c = '\x0c' then ['\\', 'f']
  else if c = '\x08' then ['\\', 'b']
  else if ' ' ≤ c ∧ c ≤ '~' then [c]
  else if c.toNat < 0x10000 then escapeUnit c.toNat
  else escapeUnit (0xd800 + (c.toNat - 0x10000) / 1024) ++
    escapeUnit (0xdc00 + (c.toNat - 0x10000) % 1024)

def quoteAscii (s : String) : List Char := '"' :: (s.toList.flatMap escapeAscii ++ ['"'])

mutual
def dumpsDefault : Json → List Char
  | .null => "null".toList
  | .bool true => "true".toList
  | .bool false => "false".toList
  | .int n => (toString n).toList
  | .float literal => literal.toList
  | .string s => quoteAscii s
  | .array items => '[' :: (dumpsDefaultItems items ++ [']'])
  | .object members => '\x7b' :: (dumpsDefaultMembers members ++ ['\x7d'])
def dumpsDefaultItems : List Json → List Char
  | [] => []
  | [item] => dumpsDefault item
  | item :: items => dumpsDefault item ++ ',' :: ' ' :: dumpsDefaultItems items
def dumpsDefaultMembers : List (String × Json) → List Char
  | [] => []
  | [(key, value)] => quoteAscii key ++ ':' :: ' ' :: dumpsDefault value
  | (key, value) :: members =>
    quoteAscii key ++ ':' :: ' ' :: (dumpsDefault value ++ ',' :: ' ' :: dumpsDefaultMembers members)
end

example : String.ofList (Json.object [("b", .array [.int (-3), .null]), ("a", .string "é\n😀")]).sortKeys.dumpsDefault
    = "\x7b\"a\": \"\\u00e9\\n\\ud83d\\ude00\", \"b\": [-3, null]\x7d" := by decide +kernel

end ContinuityOS.Library.Json
