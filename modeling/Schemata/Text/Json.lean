import Schemata.Text.Decimal

/-!
# JSON texts

A string in a JSON text stands between double quotes.  The writer escapes the quote, the
backslash and the control characters and nothing else; the reader takes every string that
the JSON grammar allows.

* `Json.encode` — the characters of a string as they stand between the quotes;
* `Json.quote` — a text as a JSON string;
* `Json.Value.compact`, `Json.Value.indented` — the two layouts of the documents written here;
* `Json.readString?` — the string that a whole JSON text consists of, and nothing for any
  other text.
-/

namespace Schemata

namespace Json

/-! ### Writing -/

/-- The hexadecimal digit with the value `d`, for `d < 16`. -/
def hexDigit (d : Nat) : Char :=
  Char.ofNat (if d < 10 then 0x30 + d else 0x57 + d)

/-- A character as it stands inside a JSON string. -/
def encodeChar (c : Char) : List Char :=
  if c = '"' then ['\\', '"']
  else if c = '\\' then ['\\', '\\']
  else if c.toNat < 0x20 then
    if c.toNat = 0x8 then ['\\', 'b']
    else if c.toNat = 0x9 then ['\\', 't']
    else if c.toNat = 0xA then ['\\', 'n']
    else if c.toNat = 0xC then ['\\', 'f']
    else if c.toNat = 0xD then ['\\', 'r']
    else ['\\', 'u', '0', '0', hexDigit (c.toNat / 16), hexDigit (c.toNat % 16)]
  else [c]

/-- The characters of a string as they stand between the quotes. -/
def encode (cs : List Char) : List Char :=
  cs.flatMap encodeChar

/-- The text as a JSON string. -/
def quote (s : String) : String :=
  "\"" ++ String.ofList (encode s.toList) ++ "\""

/-- The documents that are written: texts, numbers, lists, and records with their fields in
the order of writing. -/
inductive Value where
  /-- A string. -/
  | text (s : String)
  /-- A natural number. -/
  | number (n : Nat)
  /-- A record. -/
  | record (fields : List (String × Value))
  /-- A list. -/
  | list (items : List Value)

/-- `n` levels of indentation on a new line. -/
def newline (n : Nat) : String :=
  "\n" ++ String.ofList (List.replicate (2 * n) ' ')

mutual

/-- The document without any space. -/
def Value.compact : Value → String
  | .text s => quote s
  | .number n => Decimal.ofNat n
  | .record fields => "\x7b" ++ String.intercalate "," (compactFields fields) ++ "\x7d"
  | .list items => "[" ++ String.intercalate "," (compactItems items) ++ "]"

/-- The fields of a record without any space. -/
def compactFields : List (String × Value) → List String
  | [] => []
  | (name, v) :: rest => (quote name ++ ":" ++ v.compact) :: compactFields rest

/-- The items of a list without any space. -/
def compactItems : List Value → List String
  | [] => []
  | v :: rest => v.compact :: compactItems rest

end

mutual

/-- The document with a line for each item and two spaces for each level, at level `n`. -/
def Value.indentedAt (n : Nat) : Value → String
  | .text s => quote s
  | .number k => Decimal.ofNat k
  | .record [] => "\x7b\x7d"
  | .record (f :: fields) =>
    "\x7b" ++ newline (n + 1) ++
      String.intercalate ("," ++ newline (n + 1)) (indentedFields (n + 1) (f :: fields)) ++
      newline n ++ "\x7d"
  | .list [] => "[]"
  | .list (v :: items) =>
    "[" ++ newline (n + 1) ++
      String.intercalate ("," ++ newline (n + 1)) (indentedItems (n + 1) (v :: items)) ++
      newline n ++ "]"

/-- The fields of a record, each as it stands on its line. -/
def indentedFields (n : Nat) : List (String × Value) → List String
  | [] => []
  | (name, v) :: rest => (quote name ++ ": " ++ v.indentedAt n) :: indentedFields n rest

/-- The items of a list, each as it stands on its line. -/
def indentedItems (n : Nat) : List Value → List String
  | [] => []
  | v :: rest => v.indentedAt n :: indentedItems n rest

end

/-- The document with a line for each item and two spaces for each level. -/
def Value.indented (v : Value) : String :=
  v.indentedAt 0

/-! ### Reading -/

/-- Space between the tokens of a JSON text. -/
def isSpace (c : Char) : Bool :=
  c == ' ' || c == '\t' || c == '\n' || c == '\r'

/-- The value of a hexadecimal digit, of either case. -/
def hexValue? (c : Char) : Option Nat :=
  if '0' ≤ c ∧ c ≤ '9' then some (c.toNat - 0x30)
  else if 'a' ≤ c ∧ c ≤ 'f' then some (c.toNat - 0x57)
  else if 'A' ≤ c ∧ c ≤ 'F' then some (c.toNat - 0x37)
  else none

/-- The number written by four hexadecimal digits. -/
def hexValue4? (a b c d : Char) : Option Nat := do
  let a ← hexValue? a
  let b ← hexValue? b
  let c ← hexValue? c
  let d ← hexValue? d
  return ((a * 16 + b) * 16 + c) * 16 + d

/-- The code point of a pair of surrogates. -/
def joinSurrogates (high low : Nat) : Nat :=
  0x10000 + (high - 0xD800) * 0x400 + (low - 0xDC00)

/-- The character that a one-letter escape stands for. -/
def unescape? : Char → Option Char
  | '"' => some '"'
  | '\\' => some '\\'
  | '/' => some '/'
  | 'b' => some '\x08'
  | 'f' => some '\x0c'
  | 'n' => some '\n'
  | 'r' => some '\r'
  | 't' => some '\t'
  | _ => none

/-- The characters up to the closing quote, and what follows it.  A control character, an
unknown escape or half a pair of surrogates is refused. -/
def decode? : List Char → Option (List Char × List Char)
  | [] => none
  | '"' :: rest => some ([], rest)
  | '\\' :: 'u' :: a :: b :: c :: d :: rest =>
    match hexValue4? a b c d with
    | none => none
    | some n =>
      if 0xDC00 ≤ n ∧ n ≤ 0xDFFF then none
      else if 0xD800 ≤ n ∧ n ≤ 0xDBFF then
        match rest with
        | '\\' :: 'u' :: a :: b :: c :: d :: rest =>
          match hexValue4? a b c d with
          | none => none
          | some m =>
            if 0xDC00 ≤ m ∧ m ≤ 0xDFFF then
              (decode? rest).map fun (cs, r) => (Char.ofNat (joinSurrogates n m) :: cs, r)
            else none
        | _ => none
      else (decode? rest).map fun (cs, r) => (Char.ofNat n :: cs, r)
  | '\\' :: c :: rest =>
    match unescape? c with
    | none => none
    | some e => (decode? rest).map fun (cs, r) => (e :: cs, r)
  | c :: rest =>
    if c.toNat < 0x20 ∨ c = '\\' then none
    else (decode? rest).map fun (cs, r) => (c :: cs, r)

/-- The string that the JSON text consists of. -/
def readString? (json : String) : Option String :=
  match json.toList.dropWhile isSpace with
  | '"' :: rest =>
    match decode? rest with
    | some (cs, rest) => if rest.all isSpace then some (String.ofList cs) else none
    | none => none
  | _ => none

end Json

end Schemata
