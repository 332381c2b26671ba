import Signet.Json.Basic

/-! # Writing JSON

A value is written without blanks between its parts.  Quotation marks,
backslashes and control characters are escaped, the common ones of these by a
letter; all other characters stay as they are.
-/

namespace Signet.Json

/-- A character inside a text. -/
def escapedChar (c : Char) : List Char :=
  if c = '"' then ['\\', '"']
  else if c = '\\' then ['\\', '\\']
  else if c = '\x08' then ['\\', 'b']
  else if c = '\t' then ['\\', 't']
  else if c = '\n' then ['\\', 'n']
  else if c = '\x0c' then ['\\', 'f']
  else if c = '\r' then ['\\', 'r']
  else if c.toNat < 0x20 then
    ['\\', 'u', '0', '0', Text.digitChar (c.toNat / 16), Text.digitChar (c.toNat % 16)]
  else [c]

/-- A text between quotation marks. -/
def printText (s : String) : List Char :=
  '"' :: s.toList.flatMap escapedChar ++ ['"']

mutual

/-- A value as text. -/
def print : Json → List Char
  | .null => "null".toList
  | .bool b => (if b then "true" else "false").toList
  | .int i => (Numeral.decimal i).toList
  | .float x => x.text.toList
  | .text s => printText s
  | .array items => '[' :: printItems items ++ [']']
  | .object members => '\x7b' :: printMembers members ++ ['\x7d']

/-- Values with commas between them. -/
def printItems : List Json → List Char
  | [] => []
  | [x] => print x
  | x :: r => print x ++ ',' :: printItems r

/-- Members with commas between them. -/
def printMembers : List (String × Json) → List Char
  | [] => []
  | [(name, x)] => printText name ++ ':' :: print x
  | (name, x) :: r => printText name ++ ':' :: print x ++ ',' :: printMembers r

end

end Signet.Json
