import CatalogNames.Text.Basic

/-! Characters inside a JSON string. The quote, the backslash and the controls below the space are
written with a backslash, by a letter where there is one and by code otherwise; all other characters
are written as themselves. Any character may be read from a code of four hexadecimal digits, or from
two such codes that form a surrogate pair. Which characters are escaped, and how, is taken from serde_json. -/

namespace CatalogNames.Json

/-- The letters that stand for characters after a backslash. -/
def letters : List (Char × Char) :=
  [('"', '"'), ('\\', '\\'), ('b', '\x08'), ('f', '\x0c'), ('n', '\n'), ('r', '\r'), ('t', '\t')]

/-- The character as it is written in a string. -/
def escape (char : Char) : Text :=
  match letters.find? fun pair => pair.2 = char with
  | some (letter, _) => ['\\', letter]
  | none =>
      if char.toNat < 0x20 then
        ['\\', 'u', '0', '0', Nat.digitChar (char.toNat / 16), Nat.digitChar (char.toNat % 16)]
      else [char]

def hexValue? (digit : Char) : Option Nat :=
  if '0' ≤ digit ∧ digit ≤ '9' then some (digit.toNat - '0'.toNat)
  else if 'a' ≤ digit ∧ digit ≤ 'f' then some (digit.toNat - 'a'.toNat + 10)
  else if 'A' ≤ digit ∧ digit ≤ 'F' then some (digit.toNat - 'A'.toNat + 10)
  else none

/-- The value of four hexadecimal digits and the text after them. -/
def readCode : Text → Option (Nat × Text)
  | first :: second :: third :: fourth :: rest => do
      let high := (← hexValue? first) * 16 + (← hexValue? second)
      let low := (← hexValue? third) * 16 + (← hexValue? fourth)
      some (high * 256 + low, rest)
  | _ => none

/-- The character of a code; the first half of a surrogate pair needs the second half after it. -/
def readCoded (text : Text) : Option (Char × Text) := do
  let (code, rest) ← readCode text
  if code < 0xD800 ∨ 0xDFFF < code then some (Char.ofNat code, rest)
  else if 0xDBFF < code then none
  else
    match rest with
    | '\\' :: 'u' :: rest => do
        let (second, rest) ← readCode rest
        if 0xDC00 ≤ second ∧ second ≤ 0xDFFF then
          some (Char.ofNat (0x10000 + (code - 0xD800) * 0x400 + (second - 0xDC00)), rest)
        else none
    | _ => none

/-- One character of a string and the text after it. The quote that ends a string is none. -/
def readChar : Text → Option (Char × Text)
  | [] => none
  | '\\' :: [] => none
  | '\\' :: mark :: rest =>
      if mark = 'u' then readCoded rest
      else if mark = '/' then some ('/', rest)
      else (letters.find? fun pair => pair.1 = mark).map fun pair => (pair.2, rest)
  | char :: rest => if char = '"' ∨ char.toNat < 0x20 then none else some (char, rest)

end CatalogNames.Json
