import CatalogNames.Json.Escape
import CatalogNames.Json.Numeral

/-! Reading JSON. Each reader takes a value off the start of a text and gives the text after it.
Reading is strict: no comments, no trailing commas, no control characters in strings. Containers nest
at most 127 deep, and that depth is what the reader of values recurses on. In an object the last value
of a repeated key counts. These are the rules of serde_json, which are assumed and not derived. -/

namespace CatalogNames.Json

def isSpace (char : Char) : Bool :=
  char == ' ' || char == '\t' || char == '\n' || char == '\r'

def skipSpace (text : Text) : Text := text.dropWhile isSpace

/-- The characters up to the closing quote, of which there are at most as many as the bound. -/
def readChars : Nat → Text → Option (Text × Text)
  | 0, _ => none
  | bound + 1, text =>
      match text with
      | '"' :: rest => some ([], rest)
      | text => do
          let (char, rest) ← readChar text
          let (chars, rest) ← readChars bound rest
          some (char :: chars, rest)

/-- The string whose opening quote is already gone. -/
def readString (text : Text) : Option (Text × Text) := readChars text.length text

section
variable {α : Type}

/-- One item and those after it, with commas between them, up to the closing mark. -/
def readItems (readItem : Text → Option (α × Text)) (closing : Char) :
    Nat → Text → Option (List α × Text)
  | 0, _ => none
  | bound + 1, text => do
      let (item, rest) ← readItem text
      match skipSpace rest with
      | [] => none
      | mark :: rest =>
          if mark = ',' then do
            let (items, rest) ← readItems readItem closing bound rest
            some (item :: items, rest)
          else if mark = closing then some ([item], rest)
          else none

/-- The items of a container whose opening mark is already gone. -/
def readContainer (readItem : Text → Option (α × Text)) (closing : Char) (text : Text) :
    Option (List α × Text) :=
  match skipSpace text with
  | [] => none
  | mark :: rest =>
      if mark = closing then some ([], rest) else readItems readItem closing text.length text

/-- A key, a colon and a value. -/
def readField (readValue : Text → Option (α × Text)) (text : Text) :
    Option ((Text × α) × Text) :=
  match skipSpace text with
  | '"' :: rest => do
      let (key, rest) ← readString rest
      match skipSpace rest with
      | ':' :: rest => do
          let (value, rest) ← readValue rest
          some ((key, value), rest)
      | _ => none
  | _ => none

end

/-- The value if the text goes on as the word does. -/
def readWord (word : Text) (value : Json) (text : Text) : Option (Json × Text) :=
  if word.isPrefixOf text then some (value, text.drop word.length) else none

/-- A value whose containers nest at most as deep as given. -/
def readValue : Nat → Text → Option (Json × Text)
  | depth, text =>
      match skipSpace text with
      | [] => none
      | mark :: rest =>
          if mark = '"' then (readString rest).map fun read => (.string read.1, read.2)
          else if mark = '[' then
            match depth with
            | 0 => none
            | depth + 1 =>
                (readContainer (readValue depth) ']' rest).map fun read => (.array read.1, read.2)
          else if mark = '\x7b' then
            match depth with
            | 0 => none
            | depth + 1 =>
                (readContainer (readField (readValue depth)) '\x7d' rest).map fun read =>
                  (.object (Fields.ofList read.1), read.2)
          else if mark = 'n' then readWord "null".toList .null (mark :: rest)
          else if mark = 't' then readWord "true".toList (.boolean true) (mark :: rest)
          else if mark = 'f' then readWord "false".toList (.boolean false) (mark :: rest)
          else (Number.read (mark :: rest)).map fun read => (.number read.1, read.2)

def maxDepth : Nat := 127

/-- The value at the start of the text and the text after it. -/
def readStart (text : Text) : Option (Json × Text) := readValue maxDepth text

/-- The value that the whole text stands for. -/
def read (text : Text) : Option Json := do
  let (json, rest) ← readStart text
  if (skipSpace rest).isEmpty then some json else none

end CatalogNames.Json
