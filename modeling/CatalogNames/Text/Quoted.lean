import CatalogNames.Text.Printable

/-! A text in double quotes, fit for a message: quotes and backslashes are escaped, line ends, tabs and
the null character are written by a letter, and what would not show is written by its code. -/

namespace CatalogNames.Text

/-- The character as it stands between quotes. -/
def quoteChar (char : Char) : Text :=
  if char = '"' then ['\\', '"']
  else if char = '\\' then ['\\', '\\']
  else if char = '\n' then ['\\', 'n']
  else if char = '\r' then ['\\', 'r']
  else if char = '\t' then ['\\', 't']
  else if char = '\x00' then ['\\', '0']
  else if isHidden char then
    ['\\', 'u', '\x7b'] ++ Nat.toDigits 16 char.toNat ++ ['\x7d']
  else [char]

def quoted (text : Text) : Text := '"' :: (text.flatMap quoteChar ++ ['"'])

end CatalogNames.Text
