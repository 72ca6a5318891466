import CatalogNames.Command.Outcome

/-! The program with its log off: it prints the answer of its outcome and ends with its code. Help is not
worded here, so none is printed. -/

def main (words : List String) : IO UInt32 := do
  let outcome := CatalogNames.Outcome.ofWords (words.map String.toList)
  IO.print (String.ofList outcome.output)
  pure (UInt32.ofNat outcome.exitCode)
