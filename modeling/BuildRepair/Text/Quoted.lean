import BuildRepair.Text.Half
import BuildRepair.Text.Number

/-
  Quoted texts in messages. Single quotes are the rule, double quotes hold a text that has single
  quotes and no double one, and a character without a visible form is shown by its number.
-/

namespace BuildRepair.Text

/-- The quote a text is put in. -/
def quoteFor (s : List Char) : Char :=
  if s.contains '\'' && !s.contains '"' then '"' else '\''

/-- A character as it stands between quotes. -/
def quoteChar (quote c : Char) : List Char :=
  if c = quote ∨ c = '\\' then ['\\', c]
  else if c = '\n' then ['\\', 'n']
  else if c = '\r' then ['\\', 'r']
  else if c = '\t' then ['\\', 't']
  else if isShown c then [c]
  else
    let n := (half? c).getD c.toNat
    if n < 0x100 then '\\' :: 'x' :: hexText 2 n
    else if n < 0x10000 then '\\' :: 'u' :: hexText 4 n
    else '\\' :: 'U' :: hexText 8 n

/-- A text in quotes. -/
def quoted (s : List Char) : List Char :=
  let quote := quoteFor s
  quote :: s.flatMap (quoteChar quote) ++ [quote]

/-- A string in quotes. -/
def quotedString (s : String) : String := String.ofList (quoted s.toList)

end BuildRepair.Text
