import Multitarget.Text.Integer
import Multitarget.Text.Printable

/-!
# Quoted text

A text in quotes, on one line and with visible characters only: the quote and
the backslash are escaped, and so is every character that would not show.
-/

namespace Multitarget.Text.Quoted

/-- The quote put around a text: an apostrophe, unless the text has one and no quotation mark. -/
def mark (text : List Char) : Char :=
  if text.contains '\'' && !text.contains '"' then '"' else '\''

/-- How one character stands inside the given quotes. -/
def escape (quote character : Char) : List Char :=
  let code := character.toNat
  if character = quote ∨ character = '\\' then ['\\', character]
  else if character = '\n' then ['\\', 'n']
  else if character = '\r' then ['\\', 'r']
  else if character = '\t' then ['\\', 't']
  else if isPrintable character then [character]
  else if code < 0x100 then '\\' :: 'x' :: hexadecimal 2 code
  else if code < 0x10000 then '\\' :: 'u' :: hexadecimal 4 code
  else '\\' :: 'U' :: hexadecimal 8 code

/-- The text in quotes. -/
def encode (text : List Char) : List Char :=
  let quote := mark text
  quote :: (text.flatMap (escape quote) ++ [quote])

end Multitarget.Text.Quoted

namespace Multitarget.Text

/-- The text in quotes. -/
def quoted (text : String) : String :=
  String.ofList (Quoted.encode text.toList)

end Multitarget.Text
