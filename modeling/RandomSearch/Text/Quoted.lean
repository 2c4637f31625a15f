import RandomSearch.Text
import RandomSearch.Text.Printable

/-!
# Quoted text

A text is written between single quotes, or between double quotes when it holds single quotes and no
double ones.  The quote in use, the backslash, line breaks, tabs, unprintable characters and lone
surrogates are escaped; everything else stands for itself.
-/

namespace RandomSearch.Text

def hexadecimal (width code : Nat) : List Char :=
  match width with
  | 0 => []
  | width + 1 => hexadecimal width (code / 16) ++ [Nat.digitChar (code % 16)]

/-- The escape that gives the number of a code point, in two, four or eight digits. -/
def codeEscape (code : Nat) : List Char :=
  if code < 0x100 then '\\' :: 'x' :: hexadecimal 2 code
  else if code < 0x10000 then '\\' :: 'u' :: hexadecimal 4 code
  else '\\' :: 'U' :: hexadecimal 8 code

def escape (quote : Char) : CodePoint → List Char
  | .surrogate offset => codeEscape (CodePoint.surrogate offset).code
  | .scalar c =>
      if c = quote ∨ c = '\\' then ['\\', c]
      else if c = '\n' then ['\\', 'n']
      else if c = '\r' then ['\\', 'r']
      else if c = '\t' then ['\\', 't']
      else if isPrintable c then [c]
      else codeEscape c.toNat

def quoteFor (text : Text) : Char :=
  if text.contains (.scalar '\'') && !text.contains (.scalar '"') then '"' else '\''

def quoted (text : Text) : Text :=
  let quote := quoteFor text
  ofChars (quote :: (text.flatMap (escape quote) ++ [quote]))

def asciiOnly (text : Text) : Text :=
  text.flatMap fun point => if point.code < 0x80 then [point] else ofChars (codeEscape point.code)

end RandomSearch.Text
