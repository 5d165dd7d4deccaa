import DocHints.Text.Printable

/-!
# Quoted text

A text is quoted by single quotes, unless it holds a single quote and no double
quote.  Inside, the backslash and the quote in use are escaped, line breaks and
tabs have their letters, and a character that is not printable is written by its
number with two, four or eight hexadecimal digits.
-/

namespace DocHints.Text

def hexDigits (width n : Nat) : List Char :=
  let digits := Nat.toDigits 16 n
  List.replicate (width - digits.length) '0' ++ digits

/-- The quote that delimits a text: double only where that avoids an escape. -/
def quoteFor (hasSingle hasDouble : Bool) : Char :=
  if hasSingle && !hasDouble then '"' else '\''

def quoteChar (quote c : Char) : List Char :=
  if c = quote || c = '\\' then ['\\', c]
  else if c = '\n' then ['\\', 'n']
  else if c = '\r' then ['\\', 'r']
  else if c = '\t' then ['\\', 't']
  else if isPrintable c then [c]
  else if c.toNat < 0x100 then '\\' :: 'x' :: hexDigits 2 c.toNat
  else if c.toNat < 0x10000 then '\\' :: 'u' :: hexDigits 4 c.toNat
  else '\\' :: 'U' :: hexDigits 8 c.toNat

def quoteChars (chars : List Char) : List Char :=
  let quote := quoteFor (chars.contains '\'') (chars.contains '"')
  quote :: chars.flatMap (quoteChar quote) ++ [quote]

def quote (s : String) : String :=
  String.ofList (quoteChars s.toList)

/-! ## Bytes -/

def quoteByte (quote : Char) (byte : UInt8) : List Char :=
  let c := Char.ofNat byte.toNat
  if c = quote || c = '\\' then ['\\', c]
  else if c = '\n' then ['\\', 'n']
  else if c = '\r' then ['\\', 'r']
  else if c = '\t' then ['\\', 't']
  else if 32 ≤ byte.toNat && byte.toNat < 127 then [c]
  else '\\' :: 'x' :: hexDigits 2 byte.toNat

/--
Bytes are quoted as text is, after the letter `b`, with everything outside ASCII
by number.
-/
def quoteBytes (bytes : List UInt8) : String :=
  let quote := quoteFor (bytes.contains 39) (bytes.contains 34)
  String.ofList ('b' :: quote :: bytes.flatMap (quoteByte quote) ++ [quote])

end DocHints.Text
