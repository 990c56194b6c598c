import DataContract.Text.Printable
import DataContract.Text.Surrogate

/-!
# Quoted text

The written form of a text or of a byte string between quotes. The quote is
the apostrophe, unless the content holds an apostrophe and no double quote.
Backslashes and the chosen quote are escaped, the common control characters
have short escapes, and every other unprintable character is written by its
code in hexadecimal.
-/

namespace DataContract
namespace Text

/-- The apostrophe. -/
def apostrophe : Char := Char.ofNat 39

/-- One hexadecimal digit, in small letters. -/
def hexDigit (n : Nat) : Char :=
  if n < 10 then Char.ofNat (48 + n) else Char.ofNat (87 + n)

/-- A number in hexadecimal with exactly `width` digits, higher digits being
dropped. -/
def hexDigits : Nat → Nat → List Char
  | 0, _ => []
  | width + 1, n => hexDigits width (n / 16) ++ [hexDigit (n % 16)]

/-- The value of a hexadecimal digit. -/
def hexValue? (c : Char) : Option Nat :=
  if c.isDigit then some (c.toNat - 48)
  else if 'a' ≤ c && c ≤ 'f' then some (c.toNat - 87)
  else if 'A' ≤ c && c ≤ 'F' then some (c.toNat - 55)
  else none

/-- The bytes that pairs of hexadecimal digits write. -/
def readHex? : List Char → Option (List UInt8)
  | [] => some []
  | high :: low :: rest => do
      let byte := (← hexValue? high) * 16 + (← hexValue? low)
      some (UInt8.ofNat byte :: (← readHex? rest))
  | [_] => none

/-- The quote that surrounds a content. -/
def quoteFor (hasApostrophe hasDouble : Bool) : Char :=
  if hasApostrophe && !hasDouble then '"' else apostrophe

/-- The escape of an unprintable character, as short as its code allows. -/
def escapeCode (code : Nat) : List Char :=
  if code < 256 then '\\' :: 'x' :: hexDigits 2 code
  else if code < 65536 then '\\' :: 'u' :: hexDigits 4 code
  else '\\' :: 'U' :: hexDigits 8 code

/-- The written form of one character between quotes. -/
def quoteChar
    (quote : Char)
    (c : Char) : List Char :=
  if c == quote || c == '\\' then ['\\', c]
  else if c == '\n' then ['\\', 'n']
  else if c == '\r' then ['\\', 'r']
  else if c == '\t' then ['\\', 't']
  else if isPrintable c then [c]
  else escapeCode (codeAt c)

/-- The written form of a text. -/
def quoted (text : String) : String :=
  let chars := text.toList
  let quote := quoteFor (chars.contains apostrophe) (chars.contains '"')
  String.ofList (quote :: (chars.flatMap (quoteChar quote) ++ [quote]))

/-- The written form of one byte between quotes. Only visible characters of
the ASCII range are shown as themselves. -/
def quoteByte
    (quote : Char)
    (byte : UInt8) : List Char :=
  let code := byte.toNat
  let c := Char.ofNat code
  if c == quote || c == '\\' then ['\\', c]
  else if c == '\n' then ['\\', 'n']
  else if c == '\r' then ['\\', 'r']
  else if c == '\t' then ['\\', 't']
  else if 32 ≤ code && code < 127 then [c]
  else '\\' :: 'x' :: hexDigits 2 code

/-- The written form of a byte string, which is marked by a leading `b`. -/
def quotedBytes (bytes : List UInt8) : String :=
  let quote := quoteFor (bytes.contains 39) (bytes.contains 34)
  String.ofList ('b' :: quote :: (bytes.flatMap (quoteByte quote) ++ [quote]))

end Text
end DataContract
