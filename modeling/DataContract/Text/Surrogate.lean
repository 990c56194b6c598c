/-!
# Surrogates

A surrogate is half of a pair of code units: it has a code point but is no
character. A text that holds one holds the private character that lies
`surrogateShift` code points further on in its place.
-/

namespace DataContract
namespace Text

/-- The distance from a surrogate to the character that stands for it. -/
def surrogateShift : Nat := 1048576

/-- Whether a code point is a surrogate. -/
def isSurrogate (code : Nat) : Bool :=
  55296 ≤ code && code ≤ 57343

/-- The character that a text holds for a code point. -/
def charAt (code : Nat) : Char :=
  Char.ofNat (if isSurrogate code then code + surrogateShift else code)

/-- The code point that a character of a text stands for. -/
def codeAt (c : Char) : Nat :=
  if isSurrogate (c.toNat - surrogateShift) then c.toNat - surrogateShift else c.toNat

example : codeAt (charAt 55296) = 55296 := by decide +kernel
example : codeAt 'a' = 97 := by decide +kernel

end Text
end DataContract
