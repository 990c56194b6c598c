/-!
# Bytes written with 64 characters

Four characters of six bits each write three bytes; one or two equals signs
complete the last four. Characters outside the alphabet are passed by, and
what follows the completed end is not looked at.
-/

namespace DataContract
namespace Text
namespace Base64

/-- The six bits that a character of the alphabet stands for. -/
def sextet? (c : Char) : Option Nat :=
  if 'A' ≤ c && c ≤ 'Z' then some (c.toNat - 65)
  else if 'a' ≤ c && c ≤ 'z' then some (c.toNat - 71)
  else if c.isDigit then some (c.toNat + 4)
  else if c == '+' then some 62
  else if c == '/' then some 63
  else none

/-- How far a group of four characters has been read. -/
structure Group where
  /-- The number of its characters. -/
  size : Nat
  /-- The bits that no byte holds yet. -/
  bits : Nat
  /-- The number of equals signs. -/
  signs : Nat

/-- Before a group. -/
def Group.start : Group := ⟨0, 0, 0⟩

/-- The group after a further character, and the byte that it completes. -/
def Group.add
    (group : Group)
    (sextet : Nat) : Group × List UInt8 :=
  let bits := group.bits * 64 + sextet
  match group.size with
  | 0 => (⟨1, sextet, 0⟩, [])
  | 1 => (⟨2, bits % 16, 0⟩, [UInt8.ofNat (bits / 16)])
  | 2 => (⟨3, bits % 4, 0⟩, [UInt8.ofNat (bits / 4)])
  | _ => (.start, [UInt8.ofNat bits])

/-- The bytes written by the rest of a text. -/
def decodeFrom? (group : Group) : List Char → Option (List UInt8)
  | [] => if group.size = 0 then some [] else none
  | c :: rest =>
      if c == '=' then
        let signs := group.signs + 1
        if group.size < 2 then decodeFrom? group rest
        else if 4 ≤ group.size + signs then some []
        else decodeFrom? { group with signs } rest
      else
        match sextet? c with
        | none => decodeFrom? group rest
        | some sextet =>
            let next := group.add sextet
            (decodeFrom? next.1 rest).map (next.2 ++ ·)

/-- The bytes written by a text. -/
def decode? (chars : List Char) : Option (List UInt8) :=
  decodeFrom? .start chars

example : decode? "aGk=".toList = some [104, 105] := by decide +kernel

end Base64
end Text
end DataContract
