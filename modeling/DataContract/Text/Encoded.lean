/-!
# Encoded text

Texts are stored as bytes in which a character takes one to four of them. The
reader accepts the shortest form of each character only, and no surrogates.
Line ends are brought to one form after that.
-/

namespace DataContract
namespace Text

/-- The six bits that a continuation byte adds. -/
def continuation? (byte : UInt8) : Option Nat :=
  if 128 ≤ byte && byte < 192 then some (byte.toNat - 128) else none

/-- The character with a code that lies in a range and is no surrogate. -/
def charWithin? (first last code : Nat) : Option Char :=
  if first ≤ code && code ≤ last && !(55296 ≤ code && code ≤ 57343) then some (Char.ofNat code)
  else none

/-- The first character of an encoded text, and the bytes after it. -/
def decodeFirst? : List UInt8 → Option (Char × List UInt8)
  | [] => none
  | first :: rest =>
      if first < 128 then some (Char.ofNat first.toNat, rest)
      else if first < 224 then
        match rest with
        | second :: rest => do
            let low ← continuation? second
            let c ← charWithin? 128 2047 ((first.toNat - 192) * 64 + low)
            some (c, rest)
        | _ => none
      else if first < 240 then
        match rest with
        | second :: third :: rest => do
            let middle ← continuation? second
            let low ← continuation? third
            let c ← charWithin? 2048 65535 (((first.toNat - 224) * 64 + middle) * 64 + low)
            some (c, rest)
        | _ => none
      else
        match rest with
        | second :: third :: fourth :: rest => do
            let high ← continuation? second
            let middle ← continuation? third
            let low ← continuation? fourth
            let code := (((first.toNat - 240) * 64 + high) * 64 + middle) * 64 + low
            let c ← charWithin? 65536 1114111 code
            some (c, rest)
        | _ => none

theorem length_decodeFirst?_lt
    (bytes rest : List UInt8)
    (c : Char)
    (found : decodeFirst? bytes = some (c, rest)) :
    rest.length < bytes.length := by
  unfold decodeFirst? at found
  split at found
  · simp at found
  · split at found
    · simp only [Option.some.injEq, Prod.mk.injEq] at found
      simp [found.2]
    · split at found
      · split at found
        · simp only [bind, Option.bind_eq_some_iff, Option.some.injEq, Prod.mk.injEq] at found
          obtain ⟨_, _, _, _, _, rfl⟩ := found
          simp only [List.length_cons]
          omega
        · simp at found
      · split at found
        · split at found
          · simp only [bind, Option.bind_eq_some_iff, Option.some.injEq, Prod.mk.injEq] at found
            obtain ⟨_, _, _, _, _, _, _, rfl⟩ := found
            simp only [List.length_cons]
            omega
          · simp at found
        · split at found
          · simp only [bind, Option.bind_eq_some_iff, Option.some.injEq, Prod.mk.injEq] at found
            obtain ⟨_, _, _, _, _, _, _, _, _, rfl⟩ := found
            simp only [List.length_cons]
            omega
          · simp at found

/-- The characters found before and those of an encoded text, and the bytes from
the first one on that starts no character; `found` has the latest first. -/
def decodeFrom
    (found : List Char)
    (bytes : List UInt8) : List Char × List UInt8 :=
  match _first : decodeFirst? bytes with
  | some (c, rest) => decodeFrom (c :: found) rest
  | none => (found.reverse, bytes)
termination_by bytes.length
decreasing_by exact length_decodeFirst?_lt bytes rest c _first

/-- The characters of an encoded text, and the bytes from the first one on that
starts no character. -/
def decodePrefix (bytes : List UInt8) : List Char × List UInt8 :=
  decodeFrom [] bytes

/-- The characters of an encoded text. -/
def decode? (bytes : List UInt8) : Option (List Char) :=
  match decodePrefix bytes with
  | (chars, []) => some chars
  | _ => none

/-- The characters found before and those of a text, in which each line end becomes
a single line feed; `found` has the latest first. -/
def unifyFrom
    (found : List Char) : List Char → List Char
  | '\r' :: '\n' :: rest => unifyFrom ('\n' :: found) rest
  | '\r' :: rest => unifyFrom ('\n' :: found) rest
  | c :: rest => unifyFrom (c :: found) rest
  | [] => found.reverse

/-- A text in which each line end is a single line feed. -/
def unifyLineEnds (chars : List Char) : List Char :=
  unifyFrom [] chars

end Text
end DataContract
