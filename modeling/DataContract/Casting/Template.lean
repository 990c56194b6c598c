import DataContract.Casting.Numbers
import DataContract.Text.Consume

/-!
# Templates

A template is a text or a byte string with conversions in it. A conversion
starts with a percent sign; a key in brackets, flags, a width, a precision and
a length letter may follow, and a letter tells what it makes of its argument.
The arguments are the items of a tuple one after another or else one value,
which is also where keys are looked up.

Only whether a template can be filled is told here, and if not, what is wrong.
-/

namespace DataContract

open Number Text

namespace Template

/-- The kinds of templates. -/
inductive Kind
  | text
  | bytes
  deriving DecidableEq, Repr

/-- The arguments that are left. -/
inductive Supply
  | items (rest : List Value)
  | single
      (value : Value)
      (taken : Bool)

/-- The next argument; a fault if none is left. -/
def Supply.next : Supply → Attempt (Value × Supply)
  | .items (value :: rest) => .ok (value, .items rest)
  | .items [] => .error .wrongKind
  | .single value false => .ok (value, .single value true)
  | .single _ true => .error .wrongKind

/-- Whether all arguments have been taken. -/
def Supply.isExhausted : Supply → Bool
  | .items rest => rest.isEmpty
  | .single _ taken => taken

/-- Where the keys of conversions are looked up: a value with entries or items,
but no text and no tuple, and nothing of the template's own kind. -/
def source? (kind : Kind) (args : Value) : Option Value :=
  match args with
  | .map _ => some args
  | .list _ => some args
  | .bytes _ => if kind = .text then some args else none
  | _ => none

/-- The key in brackets, in which brackets may nest, and what follows it. -/
def takeKey? : Nat → List Char → Option (List Char × List Char)
  | _, [] => none
  | depth, c :: rest =>
      if c == ')' && depth = 0 then some ([], rest)
      else
        let inside := if c == '(' then depth + 1 else if c == ')' then depth - 1 else depth
        (takeKey? inside rest).map fun taken => (c :: taken.1, taken.2)

/-- The key as a value of the template's kind. -/
def keyValue (kind : Kind) (key : List Char) : Value :=
  match kind with
  | .text => .text (String.ofList key)
  | .bytes => .bytes (key.map fun c => UInt8.ofNat c.toNat)

/-- The arguments for a conversion after its key, if it has one. -/
def applyKey
    (kind : Kind)
    (source : Option Value)
    (supply : Supply)
    (chars : List Char) : Attempt (Supply × List Char) :=
  match chars with
  | '(' :: rest =>
      match source with
      | none => .error .wrongKind
      | some container =>
          match takeKey? 0 rest with
          | none => .error .badContent
          | some (key, rest) => do
              .ok (.single (← container.pick (keyValue kind key)) false, rest)
  | _ => .ok (supply, chars)

/-- A width or a precision: the number, and whether digits write it. -/
structure Size where
  /-- The number. -/
  number : Nat
  /-- Whether digits write it. -/
  written : Bool

/-- A width or a precision in digits or, for a star, from the next argument,
and what follows it. The number must not exceed `limit`. -/
def takeSize
    (limit : Nat)
    (supply : Supply)
    (chars : List Char) : Attempt (Size × Supply × List Char) :=
  match chars with
  | '*' :: rest => do
      let (value, supply) ← supply.next
      match value.whole? with
      | none => .error .wrongKind
      | some size =>
          if limit < size || size < -limit - 1 then .error .overflow
          else .ok (⟨size.toNat, false⟩, supply, rest)
  | _ =>
      let digits := chars.takeWhile Char.isDigit
      let size := digits.foldl (fun total c => 10 * total + (c.toNat - 48)) 0
      if limit < size then .error .badContent
      else .ok (⟨size, !digits.isEmpty⟩, supply, chars.dropWhile Char.isDigit)

/-- The greatest width. -/
def maxWidth : Nat := 9223372036854775807

/-- The greatest precision that may be written. -/
def maxPrecision : Nat := 2147483647

/-- The greatest precision of a whole number. -/
def maxWholePrecision : Nat := 2147483644

/-- A value can be written as a whole number. -/
def asWhole
    (decimal : Bool)
    (precision : Nat)
    (value : Value) : Attempt Unit := do
  let number ←
    match value with
    | .int number => .ok number
    | .bool flag => .ok (flag.toNat : Int)
    | .float _ => if decimal then value.toWhole else .error .wrongKind
    | .decimal _ => if decimal then value.toWhole else .error .wrongKind
    | _ => .error .wrongKind
  if maxWholePrecision < precision then .error .overflow
  else if decimal && !(Value.int number).isWritable then .error .badContent
  else .ok ()

/-- A value can be written as a floating-point number. For a byte string every
other value is of the wrong kind. -/
def asReal (kind : Kind) (value : Value) : Attempt Unit :=
  match value with
  | .int _ | .bool _ | .float _ | .decimal _ =>
      match value.toFloat with
      | .ok _ => .ok ()
      | .error fault => .error (if kind = .bytes then .wrongKind else fault)
  | _ => .error .wrongKind

/-- A value stands for one character: it is one, or it is the code of one. -/
def asCharacter (kind : Kind) (value : Value) : Attempt Unit :=
  let ofCode := fun (codes : Nat) =>
    match value.whole? with
    | some code => if 0 ≤ code && code < codes then .ok () else .error .overflow
    | none => .error .wrongKind
  match kind, value with
  | .text, .text content => if content.length = 1 then .ok () else .error .wrongKind
  | .bytes, .bytes content => if content.length = 1 then .ok () else .error .wrongKind
  | .text, _ => ofCode 1114112
  | .bytes, _ => ofCode 256

/-- The fault for a letter that asks for nothing. In a byte string a letter
beyond the ASCII range has no name, unless it follows a digit. -/
def unknownLetter
    (kind : Kind)
    (afterDigit : Bool)
    (letter : Char) : Fault :=
  if kind = .bytes && 128 ≤ letter.toNat && !afterDigit then .overflow else .badContent

/-- A value can be converted as a letter asks. -/
def convert
    (kind : Kind)
    (precision : Nat)
    (afterDigit : Bool)
    (letter : Char)
    (value : Value) : Attempt Unit :=
  let displayed := if value.isWritable then .ok () else .error .badContent
  if letter == 'r' || letter == 'a' then displayed
  else if letter == 's' && kind = .text then displayed
  else if (letter == 's' || letter == 'b') && kind = .bytes then
    match value with
    | .bytes _ => .ok ()
    | _ => .error .wrongKind
  else if "diu".toList.contains letter then asWhole true precision value
  else if "oxX".toList.contains letter then asWhole false precision value
  else if "eEfFgG".toList.contains letter then asReal kind value
  else if letter == 'c' then asCharacter kind value
  else .error (unknownLetter kind afterDigit letter)

/-- The flags of a conversion. -/
def flags : List Char := "-+ #0".toList

/-- The letters for the length of an argument, which have no effect. -/
def lengths : List Char := "hlL".toList

/-- Fill the conversion after a percent sign. -/
def fillOne
    (kind : Kind)
    (source : Option Value)
    (supply : Supply)
    (chars : List Char) : Attempt (Supply × List Char) := do
  let (supply, rest) ← applyKey kind source supply chars
  let (width, supply, rest) ← takeSize maxWidth supply (rest.dropWhile flags.contains)
  let (precision, supply, rest) ←
    match rest with
    | '.' :: rest => takeSize maxPrecision supply rest
    | _ => .ok (⟨0, width.written⟩, supply, rest)
  let long := rest.head?.any lengths.contains
  match if long then rest.drop 1 else rest with
  | [] => .error .badContent
  | letter :: rest => do
      let (value, supply) ← supply.next
      convert kind precision.number (precision.written && !long) letter value
      .ok (supply, rest)

/-- Pass one character, or fill one conversion. At the end all arguments must
have been taken, unless keys could be looked up in them. -/
def fillStep
    (kind : Kind)
    (source : Option Value)
    (supply : Supply)
    (chars : List Char) : Except Fault (Step Supply Char Unit) :=
  match chars with
  | [] => if source.isSome || supply.isExhausted then .ok (.done ()) else .error .wrongKind
  | '%' :: '%' :: rest => .ok (.more supply rest)
  | '%' :: rest => do
      let (supply, rest) ← fillOne kind source supply rest
      .ok (.more supply rest)
  | _ :: rest => .ok (.more supply rest)

/-- Fill a template with arguments. -/
def fill
    (kind : Kind)
    (chars : List Char)
    (args : Value) : Attempt Unit :=
  let supply :=
    match args with
    | .tuple items => Supply.items items
    | _ => Supply.single args false
  consume .badContent (fillStep kind (source? kind args)) supply chars

end Template
end DataContract
