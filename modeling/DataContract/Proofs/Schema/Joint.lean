import DataContract.Proofs.Schema.KeyStyle
import Mathlib.Data.List.Basic
import Mathlib.Data.List.TakeWhile

/-!
# Joints of words

A joint is a run of low lines directly before a small letter or a digit of ASCII. Where the
words of a name are joined, the low lines of joints are left out and the character after a joint
becomes its capital; every other character stays as it is. What becomes of a character is told
by what comes from its index on, for each index by itself. Words are joined in one pass that
counts the low lines it has read, and the two agree.
-/

namespace DataContract

/-! ## Texts with joints -/

/-- Whether a text begins with low lines that a small letter or a digit comes directly after. -/
def BeginsWithJoint (text : List Char) : Prop :=
  ∃ count first rest,
    text = List.replicate (count + 1) '_' ++ first :: rest ∧
      (first.isLower = true ∨ first.isDigit = true)

/-- Whether the character at an index is a low line of a joint. -/
def InJoint
    (text : List Char)
    (index : Nat) : Prop :=
  BeginsWithJoint (text.drop index)

/-- Whether there is a joint in a text. -/
def HasJoint (text : List Char) : Prop :=
  ∃ index, InJoint text index

theorem isWordStart_iff {character : Char} :
    isWordStart character = true ↔ character.isLower = true ∨ character.isDigit = true := by
  have lower : character.isLower =
      (decide (character.val ≥ 'a'.val) && decide (character.val ≤ 'z'.val)) := rfl
  simp [isWordStart, lower, Char.le_def]

/-- A character that starts a word is no low line. -/
theorem ne_lowLine_of_isWordStart
    {character : Char}
    (starts : isWordStart character = true) :
    character ≠ '_' := by
  rintro rfl
  exact absurd starts (by decide)

/-- A text begins with as many low lines as there are, possibly none. -/
theorem exists_lowLines (text : List Char) :
    ∃ count, text = List.replicate count '_' ++ text.dropWhile (· == '_') := by
  have lines : text.takeWhile (· == '_') =
      List.replicate (text.takeWhile (· == '_')).length '_' :=
    List.eq_replicate_of_mem fun character member => by
      simpa using List.mem_takeWhile_imp member
  exact ⟨_, by rw [← lines, List.takeWhile_append_dropWhile]⟩

/-- What comes after the low lines at the beginning tells whether they are a joint. -/
theorem beginsWithJoint_iff {text : List Char} :
    BeginsWithJoint text ↔
      text.head? = some '_' ∧ (text.dropWhile (· == '_')).head?.any isWordStart = true := by
  constructor
  · rintro ⟨count, first, rest, rfl, starts⟩
    have word := isWordStart_iff.mpr starts
    refine ⟨rfl, ?_⟩
    simp [ne_lowLine_of_isWordStart word, word]
  · rintro ⟨line, after⟩
    obtain ⟨count, shape⟩ := exists_lowLines text
    cases tail : text.dropWhile (· == '_') with
    | nil => simp [tail] at after
    | cons first rest =>
        have word : isWordStart first = true := by simpa [tail] using after
        rw [tail] at shape
        cases count with
        | zero =>
            have same : first = '_' := by simpa [shape] using line
            exact absurd same (ne_lowLine_of_isWordStart word)
        | succ count => exact ⟨count, first, rest, shape, isWordStart_iff.mp word⟩

instance (text : List Char) : Decidable (BeginsWithJoint text) :=
  decidable_of_iff _ beginsWithJoint_iff.symm

instance (text : List Char) (index : Nat) : Decidable (InJoint text index) :=
  inferInstanceAs (Decidable (BeginsWithJoint _))

/-- Low lines before another character are a joint if that character starts a word. -/
theorem beginsWithJoint_replicate_append
    {count : Nat}
    {first : Char}
    (solid : first ≠ '_')
    (rest : List Char) :
    BeginsWithJoint (List.replicate count '_' ++ first :: rest) ↔
      count ≠ 0 ∧ isWordStart first = true := by
  rw [beginsWithJoint_iff]
  cases count with
  | zero => simp [solid]
  | succ count => simp [List.replicate_succ, solid]

/-- Low lines at the end are no joint. -/
theorem not_beginsWithJoint_replicate (count : Nat) :
    ¬ BeginsWithJoint (List.replicate count '_') := by
  rw [beginsWithJoint_iff]
  simp

/-! ## What becomes of each character -/

/-- Whether a low line of a joint stands directly before an index. -/
def FollowsJoint (text : List Char) : Nat → Prop
  | 0 => False
  | index + 1 => InJoint text index

instance (text : List Char) : (index : Nat) → Decidable (FollowsJoint text index)
  | 0 => inferInstanceAs (Decidable False)
  | index + 1 => inferInstanceAs (Decidable (InJoint text index))

/-- What becomes of the character at an index: low lines of joints are left out, and the
character after a joint becomes its capital. -/
def joined?
    (text : List Char)
    (index : Nat) : Option Char :=
  if InJoint text index then none
  else if FollowsJoint text index then text[index]?.map Char.toUpper
  else text[index]?

/-- A text after every character has become what it becomes. -/
def joined (text : List Char) : List Char :=
  (List.range text.length).filterMap (joined? text)

/-- A text without the low lines of its joints. -/
def withoutJoints (text : List Char) : List Char :=
  (List.range text.length).filterMap fun index =>
    if InJoint text index then none else text[index]?

section Solid

/-! Any text but low lines alone begins with low lines and another character. -/

variable
  {pending index : Nat}
  {first : Char}
  {rest text : List Char}
  (solid : first ≠ '_')
  (shape : text = List.replicate pending '_' ++ first :: rest)

include shape in
theorem inJoint_add : InJoint text (pending + 1 + index) ↔ InJoint rest index := by
  rw [InJoint, InJoint, shape, Nat.add_assoc, ← List.drop_drop, List.drop_left' (by simp),
    Nat.add_comm, List.drop_succ_cons]

include solid shape

theorem inJoint_of_le (early : index ≤ pending) :
    InJoint text index ↔ index ≠ pending ∧ isWordStart first = true := by
  rw [shape, InJoint, List.drop_append_of_le_length (by simpa using early), List.drop_replicate,
    beginsWithJoint_replicate_append solid, Nat.sub_ne_zero_iff_lt, early.lt_iff_ne]

theorem followsJoint_of_le (early : index ≤ pending) :
    FollowsJoint text index ↔ index ≠ 0 ∧ isWordStart first = true := by
  cases index with
  | zero => simp [FollowsJoint]
  | succ before =>
      rw [FollowsJoint, inJoint_of_le solid shape (Nat.le_of_succ_le early)]
      simp [Nat.ne_of_lt early]

/-- Low lines before a character are left out if it starts a word. -/
theorem joined?_of_lt (early : index < pending) :
    joined? text index = if isWordStart first then none else some '_' := by
  have line : text[index]? = some '_' := by
    rw [shape, List.getElem?_append_left (by simpa using early)]
    simp [early]
  simp only [joined?, inJoint_of_le solid shape early.le, followsJoint_of_le solid shape early.le,
    line]
  cases isWordStart first <;> simp [early.ne]

/-- A character that starts a word after low lines becomes its capital. -/
theorem joined?_solid :
    joined? text pending =
      some (if pending ≠ 0 ∧ isWordStart first = true then first.toUpper else first) := by
  have here : text[pending]? = some first := by simp [shape]
  simp only [joined?, inJoint_of_le solid shape le_rfl, followsJoint_of_le solid shape le_rfl,
    here, ne_eq, not_true_eq_false, false_and, if_false, Option.map_some, apply_ite some]

theorem followsJoint_add : FollowsJoint text (pending + 1 + index) ↔ FollowsJoint rest index := by
  cases index with
  | zero => simp [FollowsJoint, inJoint_of_le solid shape le_rfl]
  | succ before => exact inJoint_add shape

/-- Behind a character that is no low line a text is read as if it began there. -/
theorem joined?_add : joined? text (pending + 1 + index) = joined? rest index := by
  have here : text[pending + 1 + index]? = rest[index]? := by
    rw [shape, Nat.add_assoc, List.getElem?_append_right (by simp)]
    simp [Nat.add_comm 1]
  simp only [joined?, inJoint_add shape, followsJoint_add solid shape, here]

/-- Low lines and the character after them are joined, and then the rest of the text is. -/
theorem joined_eq :
    joined text =
      if pending ≠ 0 ∧ isWordStart first = true then first.toUpper :: joined rest
      else List.replicate pending '_' ++ first :: joined rest := by
  have length : text.length = pending + 1 + rest.length := by
    simp [shape]
    omega
  have behind : (List.range rest.length).filterMap (joined? text ∘ (pending + 1 + ·)) =
      joined rest :=
    List.filterMap_congr fun index _ => joined?_add solid shape
  have before : (List.range pending).filterMap (joined? text) =
      if isWordStart first then [] else List.replicate pending '_' := by
    rw [List.filterMap_congr fun index early =>
      joined?_of_lt solid shape (List.mem_range.mp early)]
    cases isWordStart first <;> simp
  rw [joined, length, List.range_add, List.range_succ, List.filterMap_append,
    List.filterMap_append, List.filterMap_map, behind, before, List.filterMap_cons,
    joined?_solid solid shape]
  by_cases lines : pending = 0
  · simp [lines]
  · cases isWordStart first <;> simp [lines]

end Solid

/-! ## Texts without joints -/

theorem FollowsJoint.hasJoint
    {text : List Char}
    {index : Nat}
    (follows : FollowsJoint text index) :
    HasJoint text := by
  cases index with
  | zero => exact follows.elim
  | succ before => exact ⟨before, follows⟩

/-- A joint is inside the text. -/
theorem InJoint.lt_length
    {text : List Char}
    {index : Nat}
    (joint : InJoint text index) :
    index < text.length := by
  obtain ⟨count, first, rest, shape, -⟩ := joint
  by_contra outside
  rw [List.drop_of_length_le (Nat.le_of_not_lt outside)] at shape
  simp at shape

/-- The characters at all indices make up the text. -/
theorem filterMap_getElem?_range (text : List Char) :
    (List.range text.length).filterMap (text[·]?) = text := by
  have read : (List.range text.length).map (text[·]?) = text.map some :=
    List.ext_getElem (by simp) (by simp)
  have found := congrArg (List.filterMap id) read
  rwa [List.filterMap_map, List.filterMap_map, Function.id_comp, Function.id_comp,
    List.filterMap_some] at found

/-- A text stays as it is exactly if it has no joints: each of their low lines would make it
shorter. -/
theorem joined_eq_self_iff {text : List Char} : joined text = text ↔ ¬ HasJoint text := by
  constructor
  · rintro same ⟨index, joint⟩
    have inside : index ∈ List.range text.length := List.mem_range.mpr joint.lt_length
    have shorter : (joined text).length < (List.range text.length).length :=
      List.length_filterMap_lt_length_iff_exists.mpr ⟨index, inside, if_pos joint⟩
    rw [same, List.length_range] at shorter
    exact lt_irrefl _ shorter
  · intro free
    have stays : ∀ index ∈ List.range text.length, joined? text index = text[index]? := by
      intro index _
      rw [joined?, if_neg fun joint => free ⟨index, joint⟩,
        if_neg fun follows => free (FollowsJoint.hasJoint follows)]
    rw [joined, List.filterMap_congr stays, filterMap_getElem?_range]

/-- Low lines alone have no joints. -/
theorem not_hasJoint_replicate (count : Nat) : ¬ HasJoint (List.replicate count '_') := by
  rintro ⟨index, joint⟩
  rw [InJoint, List.drop_replicate] at joint
  exact not_beginsWithJoint_replicate _ joint

/-- Lower case moves the letters of upper case, by their numbers. -/
theorem toNat_toLower (character : Char) :
    character.toLower.toNat =
      if 65 ≤ character.toNat ∧ character.toNat ≤ 90 then character.toNat + 32
      else character.toNat := by
  have bounds : (character.val ≥ 'A'.val ∧ character.val ≤ 'Z'.val) ↔
      65 ≤ character.toNat ∧ character.toNat ≤ 90 := by
    simp [UInt32.le_iff_toNat_le]
  unfold Char.toLower
  simp only [bounds]
  split
  · rw [← Char.toNat_val, UInt32.toNat_add, Char.toNat_val]
    simp
    omega
  · rfl

/-- Upper case moves the letters of lower case, by their numbers. -/
theorem toNat_toUpper (character : Char) :
    character.toUpper.toNat =
      if 97 ≤ character.toNat ∧ character.toNat ≤ 122 then character.toNat - 32
      else character.toNat := by
  have bounds : (character.val ≥ 'a'.val ∧ character.val ≤ 'z'.val) ↔
      97 ≤ character.toNat ∧ character.toNat ≤ 122 := by
    simp [UInt32.le_iff_toNat_le]
  unfold Char.toUpper
  simp only [bounds]
  split
  · rw [← Char.toNat_val, UInt32.toNat_add, Char.toNat_val]
    simp
    omega
  · rfl

theorem toLower_toUpper (character : Char) :
    character.toUpper.toLower = character.toLower := by
  apply Char.toNat_inj.mp
  rw [toNat_toLower, toNat_toLower, toNat_toUpper]
  grind

/-- Joining words leaves out the low lines of joints and changes nothing else but case. -/
theorem map_toLower_joined (text : List Char) :
    (joined text).map Char.toLower = (withoutJoints text).map Char.toLower := by
  rw [joined, withoutJoints, List.map_filterMap, List.map_filterMap]
  apply List.filterMap_congr
  intro index _
  rw [joined?]
  split
  · rfl
  · split
    · rw [Option.map_map]
      exact congrArg (Option.map · text[index]?) (funext toLower_toUpper)
    · rfl

/-! ## Names on the wire -/

/-- Joining words agrees with what becomes of each character. The low lines that were read
before count as the beginning of the text. -/
theorem joinWords_eq_joined
    (pending : Nat)
    (text : List Char) :
    joinWords pending text = joined (List.replicate pending '_' ++ text) := by
  induction text generalizing pending with
  | nil => rw [List.append_nil, joined_eq_self_iff.mpr (not_hasJoint_replicate pending), joinWords]
  | cons first rest hypothesis =>
      by_cases line : first = '_'
      · rw [joinWords, if_pos (by simpa using line), hypothesis, line, List.replicate_succ',
          List.append_assoc, List.singleton_append]
      · rw [joined_eq line rfl, joinWords, if_neg (by simpa using line), hypothesis 0]
        simp

/-- The first character of a name stays, and the words of the rest are joined. -/
theorem toList_camelize (name : String) :
    (camelize name).toList = name.toList.head?.toList ++ joined name.toList.tail := by
  rw [camelize, String.toList_ofList]
  cases name.toList with
  | nil => rfl
  | cons first rest => exact congrArg (first :: ·) (joinWords_eq_joined 0 rest)

theorem head?_toList_camelize (name : String) :
    (camelize name).toList.head? = name.toList.head? := by
  rw [toList_camelize]
  cases name.toList <;> rfl

theorem tail_toList_camelize (name : String) :
    (camelize name).toList.tail = joined name.toList.tail := by
  rw [toList_camelize]
  cases name.toList <;> rfl

theorem camelize_eq_self_iff (name : String) :
    camelize name = name ↔ ¬ HasJoint name.toList.tail := by
  rw [← joined_eq_self_iff, ← String.toList_inj, toList_camelize]
  cases name.toList <;> simp [joined]

/-- Joining the words of a name makes it normal in one step: doing it twice is doing it once,
the first character stays and no joint is left behind it, and the name stays the same exactly
if it had no joint there. But for the case of ASCII letters the result is the name without the
low lines of its joints; in detail, the character after a joint becomes its capital and every
other one stays as it is. -/
theorem camelize_normalizes (name : String) :
    camelize (camelize name) = camelize name ∧
      (camelize name).toList.head? = name.toList.head? ∧
      ¬ HasJoint (camelize name).toList.tail ∧
      (camelize name = name ↔ ¬ HasJoint name.toList.tail) ∧
      (camelize name).toList.tail.map Char.toLower =
        (withoutJoints name.toList.tail).map Char.toLower ∧
      (camelize name).toList.tail = joined name.toList.tail := by
  have settled := camelize_camelize name
  refine ⟨settled, head?_toList_camelize name, ?_, camelize_eq_self_iff name, ?_,
    tail_toList_camelize name⟩
  · exact (camelize_eq_self_iff _).mp settled
  · rw [tail_toList_camelize, map_toLower_joined]

example : camelize "_first__name_2_B_" = "_firstName2_B_" := by decide

end DataContract
