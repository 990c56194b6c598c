import DataContract.Schema.KeyStyle

/-!
# Joined words

Joining the words of a name leaves nothing to join: low lines are left only where no word
begins after them. A name on the wire is therefore its own name on the wire.
-/

namespace DataContract

/-- Low lines that are read are pending. -/
theorem joinWords_replicate
    (pending more : Nat)
    (rest : List Char) :
    joinWords pending (List.replicate more '_' ++ rest) = joinWords (pending + more) rest := by
  induction more generalizing pending with
  | zero => rfl
  | succ more hypothesis =>
      rw [List.replicate_succ, List.cons_append, joinWords, if_pos (by rfl), hypothesis,
        Nat.add_right_comm, Nat.add_assoc]

/-- A character that starts no word after low lines leaves them where they are. -/
theorem joinWords_cons
    {pending : Nat}
    {first : Char}
    (solid : first ≠ '_')
    (stays : pending = 0 ∨ isWordStart first = false)
    (rest : List Char) :
    joinWords pending (first :: rest) =
      List.replicate pending '_' ++ first :: joinWords 0 rest := by
  have unchanged : (pending != 0 && isWordStart first) = false := by
    rcases stays with rfl | plain
    · rfl
    · rw [plain, Bool.and_false]
  simp [joinWords, solid, unchanged]

/-- Capitals are no low lines. -/
theorem toUpper_ne_lowLine
    {character : Char}
    (solid : character ≠ '_') :
    character.toUpper ≠ '_' := by
  unfold Char.toUpper
  split
  · rename_i small
    intro same
    rw [Char.ext_iff, ← UInt32.toNat_inj, UInt32.toNat_add] at same
    have least : 97 ≤ character.val.toNat := UInt32.le_iff_toNat_le.mp small.1
    have greatest : character.val.toNat ≤ 122 := UInt32.le_iff_toNat_le.mp small.2
    have shift : ('A'.val - 'a'.val).toNat = 4294967264 := by decide
    have line : '_'.val.toNat = 95 := by decide
    omega
  · exact solid

/-- Joined words stay as they are. -/
theorem joinWords_joinWords
    (pending : Nat)
    (name : List Char) :
    joinWords 0 (joinWords pending name) = joinWords pending name := by
  induction name generalizing pending with
  | nil =>
      have read := joinWords_replicate 0 pending []
      rwa [List.append_nil, Nat.zero_add] at read
  | cons first rest hypothesis =>
      by_cases line : first = '_'
      · have read : joinWords pending (first :: rest) = joinWords (pending + 1) rest := by
          simp [joinWords, line]
        rw [read, hypothesis]
      · by_cases starts : (pending != 0 && isWordStart first) = true
        · have read : joinWords pending (first :: rest) = first.toUpper :: joinWords 0 rest := by
            simp [joinWords, line, starts]
          rw [read, joinWords_cons (toUpper_ne_lowLine line) (.inl rfl), hypothesis]
          rfl
        · have stays : pending = 0 ∨ isWordStart first = false := by
            cases word : isWordStart first with
            | false => exact .inr rfl
            | true => exact .inl (by simpa [word] using starts)
          rw [joinWords_cons line stays, joinWords_replicate, Nat.zero_add,
            joinWords_cons line stays, hypothesis]

/-- Joining the words of a name twice is joining them once. -/
theorem camelize_camelize (name : String) : camelize (camelize name) = camelize name := by
  unfold camelize
  rw [String.toList_ofList]
  cases name.toList with
  | nil => rfl
  | cons first rest => simp [camelizeChars, joinWords_joinWords]

/-- A name without low lines has nothing to join. -/
theorem joinWords_eq_self
    {name : List Char}
    (solid : ∀ character ∈ name, character ≠ '_') :
    joinWords 0 name = name := by
  induction name with
  | nil => rfl
  | cons first rest hypothesis =>
      rw [List.forall_mem_cons] at solid
      rw [joinWords_cons solid.1 (.inl rfl), hypothesis solid.2]
      rfl

theorem camelize_eq_self
    {name : String}
    (solid : ∀ character ∈ name.toList, character ≠ '_') :
    camelize name = name := by
  unfold camelize
  have unchanged : camelizeChars name.toList = name.toList := by
    cases chars : name.toList with
    | nil => rfl
    | cons first rest =>
        rw [chars, List.forall_mem_cons] at solid
        rw [camelizeChars, joinWords_eq_self solid.2]
  rw [unchanged, String.ofList_toList]

end DataContract
