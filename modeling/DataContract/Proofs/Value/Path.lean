import DataContract.Proofs.Attempt
import DataContract.Schema.Validate

/-!
# Paths into values

A path is followed into a value step by step, by keys of maps and by indices of
sequences. The parts that validation looks at are those that such steps lead to.
-/

namespace DataContract
namespace Value

/-- The part of a value that a path leads to. -/
def follow : Value → Path → Attempt Value
  | value, [] => .ok value
  | value, step :: rest => do (← value.pick step).follow rest

@[simp] theorem follow_nil (value : Value) : value.follow [] = .ok value := rfl

theorem follow_singleton
    {value part : Value}
    {step : Value}
    (picked : value.pick step = .ok part) :
    value.follow [step] = .ok part := by
  simp [follow, picked]

/-- A path in two parts is followed one part after the other. -/
theorem follow_append
    (value : Value)
    (front back : Path) :
    value.follow (front ++ back) = (do (← value.follow front).follow back) := by
  induction front generalizing value with
  | nil => rfl
  | cons step rest hypothesis => simp only [List.cons_append, follow, hypothesis, bind_assoc]

theorem follow_append_of_follow
    {value part : Value}
    {front : Path}
    (reached : value.follow front = .ok part)
    (back : Path) :
    value.follow (front ++ back) = part.follow back := by
  rw [follow_append, reached, Attempt.ok_bind]

/-- An entry that is found is the part under its key. -/
theorem pick_eq_of_entry?
    {data key part : Value}
    (found : data.entry? key = .ok (some part)) :
    data.pick key = .ok part := by
  obtain ⟨inside, -, looked⟩ := Attempt.bind_eq_ok.mp found
  cases inside with
  | false => simp at looked
  | true =>
      obtain ⟨picked, reached, same⟩ := Attempt.map_eq_ok.mp looked
      rwa [Option.some.inj same] at reached

/-- An entry of a map is absent if the map has none for the key. -/
theorem has_eq_false_of_entry?
    {entries : Entries}
    {key : Value}
    (absent : Value.entry? (map entries) key = .ok none) :
    entries.has key = false := by
  obtain ⟨inside, contained, looked⟩ := Attempt.bind_eq_ok.mp absent
  cases inside with
  | true =>
      obtain ⟨picked, -, same⟩ := Attempt.map_eq_ok.mp looked
      simp at same
  | false =>
      change (if key.isKey = true then _ else _) = _ at contained
      split at contained
      · exact Except.ok.inj contained
      · simp at contained

/-- The item at an index of a sequence is the part at that index. -/
theorem pick_index
    {value item : Value}
    {items : List Value}
    {index : Nat}
    (sequence : Tag.list.admits value = true)
    (parts : value.items? = some items)
    (found : items[index]? = some item) :
    value.pick (.int index) = .ok item := by
  have reached : itemAt items index = .ok item := by
    simp [itemAt, show ¬ (index : Int) < 0 by omega, found]
  cases value with
  | list inner =>
      obtain rfl := Option.some.inj parts
      exact reached
  | tuple inner =>
      obtain rfl := Option.some.inj parts
      exact reached
  | scalar content => simp [Tag.admits] at sequence
  | member enumeration name content => simp [Tag.admits] at sequence
  | map entries => simp [Tag.admits] at sequence
  | record form inner => simp [Tag.admits] at sequence
  | handle label => simp [Tag.admits] at sequence

/-- What the tag of maps admits is a map. -/
theorem exists_map_of_admits
    {value : Value}
    (admitted : Tag.map.admits value = true) :
    ∃ entries, value = .map entries := by
  cases value with
  | map entries => exact ⟨entries, rfl⟩
  | _ => simp [Tag.admits] at admitted

end Value
end DataContract
