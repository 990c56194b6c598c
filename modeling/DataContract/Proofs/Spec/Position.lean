import DataContract.Proofs.Spec.Compilation

/-!
# Positions of specifications

A specification has specifications inside it where a definition, an alternative, a member, a
side of a cast or the value of a key stands. What is compiled in these places decides what is
compiled from the whole; predicates, options and the names of keys are only read. This module
gives the forms that a specification can have, and the induction over the positions.
-/

namespace DataContract

/-- Whether a specification is a map of keys, alone or with predicates: the keys of such a
map continue the path of the key that it is given for. -/
def Spec.isKeyed : Spec → Bool
  | .map _ => true
  | .tuple (.text "map" :: .map _ :: _) => true
  | _ => false

namespace Compiler

/-- The value of a key is compiled as any specification, but a map of keys continues the path
of the key. -/
theorem compileEntry_eq
    (compiler : Compiler)
    (types : List (String × Spec))
    (scope : Scope)
    (path : Path)
    (spec : Spec) :
    compileEntry compiler types scope path spec = (do
      let type ← compileSpec compiler types scope (if spec.isKeyed then path else []) spec
      .ok (type, spec.isKeyed)) := by
  unfold compileEntry
  split
  · rw [Spec.isKeyed, if_pos rfl, compileSpec_keys]
  · rw [Spec.isKeyed, if_pos rfl, compileSpec_map]
  · rename_i plain formed
    have unlike : spec.isKeyed = false := by
      unfold Spec.isKeyed
      split
      · exact absurd rfl (plain _)
      · exact absurd rfl (formed _ _)
      · rfl
    rw [unlike, if_neg Bool.false_ne_true]

/-- Whether the parts behind the name of a form are those that the form must have, and maybe
more. -/
inductive IsForm : String → List Spec → Prop
  | type (name : Spec) (rest : List Spec) : IsForm "type" (name :: rest)
  | list (member : Spec) (rest : List Spec) : IsForm "list" (member :: rest)
  | map (entries : List (Value × Spec)) (rest : List Spec) : IsForm "map" (.map entries :: rest)
  | union (left right : Spec) (rest : List Spec) : IsForm "union" (left :: right :: rest)
  | cast (input output : Spec) (rest : List Spec) : IsForm "cast" (input :: output :: rest)

/-- Whether a specification is refused wherever it stands, because it has none of the forms or
not all the parts of its form. The message can be written if the specification can. -/
def IsMisshapen (spec : Spec) : Prop :=
  ∃ cause : DefinitionFault,
    (spec.toValue.isWritable = true → ∀ value ∈ cause.values, value.isWritable = true) ∧
    ∀ compiler types scope root, compileSpec compiler types scope root spec = refuse cause

theorem isMisshapen_of_shown
    {spec : Spec}
    (cause : DefinitionFault)
    (shown : cause.values = [spec.toValue])
    (refused : ∀ compiler types scope root,
      compileSpec compiler types scope root spec = refuse cause) :
    IsMisshapen spec :=
  ⟨cause, by simp [shown], refused⟩

theorem isMisshapen_of_malformed
    {spec : Spec}
    (malformed : ∀ compiler types scope root,
      compileSpec compiler types scope root spec = refuse (.malformedSpec spec.toValue)) :
    IsMisshapen spec :=
  isMisshapen_of_shown (.malformedSpec spec.toValue) rfl malformed

/-- A form without the parts that it must have is misshapen. -/
theorem isMisshapen_of_incomplete
    {tag : String}
    {parts : List Spec}
    (incomplete : ∀ compiler types scope root,
      compileSpec compiler types scope root (.tuple (.text tag :: parts)) =
        refuse (.incompleteSpec tag (Spec.tuple (.text tag :: parts)).toValue)) :
    IsMisshapen (.tuple (.text tag :: parts)) :=
  isMisshapen_of_shown (.incompleteSpec tag (Spec.tuple (.text tag :: parts)).toValue) rfl
    incomplete

/-- A tuple that does not start with a text is misshapen. -/
theorem isMisshapen_tuple
    {items : List Spec}
    (unnamed : ∀ tag parts, items ≠ .text tag :: parts) :
    IsMisshapen (.tuple items) := by
  refine isMisshapen_of_malformed fun _ _ _ _ => ?_
  rw [compileSpec]
  all_goals simp [unnamed]

/-- A map is misshapen if its keys are not listed in a map. -/
theorem isMisshapen_map
    {keys : Spec}
    {rest : List Spec}
    (unmapped : ∀ entries, keys ≠ .map entries) :
    IsMisshapen (.tuple (.text "map" :: keys :: rest)) := by
  refine ⟨.keysNotMapped keys.toValue, ?_, fun _ _ _ _ => ?_⟩
  · simp only [Spec.toValue, Spec.toValues, Value.isWritable, Value.areWritable,
      Bool.and_eq_true, DefinitionFault.values, List.forall_mem_singleton]
    exact fun writable => writable.2.1
  · cases keys with
    | map entries => exact absurd rfl (unmapped entries)
    | _ =>
        rw [compileSpec]
        rfl

/-- A tuple that starts with a text has a form, or is misshapen. -/
theorem isForm_or_isMisshapen
    (tag : String)
    (parts : List Spec) :
    IsForm tag parts ∨ IsMisshapen (.tuple (.text tag :: parts)) := by
  by_cases typed : tag = "type"
  · subst typed
    cases parts with
    | cons name rest => exact .inl (.type name rest)
    | nil =>
        refine .inr (isMisshapen_of_incomplete fun _ _ _ _ => ?_)
        rw [compileSpec]
        rfl
  by_cases listed : tag = "list"
  · subst listed
    cases parts with
    | cons member rest => exact .inl (.list member rest)
    | nil =>
        refine .inr (isMisshapen_of_incomplete fun _ _ _ _ => ?_)
        rw [compileSpec]
        rfl
  by_cases mapped : tag = "map"
  · subst mapped
    cases parts with
    | nil =>
        refine .inr (isMisshapen_of_incomplete fun _ _ _ _ => ?_)
        rw [compileSpec]
        rfl
    | cons keys rest =>
        by_cases shape : ∃ entries, keys = .map entries
        · obtain ⟨entries, rfl⟩ := shape
          exact .inl (.map entries rest)
        · exact .inr (isMisshapen_map fun entries same => shape ⟨entries, same⟩)
  by_cases joined : tag = "union"
  · subst joined
    cases parts with
    | nil =>
        refine .inr (isMisshapen_of_incomplete fun _ _ _ _ => ?_)
        rw [compileSpec]
        rfl
    | cons left others =>
        cases others with
        | cons right rest => exact .inl (.union left right rest)
        | nil =>
            refine .inr (isMisshapen_of_incomplete fun _ _ _ _ => ?_)
            rw [compileSpec]
            rfl
  by_cases converted : tag = "cast"
  · subst converted
    cases parts with
    | nil =>
        refine .inr (isMisshapen_of_incomplete fun _ _ _ _ => ?_)
        rw [compileSpec]
        rfl
    | cons input others =>
        cases others with
        | cons output rest => exact .inl (.cast input output rest)
        | nil =>
            refine .inr (isMisshapen_of_incomplete fun _ _ _ _ => ?_)
            rw [compileSpec]
            rfl
  · refine .inr (isMisshapen_of_malformed fun _ _ _ _ => ?_)
    unfold compileSpec
    simp [typed, listed, mapped, joined, converted]

end Compiler

/-- Whether a specification has another at one of its positions, at any depth. It stands at the
outermost position itself. -/
inductive Spec.HasPosition : Spec → Spec → Prop
  | self (spec : Spec) : HasPosition spec spec
  | definition
      (name : String)
      (inner part : Spec)
      (options : CompileOptions)
      (inside : HasPosition inner part) :
      HasPosition (.definition name inner options) part
  | alternative
      (specs : List Spec)
      (spec part : Spec)
      (member : spec ∈ specs)
      (inside : HasPosition spec part) :
      HasPosition (.list specs) part
  | entry
      (entries : List (Value × Spec))
      (entry : Value × Spec)
      (part : Spec)
      (member : entry ∈ entries)
      (inside : HasPosition entry.2 part) :
      HasPosition (.map entries) part
  | key
      (entries : List (Value × Spec))
      (entry : Value × Spec)
      (part : Spec)
      (rest : List Spec)
      (member : entry ∈ entries)
      (inside : HasPosition entry.2 part) :
      HasPosition (.tuple (.text "map" :: .map entries :: rest)) part
  | member
      (spec part : Spec)
      (rest : List Spec)
      (inside : HasPosition spec part) :
      HasPosition (.tuple (.text "list" :: spec :: rest)) part
  | left
      (left right part : Spec)
      (rest : List Spec)
      (inside : HasPosition left part) :
      HasPosition (.tuple (.text "union" :: left :: right :: rest)) part
  | right
      (left right part : Spec)
      (rest : List Spec)
      (inside : HasPosition right part) :
      HasPosition (.tuple (.text "union" :: left :: right :: rest)) part
  | input
      (input output part : Spec)
      (rest : List Spec)
      (inside : HasPosition input part) :
      HasPosition (.tuple (.text "cast" :: input :: output :: rest)) part
  | output
      (input output part : Spec)
      (rest : List Spec)
      (inside : HasPosition output part) :
      HasPosition (.tuple (.text "cast" :: input :: output :: rest)) part

/-- Nothing has a position in a type but the type. -/
theorem Spec.hasPosition_type
    {parts : List Spec}
    {part : Spec} :
    (Spec.tuple (.text "type" :: parts)).HasPosition part ↔
      part = .tuple (.text "type" :: parts) := by
  constructor
  · generalize whole : Spec.tuple (.text "type" :: parts) = spec
    intro inside
    cases inside with
    | self => rfl
    | _ => simp at whole
  · rintro rfl
    exact .self _

/-- What has a position in a list is the list, or has one in the member. -/
theorem Spec.hasPosition_list
    {member part : Spec}
    {rest : List Spec} :
    (Spec.tuple (.text "list" :: member :: rest)).HasPosition part ↔
      part = .tuple (.text "list" :: member :: rest) ∨ member.HasPosition part := by
  constructor
  · generalize whole : Spec.tuple (.text "list" :: member :: rest) = spec
    intro inside
    cases inside with
    | self => exact .inl rfl
    | member _ _ _ inside =>
        simp only [Spec.tuple.injEq, List.cons.injEq] at whole
        rw [whole.2.1]
        exact .inr inside
    | _ => simp at whole
  · rintro (rfl | inside)
    · exact .self _
    · exact .member member part rest inside

/-- What has a position in a map with predicates is the map, or has one in a value. -/
theorem Spec.hasPosition_map
    {entries : List (Value × Spec)}
    {part : Spec}
    {rest : List Spec} :
    (Spec.tuple (.text "map" :: .map entries :: rest)).HasPosition part ↔
      part = .tuple (.text "map" :: .map entries :: rest) ∨
        ∃ entry ∈ entries, entry.2.HasPosition part := by
  constructor
  · generalize whole : Spec.tuple (.text "map" :: .map entries :: rest) = spec
    intro inside
    cases inside with
    | self => exact .inl rfl
    | key _ entry _ _ member inside =>
        simp only [Spec.tuple.injEq, List.cons.injEq, Spec.map.injEq] at whole
        rw [whole.2.1]
        exact .inr ⟨entry, member, inside⟩
    | _ => simp at whole
  · rintro (rfl | ⟨entry, member, inside⟩)
    · exact .self _
    · exact .key entries entry part rest member inside

/-- What has a position in a cast is the cast, or has one in a side. -/
theorem Spec.hasPosition_cast
    {input output part : Spec}
    {rest : List Spec} :
    (Spec.tuple (.text "cast" :: input :: output :: rest)).HasPosition part ↔
      part = .tuple (.text "cast" :: input :: output :: rest) ∨
        input.HasPosition part ∨ output.HasPosition part := by
  constructor
  · generalize whole : Spec.tuple (.text "cast" :: input :: output :: rest) = spec
    intro inside
    cases inside with
    | self => exact .inl rfl
    | input _ _ _ _ inside =>
        simp only [Spec.tuple.injEq, List.cons.injEq] at whole
        rw [whole.2.1]
        exact .inr (.inl inside)
    | output _ _ _ _ inside =>
        simp only [Spec.tuple.injEq, List.cons.injEq] at whole
        rw [whole.2.2.1]
        exact .inr (.inr inside)
    | _ => simp at whole
  · rintro (rfl | inside | inside)
    · exact .self _
    · exact .input input output part rest inside
    · exact .output input output part rest inside

/-- The values of entries are smaller than the entries. -/
theorem sizeOf_snd_lt
    {entries : List (Value × Spec)}
    {entry : Value × Spec}
    (member : entry ∈ entries) :
    sizeOf entry.2 < sizeOf entries := by
  have less := List.sizeOf_lt_of_mem member
  cases entry
  simp at less ⊢
  omega

/-- What passes to a specification from the specifications in its positions holds of all
specifications. -/
@[elab_as_elim] theorem Spec.induct
    {motive : Spec → Prop}
    (definition : ∀ name inner options, motive inner → motive (.definition name inner options))
    (compiled : ∀ type, motive (.compiled type))
    (text : ∀ name, motive (.text name))
    (keys : ∀ entries : List (Value × Spec), (∀ entry ∈ entries, motive entry.2) →
      motive (.map entries))
    (alternatives : ∀ first second rest, (∀ spec ∈ first :: second :: rest, motive spec) →
      motive (.list (first :: second :: rest)))
    (type : ∀ name rest, motive (.tuple (.text "type" :: name :: rest)))
    (list : ∀ member rest, motive member → motive (.tuple (.text "list" :: member :: rest)))
    (map : ∀ (entries : List (Value × Spec)) rest, (∀ entry ∈ entries, motive entry.2) →
      motive (.tuple (.text "map" :: .map entries :: rest)))
    (union : ∀ left right rest, motive left → motive right →
      motive (.tuple (.text "union" :: left :: right :: rest)))
    (cast : ∀ input output rest, motive input → motive output →
      motive (.tuple (.text "cast" :: input :: output :: rest)))
    (misshapen : ∀ spec, Compiler.IsMisshapen spec → motive spec)
    (spec : Spec) : motive spec := by
  induction size : sizeOf spec using Nat.strongRecOn generalizing spec with
  | ind bound hypothesis =>
      subst size
      have smaller (other : Spec) (less : sizeOf other < sizeOf spec) : motive other :=
        hypothesis _ less other rfl
      cases spec with
      | definition name inner options =>
          exact definition name inner options (smaller inner (by simp; omega))
      | compiled type => exact compiled type
      | scalar content =>
          cases content with
          | text name => exact text name
          | _ =>
              refine misshapen _ (Compiler.isMisshapen_of_malformed fun _ _ _ _ => ?_)
              rw [Compiler.compileSpec]
              all_goals simp
      | map entries =>
          refine keys entries fun entry member => smaller entry.2 ?_
          have less := sizeOf_snd_lt member
          simp
          omega
      | list specs =>
          cases specs with
          | nil =>
              refine misshapen _ (Compiler.isMisshapen_of_shown (.tooFewAlternatives (.list [])) rfl
                fun _ _ _ _ => ?_)
              rw [Compiler.compileSpec]
              rfl
          | cons first others =>
              cases others with
              | nil =>
                  refine misshapen _ (Compiler.isMisshapen_of_shown
                    (.tooFewAlternatives (.list [first.toValue])) rfl fun _ _ _ _ => ?_)
                  rw [Compiler.compileSpec]
                  rfl
              | cons second rest =>
                  refine alternatives first second rest fun spec member => smaller spec ?_
                  have less := List.sizeOf_lt_of_mem member
                  simp at less ⊢
                  omega
      | tuple items =>
          by_cases named : ∃ tag parts, items = .text tag :: parts
          · obtain ⟨tag, parts, rfl⟩ := named
            rcases Compiler.isForm_or_isMisshapen tag parts with form | refused
            · cases form with
              | type name rest => exact type name rest
              | list member rest => exact list member rest (smaller member (by simp; omega))
              | map entries rest =>
                  refine map entries rest fun entry member => smaller entry.2 ?_
                  have less := sizeOf_snd_lt member
                  simp
                  omega
              | union left right rest =>
                  exact union left right rest (smaller left (by simp; omega))
                    (smaller right (by simp; omega))
              | cast input output rest =>
                  exact cast input output rest (smaller input (by simp; omega))
                    (smaller output (by simp; omega))
            · exact misshapen _ refused
          · refine misshapen _ (Compiler.isMisshapen_tuple fun tag parts same => ?_)
            exact named ⟨tag, parts, same⟩
      | _ =>
          refine misshapen _ (Compiler.isMisshapen_of_malformed fun _ _ _ _ => ?_)
          rw [Compiler.compileSpec]
          all_goals simp

end DataContract
