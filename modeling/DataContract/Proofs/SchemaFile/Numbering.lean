import DataContract.Proofs.SchemaFile.Structure
import DataContract.Proofs.Value.Name

/-!
# Numbers for keys

The names of keys matter to a compilation only where two entries of one map declare the same name.
With a number of its own for each key instead of a name, no entry is in the way of another, and all
the rest is compiled as it was. So a loaded specification is compiled exactly if it is with numbers
for its keys and no map inside it declares a name twice.
-/

namespace DataContract

namespace Spec

mutual

/-- A specification of a form that is loaded, with numbers in place of the keys of its maps. -/
def numbered : Spec → Spec
  | .map entries => .map (numberedEntries 0 entries)
  | .list specs => .list (numberedAll specs)
  | .tuple (.text "map" :: .map entries :: rest) =>
      .tuple (.text "map" :: .map (numberedEntries 0 entries) :: rest)
  | .tuple (.text "list" :: inner :: rest) => .tuple (.text "list" :: inner.numbered :: rest)
  | .tuple (.text "cast" :: input :: output :: rest) =>
      .tuple (.text "cast" :: input.numbered :: output.numbered :: rest)
  | spec => spec

/-- Several specifications with numbers in place of keys. -/
def numberedAll : List Spec → List Spec
  | [] => []
  | spec :: rest => spec.numbered :: numberedAll rest

/-- Entries with numbers in place of keys, from an index on. -/
def numberedEntries (index : Nat) : List (Value × Spec) → List (Value × Spec)
  | [] => []
  | (_, spec) :: rest => (.int index, spec.numbered) :: numberedEntries (index + 1) rest

end

end Spec

/-- No name is declared twice if the name of no entry is that of an earlier one. -/
theorem not_declaresTwice_iff
    {entries : List (Value × Spec)} :
    ¬ DeclaresTwice entries ↔ entries.Pairwise fun earlier later =>
      (Compiler.declaredKey later.1).2.sameKey (Compiler.declaredKey earlier.1).2 = false := by
  rw [List.pairwise_iff_forall_sublist]
  constructor
  · intro once earlier later inside
    rw [Bool.eq_false_iff]
    intro same
    exact once ⟨earlier, later, _, _, _, _, inside, Compiler.declares_iff.mpr rfl,
      Compiler.declares_iff.mpr rfl, same⟩
  · rintro apart ⟨earlier, later, _, _, name, other, inside, first, second, same⟩
    have differs := apart inside
    rw [Compiler.declares_iff.mp first, Compiler.declares_iff.mp second, same] at differs
    cases differs

namespace Compiler

/-- Whether two specifications are compiled to schemas with the same tag or both refused, wherever
each of them stands. -/
def CompileTogether
    (compiler : Compiler)
    (types : List (String × Spec))
    (scope : Scope)
    (spec other : Spec) : Prop :=
  ∀ root otherRoot, Attempt.Agree (fun made otherMade : Schema => made.tag = otherMade.tag)
    (compileSpec compiler types scope root spec)
    (compileSpec compiler types scope otherRoot other)

section Together

variable
  {compiler : Compiler}
  {types : List (String × Spec)}
  {scope : Scope}

/-- What is not compiled anywhere by the names of the keys around it is compiled as itself. -/
theorem CompileTogether.of_eq
    {spec : Spec}
    (rootless : ∀ root otherRoot, compileSpec compiler types scope root spec =
      compileSpec compiler types scope otherRoot spec) :
    CompileTogether compiler types scope spec spec :=
  fun root otherRoot => .of_eq (fun _ => rfl) (rootless root otherRoot)

/-- Where the names of entries are new, the entries are compiled exactly if they are under
numbers that are new. -/
theorem compileKeys_agree_numberedEntries
    {entries : List (Value × Spec)}
    {seen otherSeen : List Value}
    {index : Nat}
    (each : ∀ entry ∈ entries, CompileTogether compiler types scope entry.2 entry.2.numbered)
    (apart : entries.Pairwise fun earlier later =>
      (declaredKey later.1).2.sameKey (declaredKey earlier.1).2 = false)
    (fresh : ∀ entry ∈ entries, ∀ earlier ∈ seen,
      (declaredKey entry.1).2.sameKey earlier = false)
    (numbers : ∀ earlier ∈ otherSeen, ∃ number < index, earlier = .int number)
    (root otherRoot : Path) :
    Attempt.Agree (fun _ _ => True)
      (compileKeys compiler types scope root seen entries)
      (compileKeys compiler types scope otherRoot otherSeen
        (Spec.numberedEntries index entries)) := by
  induction entries generalizing seen otherSeen index with
  | nil =>
      rw [Spec.numberedEntries, compileKeys, compileKeys]
      exact .ok trivial
  | cons entry rest hypothesis =>
      obtain ⟨key, spec⟩ := entry
      rw [List.forall_mem_cons] at each fresh
      rw [List.pairwise_cons] at apart
      have unseen : seen.any ((declaredKey key).2.sameKey ·) = false := by
        simpa using fresh.1
      have unused : otherSeen.any ((Value.int index).sameKey ·) = false := by
        rw [List.any_eq_false]
        intro earlier member same
        obtain ⟨number, less, rfl⟩ := numbers earlier member
        have equal := (Value.sameKey_whole rfl rfl).mp same
        omega
      have declared : declaredKey (.int index) = (.required, .int index) := rfl
      rw [Spec.numberedEntries, compileKeys, compileKeys]
      simp only [unseen, declared, unused, Bool.false_eq_true, if_false]
      have value (path otherPath : Path) : Attempt.Agree (fun _ _ => True)
          (compileEntry compiler types scope path spec)
          (compileEntry compiler types scope otherPath spec.numbered) := by
        rw [compileEntry_eq, compileEntry_eq]
        exact .bind (each.1 _ _) fun _ _ _ => .ok trivial
      refine .bind (value _ _) fun made otherMade _ => ?_
      refine .bind (hypothesis each.2 apart.2 ?_ ?_) fun _ _ _ => .ok trivial
      · intro entry member earlier known
        rcases List.mem_cons.mp known with rfl | known
        · exact apart.1 entry member
        · exact fresh.2 entry member earlier known
      · intro earlier known
        rcases List.mem_cons.mp known with rfl | known
        · exact ⟨index, by omega, rfl⟩
        · obtain ⟨number, less, same⟩ := numbers earlier known
          exact ⟨number, by omega, same⟩

/-- A map that declares no name twice is compiled exactly if it is with numbers for its keys. -/
theorem compileMap_agree_numberedEntries
    {entries : List (Value × Spec)}
    (each : ∀ entry ∈ entries, CompileTogether compiler types scope entry.2 entry.2.numbered)
    (once : ¬ DeclaresTwice entries)
    (list : Spec)
    (root otherRoot : Path) :
    Attempt.Agree (fun made otherMade : Schema => made.tag = otherMade.tag)
      (compileMap compiler types scope root entries list)
      (compileMap compiler types scope otherRoot (Spec.numberedEntries 0 entries) list) := by
  rw [compileMap, compileMap]
  refine .bind (compileKeys_agree_numberedEntries each (not_declaresTwice_iff.mp once)
    (by simp) (by simp) root otherRoot) fun _ _ _ => ?_
  exact .bind_same _ fun _ => .ok rfl

theorem compileAlternatives_agree_numberedAll
    {specs : List Spec}
    (each : ∀ spec ∈ specs, CompileTogether compiler types scope spec spec.numbered) :
    Attempt.Agree (fun made otherMade : Schema => made.tag = otherMade.tag)
      (compileAlternatives compiler types scope specs)
      (compileAlternatives compiler types scope (Spec.numberedAll specs)) := by
  induction specs with
  | nil =>
      rw [Spec.numberedAll, compileAlternatives]
      exact .error _ _
  | cons first rest hypothesis =>
      rw [List.forall_mem_cons] at each
      have later := hypothesis each.2
      cases rest with
      | nil =>
          simp only [Spec.numberedAll, compileAlternatives]
          exact each.1 [] []
      | cons second rest =>
          simp only [Spec.numberedAll] at later ⊢
          rw [compileAlternatives, compileAlternatives]
          refine .bind (each.1 [] []) fun _ _ _ => ?_
          exact .bind later fun _ _ _ => .ok rfl

/-- Whether a cast can be made depends on the tags of its sides. -/
theorem castOf_agree_of_tags
    {input output otherInput otherOutput : Schema}
    (inputs : input.tag = otherInput.tag)
    (outputs : output.tag = otherOutput.tag)
    (entries : List (Value × Spec)) :
    Attempt.Agree (fun made otherMade : Schema => made.tag = otherMade.tag)
      (castOf input output entries) (castOf otherInput otherOutput entries) := by
  cases made : castOf input output entries with
  | ok schema =>
      obtain ⟨caster, options, rfl, other⟩ :=
        exists_castOf_of_tags made fun _ => ⟨inputs.symm, outputs.symm⟩
      rw [other]
      exact .ok outputs
  | error fault =>
      cases otherMade : castOf otherInput otherOutput entries with
      | ok schema =>
          obtain ⟨caster, options, rfl, again⟩ :=
            exists_castOf_of_tags otherMade fun _ => ⟨inputs, outputs⟩
          rw [again] at made
          cases made
      | error other => exact .error fault other

/-- A loaded specification in which no map declares a name twice is compiled exactly if it is with
numbers for its keys. -/
theorem compileTogether_numbered
    {property : Value → Prop}
    {given : Entries → Prop}
    {spec : Spec}
    (loaded : SchemaFile.IsLoaded property given spec)
    (once : ∀ steps entries, spec.HoldsKeys steps entries → ¬ DeclaresTwice entries) :
    CompileTogether compiler types scope spec spec.numbered := by
  have inner {spec part : Spec} {steps : List Schema.Step}
      (once : ∀ steps entries, spec.HoldsKeys steps entries → ¬ DeclaresTwice entries)
      (member : (steps, part) ∈ spec.innerParts) :
      ∀ steps entries, part.HoldsKeys steps entries → ¬ DeclaresTwice entries :=
    fun _ entries holds => once _ entries (holds.inside member)
  have valued {entries : List (Value × Spec)} {entry : Value × Spec} (member : entry ∈ entries) :
      ∃ steps, (steps, entry.2) ∈ keyParts 0 entries := by
    obtain ⟨before, after, rfl⟩ := List.append_of_mem member
    exact ⟨_, mem_keyParts_iff.mpr ⟨before, entry.1, after, rfl, rfl⟩⟩
  induction loaded with
  | name name =>
      refine .of_eq fun root otherRoot => ?_
      rw [compileSpec_text, compileSpec_text]
  | keys entries _ _ hypothesis =>
      intro root otherRoot
      rw [Spec.numbered, compileSpec_keys, compileSpec_keys]
      refine compileMap_agree_numberedEntries (fun entry member => ?_)
        (once [] entries ⟨_, .here _, rfl⟩) _ root otherRoot
      obtain ⟨steps, found⟩ := valued member
      exact hypothesis entry member (inner once found)
  | type name predicates =>
      refine .of_eq fun root otherRoot => ?_
      rw [compileSpec_type, compileSpec_type]
  | list spec predicates _ _ hypothesis =>
      intro root otherRoot
      rw [Spec.numbered, compileSpec_list, compileSpec_list]
      refine .bind_same _ fun chain => ?_
      exact .bind (hypothesis (inner once List.mem_cons_self) [] []) fun _ _ _ => .ok rfl
  | map entries predicates _ _ _ hypothesis =>
      intro root otherRoot
      rw [Spec.numbered, compileSpec_map, compileSpec_map]
      refine compileMap_agree_numberedEntries (fun entry member => ?_)
        (once [] entries ⟨_, .here _, rfl⟩) _ root otherRoot
      obtain ⟨steps, found⟩ := valued member
      exact hypothesis entry member (inner once found)
  | union specs _ hypothesis =>
      have each : ∀ spec ∈ specs, CompileTogether compiler types scope spec spec.numbered := by
        intro spec member
        obtain ⟨before, after, rfl⟩ := List.append_of_mem member
        exact hypothesis spec member
          (inner once (mem_alternativeParts_iff.mpr ⟨before, after, rfl, rfl⟩))
      intro root otherRoot
      rw [Spec.numbered]
      match specs with
      | [] | [_] =>
          simp only [Spec.numberedAll, compileSpec]
          exact .error _ _
      | first :: second :: rest =>
          have alternatives := compileAlternatives_agree_numberedAll each
          simp only [Spec.numberedAll] at alternatives ⊢
          rwa [compileSpec_alternatives, compileSpec_alternatives]
  | cast source output options _ _ _ _ sourceHypothesis outputHypothesis =>
      intro root otherRoot
      rw [Spec.numbered, compileSpec_cast, compileSpec_cast]
      refine .bind_same _ fun entries => ?_
      refine .bind (sourceHypothesis (inner once List.mem_cons_self) [] []) fun _ _ inputs => ?_
      refine .bind (outputHypothesis (inner once (List.mem_cons_of_mem _ List.mem_cons_self))
        [] []) fun _ _ outputs => ?_
      exact castOf_agree_of_tags inputs outputs entries

end Together

/-- A loaded specification is compiled exactly if it is with numbers for its keys and no map inside
it declares a name twice. -/
theorem compiles_iff_numbered
    {property : Value → Prop}
    {given : Entries → Prop}
    {spec : Spec}
    (loaded : SchemaFile.IsLoaded property given spec)
    (compiler : Compiler)
    (options : CompileOptions) :
    (∃ schema, compiler.compile spec options = .ok schema) ↔
      (∃ schema, compiler.compile spec.numbered options = .ok schema) ∧
        ∀ steps entries, spec.HoldsKeys steps entries → ¬ DeclaresTwice entries := by
  have together once : (∃ schema, compiler.compile spec options = .ok schema) ↔
      ∃ schema, compiler.compile spec.numbered options = .ok schema :=
    (compileTogether_numbered loaded once [] []).exists_ok_iff
  constructor
  · rintro ⟨schema, made⟩
    have once : ∀ steps entries, spec.HoldsKeys steps entries → ¬ DeclaresTwice entries := by
      intro steps entries holds
      obtain ⟨around, draws⟩ := holds.exists_draws []
      obtain ⟨keys, -, declared⟩ := provides_of_draws draws made
      exact declared.not_declaresTwice
    exact ⟨(together once).mp ⟨schema, made⟩, once⟩
  · rintro ⟨compiled, once⟩
    exact (together once).mpr compiled

end Compiler
end DataContract
