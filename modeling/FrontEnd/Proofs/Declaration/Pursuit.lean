import FrontEnd.Proofs.Declaration.Parallel
import FrontEnd.Proofs.Declaration.Translation
import FrontEnd.Proofs.Specialization.Behind

/-!
Resolving in tables that are behind others. Where every name means the same on both sides, under the
new numbers, a spelling that has a meaning in the tables ahead has the same meaning in those behind,
and leaves them behind. Only the recursion limit may keep the tables behind from it.
-/

namespace FrontEnd

open TypeContext (Behind)

variable {shift : Renaming} {one two : TypeContext} {scope scope' : Scope}

/-- Every name was given a meaning that is known, and means the same in the second scope. -/
structure Scope.Mirrors (extent : Extent) (shift : Renaming) (one two : Scope) : Prop where
  known : ∀ text, Known extent (one.lookup? text)
  lookup : ∀ text, two.lookup? text = shift.image (one.lookup? text)

theorem Scope.Mirrors.onward {inner outer : Extent} {next : Renaming}
    (mirrors : scope.Mirrors inner shift scope') (agrees : Agrees inner shift next)
    (within : inner.Within outer) : scope.Mirrors outer next scope' where
  known text := (mirrors.known text).within within
  lookup text := (mirrors.lookup text).trans (mirrors.known text _ _ agrees)

theorem Scope.Mirrors.bareTemplate {extent : Extent} (mirrors : scope.Mirrors extent shift scope')
    (spelling : Spelling) : scope'.bareTemplate? spelling = scope.bareTemplate? spelling := by
  cases spelling with
  | named name =>
    dsimp only [Scope.bareTemplate?]
    rw [mirrors.lookup]
    rcases scope.lookup? name with _ | _ | _ <;> rfl
  | _ => rfl

/-- Where the second steps give a value, the first give the same, and leave their tables behind,
unless they run into the recursion limit. -/
def Pursues [Renames α] (shift : Renaming) (one two : TypeContext) (steps steps' : ResolveM α) :
    Prop :=
  ∀ value' after', outcome steps' two = (.ok value', after') →
    (∃ err : TypeError, err.IsRunaway ∧ (outcome steps one).1 = .error (.type err)) ∨
    ∃ next value after, outcome steps one = (.ok value, after) ∧ Agrees one.extent shift next ∧
      one.extent.Within after.extent ∧ Behind next after after' ∧ Known after.extent value ∧
      value' = next.image value

/-! ### Single steps -/

section Steps

variable [Renames α] [Renames β] {steps steps' : ResolveM α} {rest rest' : α → ResolveM β}

theorem pursues_pure (behind : Behind shift one two) {value : α} (known : Known one.extent value) :
    Pursues shift one two (pure value) (pure (shift.image value)) := by
  intro value' after' ran
  cases ran
  exact .inr ⟨shift, value, one, rfl, .refl _ _, .refl _, behind, known, rfl⟩

/-- Where the second steps fail, nothing is asked of the first. -/
theorem pursues_throw (steps : ResolveM α) (err : DeclareError) :
    Pursues shift one two steps (throw err) := by
  intro value' after' ran
  cases ran

theorem pursues_bind (first : Pursues shift one two steps steps')
    (second : ∀ next value middle middle', Agrees one.extent shift next →
      one.extent.Within middle.extent → Behind next middle middle' → Known middle.extent value →
      Pursues next middle middle' (rest value) (rest' (next.image value))) :
    Pursues shift one two (steps >>= rest) (steps' >>= rest') := by
  intro value' after' ran
  obtain ⟨inner', middle', ran₁, ran₂⟩ := outcome_bind_inv ran
  obtain ⟨err, runaway, failed⟩ | ⟨next, inner, middle, given, agrees, within, behind, known, rfl⟩ :=
    first inner' middle' ran₁
  · rcases ended : outcome steps one with ⟨result, middle⟩
    rw [ended] at failed
    cases failed
    exact .inl ⟨err, runaway, by rw [outcome_bind_error ended]⟩
  rw [outcome_bind_ok given]
  refine (second next inner middle middle' agrees within behind known value' after' ran₂).imp_right ?_
  rintro ⟨last, value, after, given', agrees', within', rest⟩
  exact ⟨last, value, after, given', agrees.trans (agrees'.within within), within.trans within', rest⟩

theorem pursues_intern (behind : Behind shift one two) {form : TypeForm}
    (known : Known one.extent form) :
    Pursues shift one two (Scope.intern form) (Scope.intern (shift.image form)) := by
  intro value' after' ran
  have same : (.ok (two.intern (shift.image form)).1, (two.intern (shift.image form)).2) =
    (Except.ok value', after') := ran
  cases same
  obtain ⟨next, agrees, within, behind', inner, given⟩ := behind.intern known
  exact .inr ⟨next, _, _, rfl, agrees, within, behind', inner, given⟩

theorem pursues_qualified (behind : Behind shift one two) {ty : TypeId}
    (known : Known one.extent ty) (quals : Qualifiers) :
    Pursues shift one two (Scope.qualified ty quals) (Scope.qualified (shift.types ty) quals) := by
  intro value' after' ran
  have same : (.ok (two.qualified (shift.types ty) quals).1,
    (two.qualified (shift.types ty) quals).2) = (Except.ok value', after') := ran
  cases same
  obtain ⟨next, agrees, within, behind', inner, given⟩ := behind.qualified known quals
  exact .inr ⟨next, _, _, rfl, agrees, within, behind', inner, given⟩

theorem pursues_specialize (behind : Behind shift one two) {arguments : List TemplateArgument}
    (known : Known one.extent arguments) (id : TemplateId) :
    Pursues shift one two (Scope.specialize id arguments)
      (Scope.specialize id (shift.image arguments)) := by
  intro ty' after' ran
  have given := specialize_ok_iff.1 ran
  have further := behind.specialize known (congrArg Prod.fst given)
  rw [given] at further
  obtain ⟨err, runaway, failed⟩ | ⟨next, ty, agrees, within, behind', inner, made, same⟩ := further
  · refine .inl ⟨err, runaway, ?_⟩
    rw [outcome_specialize, failed]
    rfl
  · exact .inr ⟨next, ty, _, specialize_ok_iff.2 (Prod.ext made rfl), agrees, within, behind',
      inner, same⟩

end Steps

/-! ### Spellings -/

private theorem pursues_form (form : TypeId → TypeForm) {steps steps' : ResolveM TypeId}
    (first : Pursues shift one two steps steps')
    (natural : ∀ (next : Renaming) ty, form (next.types ty) = next.image (form ty))
    (known : ∀ extent ty, Known extent ty → Known extent (form ty)) :
    Pursues shift one two (do Scope.intern (form (← steps)))
      (do Scope.intern (form (← steps'))) := by
  refine pursues_bind first fun next ty middle middle' _ _ behind inner => ?_
  rw [show form (next.image ty) = next.image (form ty) from natural next ty]
  exact pursues_intern behind (known _ ty inner)

private theorem pursues_name (behind : Behind shift one two)
    (mirrors : scope.Mirrors one.extent shift scope') (name : String) (isBare : Bool)
    {arguments arguments' : ResolveM (List TemplateArgument)}
    (given : Pursues shift one two arguments arguments') :
    Pursues shift one two (scope.resolveName name isBare arguments)
      (scope'.resolveName name isBare arguments') := by
  have known := mirrors.known name
  unfold Scope.resolveName
  rw [mirrors.lookup]
  generalize scope.lookup? name = entry at known
  rcases entry with _ | ty | id
  · exact pursues_throw _ _
  · cases isBare with
    | true => exact pursues_pure behind (known_typeEntry.1 (known_some.1 known))
    | false => exact pursues_throw _ _
  · exact pursues_bind given fun next value middle middle' _ _ behind inner =>
      pursues_specialize behind inner id

mutual

theorem pursues_resolve : (spelling : Spelling) → ∀ {shift : Renaming} {one two : TypeContext},
    Behind shift one two → scope.Mirrors one.extent shift scope' →
    Pursues shift one two (scope.resolve spelling) (scope'.resolve spelling)
  | .pointer target, shift, one, two, behind, mirrors => by
    rw [Scope.resolve, Scope.resolve]
    exact pursues_form .pointer (pursues_resolve target behind mirrors) (fun _ _ => rfl)
      fun _ _ => known_pointer.2
  | .slice element, shift, one, two, behind, mirrors => by
    rw [Scope.resolve, Scope.resolve]
    exact pursues_form .slice (pursues_resolve element behind mirrors) (fun _ _ => rfl)
      fun _ _ => known_slice.2
  | .array element (.literal length), shift, one, two, behind, mirrors => by
    rw [Scope.resolve, Scope.resolve]
    exact pursues_form (.array · length) (pursues_resolve element behind mirrors)
      (fun _ _ => rfl) fun _ _ => known_array.2
  | .array element (.parameter name), shift, one, two, behind, mirrors => by
    rw [Scope.resolve, Scope.resolve]
    exact pursues_throw _ _
  | .qualified base quals, shift, one, two, behind, mirrors => by
    rw [Scope.resolve, Scope.resolve]
    exact pursues_bind (pursues_resolve base behind mirrors)
      fun next ty middle middle' _ _ behind known => pursues_qualified behind known quals
  | .named name, shift, one, two, behind, mirrors => by
    rw [Scope.resolve, Scope.resolve]
    split
    · rename_i ty named
      obtain ⟨known, fixed⟩ :=
        behind.shared.primitive ty (TypeId.lt_primitiveCount_of_ofPrimitiveName? named)
      have same := pursues_pure behind (known_type.2 known)
      rwa [show shift.image ty = ty from fixed] at same
    · exact pursues_name behind mirrors name true (pursues_pure behind known_nil)
  | .applied name arguments, shift, one, two, behind, mirrors => by
    rw [Scope.resolve, Scope.resolve]
    exact pursues_name behind mirrors name false (pursues_arguments arguments behind mirrors)

theorem pursues_argument : (argument : SpelledArgument) →
    ∀ {shift : Renaming} {one two : TypeContext}, Behind shift one two →
    scope.Mirrors one.extent shift scope' →
    Pursues shift one two (scope.resolveArgument argument) (scope'.resolveArgument argument)
  | .int value, shift, one, two, behind, _ => by
    rw [Scope.resolveArgument, Scope.resolveArgument]
    exact pursues_pure behind known_valueArgument
  | .bool value, shift, one, two, behind, _ => by
    rw [Scope.resolveArgument, Scope.resolveArgument]
    exact pursues_pure behind known_valueArgument
  | .type spelling, shift, one, two, behind, mirrors => by
    rw [Scope.resolveArgument, Scope.resolveArgument, mirrors.bareTemplate]
    split
    · exact pursues_pure behind known_templateArgument
    · exact pursues_bind (pursues_resolve spelling behind mirrors)
        fun next ty middle middle' _ _ behind known =>
          pursues_pure behind (known_typeArgument.2 known)

theorem pursues_arguments : (arguments : List SpelledArgument) →
    ∀ {shift : Renaming} {one two : TypeContext}, Behind shift one two →
    scope.Mirrors one.extent shift scope' →
    Pursues shift one two (scope.resolveArguments arguments) (scope'.resolveArguments arguments)
  | [], shift, one, two, behind, _ => by
    rw [Scope.resolveArguments, Scope.resolveArguments]
    exact pursues_pure behind known_nil
  | argument :: rest, shift, one, two, behind, mirrors => by
    rw [Scope.resolveArguments, Scope.resolveArguments]
    refine pursues_bind (pursues_argument argument behind mirrors)
      fun next first middle middle' agrees within behind known => ?_
    refine pursues_bind (pursues_arguments rest behind (mirrors.onward agrees within))
      fun last others after after' agrees' within' behind known' => ?_
    rw [known _ _ agrees']
    exact pursues_pure behind (known_cons.2 ⟨known.within within', known'⟩)

end

theorem pursues_text (behind : Behind shift one two)
    (mirrors : scope.Mirrors one.extent shift scope') (text : String) :
    Pursues shift one two (scope.resolveText text) (scope'.resolveText text) := by
  unfold Scope.resolveText
  split
  · exact pursues_resolve _ behind mirrors
  · exact pursues_throw _ _

end FrontEnd
