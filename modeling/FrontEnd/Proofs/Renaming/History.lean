import FrontEnd.Proofs.Outcome
import FrontEnd.Proofs.Renaming.Specialization

/-!
Histories of tables that are the same up to a renaming. If a history only asks for what its own
answers gave out, the renamed history has the renamed answers. Layouts among these are found alike:
the search for a layout only follows what the tables say, and the depth it is given is enough on
both sides, since the types that are being laid out are different types of the pool.
-/

namespace FrontEnd

/-! ### Layouts -/

/-- Two searches for layouts find the same, and leave the same layouts behind. -/
def Paired [Renames α] (extent : Extent) (shift : Renaming) (first second : LayoutM α) : Prop :=
  ∀ layouts layouts', KeyedTwin extent shift layouts layouts' →
    KeyedTwin extent shift (outcome first layouts).2 (outcome second layouts').2 ∧
      Known extent (outcome first layouts).1 ∧
      (outcome second layouts').1 = shift.image (outcome first layouts).1

variable {shift : Renaming} {extent : Extent} {one two : TypeContext} {ty : TypeId}

namespace Paired

variable [Renames α] [Renames β]

theorem pure {value : α} (known : Known extent value) :
    Paired extent shift (pure value) (pure (shift.image value)) :=
  fun _ _ twin => ⟨twin, known_ok.2 known, rfl⟩

theorem throw {err : TypeError} (known : Known extent err) :
    Paired extent shift (throw err : LayoutM α) (throw (shift.image err)) :=
  fun _ _ twin => ⟨twin, known_error.2 known, rfl⟩

theorem lift {result : Except TypeError α} (known : Known extent result) :
    Paired extent shift (liftM result) (liftM (shift.image result)) := by
  intro layouts layouts' twin
  rw [outcome_lift, outcome_lift]
  exact ⟨twin, known, rfl⟩

theorem bind {first second : LayoutM α} {rest rest' : α → LayoutM β}
    (searched : Paired extent shift first second)
    (following : ∀ value, Known extent value →
      Paired extent shift (rest value) (rest' (shift.image value))) :
    Paired extent shift (first >>= rest) (second >>= rest') := by
  intro layouts layouts' twin
  obtain ⟨twin', known, same⟩ := searched layouts layouts' twin
  rw [outcome_bind, outcome_bind]
  generalize outcome first layouts = left at twin' known same ⊢
  generalize outcome second layouts' = right at twin' same ⊢
  rcases left with ⟨err | value, left⟩ <;> rcases right with ⟨err' | value', right⟩ <;> cases same
  · exact ⟨twin', known_error.2 (known_error.1 known), rfl⟩
  · exact following value (known_ok.1 known) left right twin'

theorem mapM {xs : List α} {search search' : α → LayoutM β} (known : Known extent xs)
    (each : ∀ x ∈ xs, Paired extent shift (search x) (search' (shift.image x))) :
    Paired extent shift (xs.mapM search) ((shift.image xs).mapM search') := by
  induction xs with
  | nil => exact pure known_nil
  | cons x rest ih =>
    rw [image_cons, List.mapM_cons, List.mapM_cons]
    refine bind (each x (by simp)) fun y known₁ => ?_
    refine bind (ih (known_cons.1 known).2 fun z member => each z (by simp [member]))
      fun ys known₂ => pure ?_
    exact known_cons.2 ⟨known₁, known₂⟩

end Paired

section Search

variable {layout layout' : TypeId → LayoutM TypeLayout}

theorem recordParts_paired {body : DefBody} (known : Known extent body)
    (inside : ∀ ty, Known extent ty → Paired extent shift (layout ty) (layout' (shift.types ty))) :
    Paired extent shift (TypeContext.recordParts body layout)
      (TypeContext.recordParts (shift.image body) layout') := by
  obtain ⟨members, -, -, base, -, -⟩ := known_body.1 known
  have parts : ∀ start : TypeLayout, Paired extent shift
      (body.members.mapM (fun member => layout member.type) >>= fun parts =>
        pure (RecordLayout.place start.size start.align parts))
      ((shift.image body.members).mapM (fun member => layout' member.type) >>= fun parts =>
        pure (RecordLayout.place start.size start.align parts)) := by
    intro start
    refine .bind (.mapM members fun member present => ?_) fun found _ => ?_
    · obtain ⟨name, type⟩ := member
      exact inside type (known_member.1 (known_list.1 members _ present))
    · have same : shift.image found = found := List.map_id found
      rw [same]
      exact .pure (known_recordLayout _)
  unfold TypeContext.recordParts
  cases own : body.base with
  | none =>
    rw [show (shift.image body).base = none by simp [image_body, own]]
    exact .bind (.pure (known_layout _)) fun start _ => parts start
  | some ty =>
    rw [own, known_some] at base
    rw [show (shift.image body).base = some (shift.types ty) by simp [image_body, own]]
    exact .bind (inside ty base) fun start _ => parts start

theorem unionParts_paired {body : DefBody} (known : Known extent body)
    (inside : ∀ ty, Known extent ty → Paired extent shift (layout ty) (layout' (shift.types ty))) :
    Paired extent shift (TypeContext.unionParts body layout)
      (TypeContext.unionParts (shift.image body) layout') := by
  obtain ⟨members, -⟩ := known_body.1 known
  refine .bind (.mapM members fun member present => ?_) fun found _ => ?_
  · obtain ⟨name, type⟩ := member
    exact inside type (known_member.1 (known_list.1 members _ present))
  · have same : shift.image found = found := List.map_id found
    rw [same]
    exact .pure (known_layout _)

/-- One step of the search does the same on both sides if the search inside does. -/
theorem layoutStep_paired (twin : Twin shift one two) (known : Known one.extent ty)
    (inside : ∀ ty, Known one.extent ty →
      Paired one.extent shift (layout ty) (layout' (shift.types ty))) :
    Paired one.extent shift (one.layoutStep ty layout)
      (two.layoutStep (shift.types ty) layout') := by
  obtain ⟨same, inner⟩ := twin.form known
  have primitive : Known one.extent TypeId.i32 ∧ shift.types TypeId.i32 = TypeId.i32 := by
    obtain ⟨below, fixed⟩ := twin.primitive .i32 (by decide)
    exact ⟨known_type.2 below, fixed⟩
  unfold TypeContext.layoutStep
  rw [twin.config, same]
  refine .bind (.lift inner) fun form known' => ?_
  cases form with
  | void | bool | pointer | function | slice => exact .pure (known_layout _)
  | int bits _ | float bits =>
    dsimp only [Renaming.image, Renames.image]
    cases TypeLayout.ofBits? bits with
    | some layout => exact .pure (known_layout layout)
    | none => exact .throw (known_unsupportedWidth.2 known)
  | array element length =>
    refine .bind (inside element (known_array.1 known')) fun found _ => ?_
    exact .pure (known_layout _)
  | qualified base quals => exact inside base (known_qualified.1 known')
  | param | error => exact .throw (known_incompleteType.2 known)
  | nominal kind id =>
    obtain ⟨bodies, stored⟩ := twin.bodyOf known
    refine .bind (bodies ▸ .lift stored) fun body whole => ?_
    cases body with
    | none => exact .throw (known_incompleteType.2 known)
    | some body =>
      rw [known_some] at whole
      cases kind with
      | enumeration =>
        have index := (known_body.1 whole).2.2.2.2.2
        have target : (shift.image body).indexType.getD TypeId.i32 =
            shift.types (body.indexType.getD TypeId.i32) := by
          simp only [image_body]
          cases body.indexType with
          | none => exact primitive.2.symm
          | some stated => rfl
        have below : Known one.extent (body.indexType.getD TypeId.i32) := by
          cases own : body.indexType with
          | none => exact primitive.1
          | some stated =>
            rw [own, known_some] at index
            exact index
        have inner := inside _ below
        rw [← target] at inner
        exact inner
      | interface => exact .pure (known_layout _)
      | struct | classType =>
        refine .bind (recordParts_paired whole inside) fun found _ => ?_
        exact .pure (known_layout _)
      | union => exact unionParts_paired whole inside

end Search

/-- Different types below an extent are no more than it counts. -/
theorem length_le_types {outer : List TypeId} (known : Known extent outer) (once : outer.Nodup) :
    outer.length ≤ extent.types :=
  TypeId.length_le_of_nodup once fun ty present =>
    known_type.1 (known_list.1 known ty present)

theorem layoutWithin_paired (twin : Twin shift one two) {depth depth' : Nat} {outer : List TypeId}
    (known : Known one.extent ty) (around : Known one.extent outer) (once : outer.Nodup)
    (enough : one.extent.types < depth + outer.length)
    (enough' : one.extent.types < depth' + outer.length) :
    Paired one.extent shift (one.layoutWithin depth outer ty)
      (two.layoutWithin depth' (shift.image outer) (shift.types ty)) := by
  have fewer := length_le_types around once
  induction depth generalizing depth' outer ty with
  | zero => omega
  | succ depth ih =>
    obtain ⟨depth', rfl⟩ : ∃ less, depth' = less + 1 := ⟨depth' - 1, by omega⟩
    intro layouts layouts' same
    unfold TypeContext.layoutWithin
    rw [outcome_get_bind, outcome_get_bind]
    have lookup : layouts'[shift.types ty]? = shift.image layouts[ty]? :=
      same.lookup twin.faithful known
    rw [lookup]
    cases found : layouts[ty]? with
    | some layout => exact Paired.pure (known_layout layout) layouts layouts' same
    | none =>
      have member : shift.types ty ∈ shift.image outer ↔ ty ∈ outer :=
        mem_image_iff twin.faithful known around
      simp only [image_none, member]
      split
      · exact Paired.throw (known_infiniteSize.2 known) layouts layouts'
          same
      · rename_i outside
        have once' : (ty :: outer).Nodup := List.nodup_cons.2 ⟨outside, once⟩
        have around' : Known one.extent (ty :: outer) := known_cons.2 ⟨known, around⟩
        have inner : ∀ ty', Known one.extent ty' →
            Paired one.extent shift (one.layoutWithin depth (ty :: outer) ty')
              (two.layoutWithin depth' (shift.image (ty :: outer)) (shift.types ty')) :=
          fun ty' known' => ih known' around' once' (by rw [List.length_cons]; omega)
            (by rw [List.length_cons]; omega) (length_le_types around' once')
        have step := layoutStep_paired twin known inner
        refine Paired.bind step (fun layout _ => ?_) layouts layouts' same
        refine fun layouts layouts' same => ⟨?_, known_ok.2 (known_layout layout), rfl⟩
        exact same.insert twin.faithful known (known_layout layout)

/-- Questions for layouts are answered alike. -/
theorem Twin.runLayout [Renames α] (twin : Twin shift one two) {search search' : LayoutM α}
    (paired : Paired one.extent shift search search') :
    Keeps shift one (one.runLayout search) (two.runLayout search') := by
  obtain ⟨layouts, known, same⟩ := paired _ _ twin.layouts
  exact ⟨shift, .refl _ _, .refl _, ⟨twin.config, twin.faithful, twin.primitive, twin.pool,
    twin.registry, twin.templates, twin.instances, layouts⟩, known, same⟩

theorem Twin.size_le (twin : Twin shift one two) : one.pool.size ≤ two.pool.size := by
  have images : ((List.range one.pool.size).map fun index => shift.types ⟨index⟩).Nodup := by
    refine (List.nodup_map_iff_inj_on List.nodup_range).2 fun first left second right same => ?_
    exact TypeId.mk.inj (twin.faithful.types ⟨first⟩ ⟨second⟩ (List.mem_range.1 left)
      (List.mem_range.1 right) same)
  have inside : Known two.extent
      ((List.range one.pool.size).map fun index => shift.types ⟨index⟩) := by
    refine known_list.2 fun ty member => ?_
    obtain ⟨index, below, rfl⟩ := List.mem_map.1 member
    obtain ⟨form, -, -, found⟩ := twin.pool.exists_form
      (known_type.2 (List.mem_range.1 below))
    exact known_type.2 (TypePool.lt_size_of_form? found)
  have fewer := length_le_types inside images
  rwa [List.length_map, List.length_range] at fewer

theorem Twin.layoutOf (twin : Twin shift one two) (known : Known one.extent ty) :
    Keeps shift one (one.layoutOf ty) (two.layoutOf (shift.types ty)) := by
  have larger := twin.size_le
  refine twin.runLayout (layoutWithin_paired twin known known_nil List.nodup_nil ?_ ?_)
  · simp only [TypeContext.extent, TypeContext.layoutDepth]
    omega
  · simp only [TypeContext.extent, TypeContext.layoutDepth]
    omega

theorem Twin.recordLayoutOf (twin : Twin shift one two) (known : Known one.extent ty) :
    Keeps shift one (one.recordLayoutOf ty) (two.recordLayoutOf (shift.types ty)) := by
  have larger := twin.size_le
  obtain ⟨same, inner⟩ := twin.pool.unqualified known
  obtain ⟨behind, stored⟩ := twin.defOf known
  have inside : ∀ member, Known one.extent member →
      Paired one.extent shift (one.layoutWithin one.layoutDepth [one.pool.unqualified ty] member)
        (two.layoutWithin two.layoutDepth [two.pool.unqualified (shift.types ty)]
          (shift.types member)) := by
    intro member known'
    rw [same]
    refine layoutWithin_paired twin known'
      (known_cons.2 ⟨inner, known_nil⟩) (List.nodup_singleton _) ?_ ?_
    · simp only [TypeContext.extent, TypeContext.layoutDepth]
      omega
    · simp only [TypeContext.extent, TypeContext.layoutDepth]
      omega
  refine twin.runLayout (.bind (behind ▸ .lift stored) fun entry whole => ?_)
  cases entry with
  | none => exact .throw (known_incompleteType.2 known)
  | some entry =>
    rw [known_some, known_entry] at whole
    cases body : entry.body with
    | none =>
      have body' : (shift.image entry).body = none := by simp [image_entry, body]
      simp only [image_some, body, body']
      exact .throw (known_incompleteType.2 known)
    | some body' =>
      have known' : Known one.extent body' := by
        rw [body, known_some] at whole
        exact whole.2.2.2
      have renamed : (shift.image entry).body = some (shift.image body') := by
        simp [image_entry, body]
      simp only [image_some, body, renamed, show (shift.image entry).kind = entry.kind from rfl]
      cases entry.kind with
      | struct | classType => exact recordParts_paired known' inside
      | union =>
        refine .bind (unionParts_paired known' inside) fun layout _ => ?_
        have offsets : ((shift.image body').members.map fun _ => (0 : UInt64)) =
            body'.members.map fun _ => 0 := by simp [image_body]
        simp only [offsets]
        exact .pure (known_recordLayout _)
      | enumeration | interface =>
        refine .bind (layoutWithin_paired twin known known_nil List.nodup_nil ?_ ?_)
          fun layout _ => .pure (known_recordLayout _)
        · simp only [TypeContext.extent, TypeContext.layoutDepth]
          omega
        · simp only [TypeContext.extent, TypeContext.layoutDepth]
          omega

/-! ### Histories -/

/-- Each request mentions only types and definitions that were given out before it. -/
def TypeContext.Scoped (ctx : TypeContext) : List TableRequest → Prop
  | [] => True
  | request :: rest => Known ctx.extent request ∧ (ctx.perform request).2.Scoped rest

/-- Every request is answered alike. -/
theorem Twin.perform (twin : Twin shift one two) {request : TableRequest}
    (known : Known one.extent request) :
    Keeps shift one (one.perform request) (two.perform (shift.image request)) := by
  cases request with
  | intern form =>
    exact (twin.intern (known_internRequest.1 known)).map fun _ _ => rfl
  | qualify ty quals =>
    exact (twin.qualified (known_qualifyRequest.1 known) quals).map fun _ _ => rfl
  | declare name kind locator =>
    exact (twin.declare known_none).map fun _ _ => rfl
  | define ty body =>
    obtain ⟨known₁, known₂⟩ := known_defineRequest.1 known
    exact (twin.define known₁ known₂).map fun _ _ => rfl
  | register template =>
    exact (twin.register (known_registerRequest.1 known)).map fun _ _ => rfl
  | specialize id arguments =>
    exact (twin.specialize (known_specializeRequest.1 known)).map fun _ _ => rfl
  | layout ty => exact (twin.layoutOf (known_layoutRequest.1 known)).map fun _ _ => rfl
  | recordLayout ty =>
    exact (twin.recordLayoutOf (known_recordLayoutRequest.1 known)).map fun _ _ => rfl

/-- Every history is answered alike, under one renaming that goes on from the first. -/
theorem Twin.run (twin : Twin shift one two) {history : List TableRequest}
    (inside : one.Scoped history) :
    ∃ next, Agrees one.extent shift next ∧
      Twin next (one.after history) (two.after (next.image history)) ∧
      (two.run (next.image history)).1 = next.image (one.run history).1 := by
  induction history generalizing shift one two with
  | nil => exact ⟨shift, .refl _ _, twin, rfl⟩
  | cons request rest ih =>
    obtain ⟨known, inside⟩ := inside
    obtain ⟨middle, agrees, within, twin', inner, same⟩ := twin.perform known
    obtain ⟨last, agrees', twin'', answers⟩ := ih twin' inside
    have onward : Agrees one.extent shift last := agrees.trans (agrees'.within within)
    rw [known _ _ onward] at twin'' answers same
    rw [inner _ _ agrees'] at same
    refine ⟨last, onward, twin'', ?_⟩
    simp only [image_cons, TypeContext.run, same, answers]

end FrontEnd
