import Mathlib.Data.List.Nodup
import Mathlib.Logic.Relation

/-!
Listing depth first. The starts are taken one after the other, and each is listed before all that
lies beyond it. What was met before is passed over together with what lies beyond it, so that
cycles come to an end. Nothing is lost that way: what lies beyond a vertex that was met is met or
listed elsewhere.
-/

namespace FrontEnd

open Relation

/-- What is listed from given starts after some vertices were met, where `next` are the vertices
right beyond one, in their order. -/
inductive DepthFirst (next : α → List α) : (met starts listed : List α) → Prop where
  | done {met} : DepthFirst next met [] []
  | known {met start rest listed} (seen : start ∈ met)
      (others : DepthFirst next met rest listed) : DepthFirst next met (start :: rest) listed
  | fresh {met start rest inner listed} (unseen : start ∉ met)
      (beyond : DepthFirst next (met ++ [start]) (next start) inner)
      (others : DepthFirst next (met ++ start :: inner) rest listed) :
      DepthFirst next met (start :: rest) (start :: inner ++ listed)

/-- One vertex leads to another along vertices that were not met. -/
def LeadsAround (next : α → List α) (met : List α) : α → α → Prop :=
  ReflTransGen fun vertex other => other ∈ next vertex ∧ other ∉ met

variable {next : α → List α} {met wider starts rest first listed front back : List α}
  {start vertex other : α}

theorem LeadsAround.mono (leads : LeadsAround next wider vertex other)
    (within : ∀ seen ∈ met, seen ∈ wider) : LeadsAround next met vertex other :=
  ReflTransGen.mono (fun _ _ step => ⟨step.1, fun seen => step.2 (within _ seen)⟩) _ _ leads

namespace DepthFirst

/-- No two lists come of the same starts. -/
theorem unique (this : DepthFirst next met starts listed)
    (that : DepthFirst next met starts first) : listed = first := by
  induction this generalizing first with
  | done => cases that; rfl
  | known seen _ ih =>
    cases that with
    | known _ others => exact ih others
    | fresh unseen => exact absurd seen unseen
  | fresh unseen _ _ ih ih' =>
    cases that with
    | known seen => exact absurd seen unseen
    | fresh _ beyond others =>
      obtain rfl := ih beyond
      obtain rfl := ih' others
      rfl

/-- To list from several starts is to list from the first and then from the others. -/
theorem cons (head : DepthFirst next met [start] first)
    (others : DepthFirst next (met ++ first) rest listed) :
    DepthFirst next met (start :: rest) (first ++ listed) := by
  cases head with
  | known seen none =>
    cases none
    rw [List.append_nil] at others
    exact .known seen others
  | fresh unseen beyond none =>
    cases none
    rw [List.append_nil] at others ⊢
    exact .fresh unseen beyond others

/-- The list depends only on what comes right after the vertices in it. -/
theorem congr {next' : α → List α} (this : DepthFirst next met starts listed)
    (same : ∀ vertex ∈ listed, next vertex = next' vertex) :
    DepthFirst next' met starts listed := by
  induction this with
  | done => exact .done
  | known seen _ ih => exact .known seen (ih same)
  | fresh unseen _ _ ih ih' =>
    have beyond := ih fun vertex inner => same vertex (by simp [inner])
    rw [same _ (by simp)] at beyond
    exact .fresh unseen beyond (ih' fun vertex later => same vertex (by simp [later]))

/-- Nothing is listed twice, and nothing that was met. -/
theorem once (this : DepthFirst next met starts listed) :
    listed.Nodup ∧ ∀ vertex ∈ listed, vertex ∉ met := by
  induction this with
  | done => simp
  | known _ _ ih => exact ih
  | fresh unseen _ _ ih ih' =>
    obtain ⟨once, new⟩ := ih
    obtain ⟨once', new'⟩ := ih'
    simp only [List.mem_append, List.mem_cons, List.not_mem_nil, or_false, not_or] at new new'
    refine ⟨List.nodup_append'.2 ⟨List.nodup_cons.2 ⟨?_, once⟩, once', ?_⟩, ?_⟩
    · exact fun again => (new _ again).2 rfl
    · intro vertex early late
      rw [List.mem_cons] at early
      exact early.elim (new' _ late).2.1 (new' _ late).2.2
    · intro vertex member
      rcases List.mem_append.1 member with early | late
      · rcases List.mem_cons.1 early with rfl | inner
        · exact unseen
        · exact (new _ inner).1
      · exact (new' _ late).1

/-- What is listed lies beyond a start, along vertices that were not met. -/
theorem leads (this : DepthFirst next met starts listed) (member : vertex ∈ listed) :
    ∃ start ∈ starts, start ∉ met ∧ LeadsAround next met start vertex := by
  induction this with
  | done => simp at member
  | known _ _ ih =>
    obtain ⟨start, among, unseen, leads⟩ := ih member
    exact ⟨start, List.mem_cons_of_mem _ among, unseen, leads⟩
  | @fresh met head rest inner listed unseen _ _ ih ih' =>
    rcases List.mem_append.1 member with early | late
    · refine ⟨head, List.mem_cons_self, unseen, ?_⟩
      rcases List.mem_cons.1 early with rfl | inner
      · exact .refl
      · obtain ⟨second, among, unseen', leads⟩ := ih inner
        have within : ∀ seen ∈ met, seen ∈ met ++ [head] := by simp +contextual
        exact .head ⟨among, fun seen => unseen' (within _ seen)⟩ (leads.mono within)
    · obtain ⟨start, among, unseen', leads⟩ := ih' late
      have within : ∀ seen ∈ met, seen ∈ met ++ head :: inner := by simp +contextual
      exact ⟨start, List.mem_cons_of_mem _ among, fun seen => unseen' (within _ seen),
        leads.mono within⟩

/-- Every start was met or is listed. -/
theorem starts_mem (this : DepthFirst next met starts listed) (among : start ∈ starts) :
    start ∈ met ∨ start ∈ listed := by
  induction this with
  | done => simp at among
  | known seen _ ih =>
    rcases List.mem_cons.1 among with rfl | among
    · exact .inl seen
    · exact ih among
  | fresh _ _ _ _ ih' =>
    rcases List.mem_cons.1 among with rfl | among
    · simp
    · have found := ih' among
      simp only [List.mem_append, List.mem_cons] at found ⊢
      tauto

/-- What comes right after a listed vertex was met or is listed too. -/
theorem closed (this : DepthFirst next met starts listed) (member : vertex ∈ listed)
    (step : other ∈ next vertex) : other ∈ met ∨ other ∈ listed := by
  induction this with
  | done => simp at member
  | known _ _ ih => exact ih member
  | fresh _ beyond _ ih ih' =>
    rcases List.mem_append.1 member with early | late
    · have found := (List.mem_cons.1 early).elim (fun same => beyond.starts_mem (same ▸ step)) ih
      simp only [List.mem_append, List.mem_cons, List.not_mem_nil, or_false] at found ⊢
      tauto
    · have found := ih' late
      simp only [List.mem_append, List.mem_cons] at found ⊢
      tauto

/-- Exactly what lies beyond the starts, along vertices that were not met, is listed. -/
theorem mem_iff (this : DepthFirst next met starts listed) :
    vertex ∈ listed ↔ ∃ start ∈ starts, start ∉ met ∧ LeadsAround next met start vertex := by
  refine ⟨this.leads, ?_⟩
  rintro ⟨start, among, unseen, path⟩
  induction path with
  | refl => exact (this.starts_mem among).resolve_left unseen
  | tail _ step ih => exact (this.closed ih step.1).resolve_left step.2

/-- A vertex that was not met is listed first, and then what lies beyond it. -/
theorem head (this : DepthFirst next met [start] listed) (unseen : start ∉ met) :
    ∃ inner, listed = start :: inner ∧ DepthFirst next (met ++ [start]) (next start) inner := by
  cases this with
  | known seen => exact absurd seen unseen
  | fresh _ beyond none =>
    cases none
    exact ⟨_, List.append_nil _, beyond⟩

/-- After each listed vertex comes what lies beyond it and is not listed yet, before anything
else. -/
theorem block (this : DepthFirst next met starts listed)
    (place : listed = front ++ vertex :: back) :
    ∃ inner others, back = inner ++ others ∧
      DepthFirst next (met ++ front) [vertex] (vertex :: inner) := by
  induction this generalizing front back with
  | done => simp at place
  | known _ _ ih => exact ih place
  | @fresh met head rest beyond listed unseen under others ih ih' =>
    cases front with
    | nil =>
      simp only [List.nil_append, List.cons_append, List.cons.injEq] at place
      obtain ⟨rfl, rfl⟩ := place
      have alone := DepthFirst.fresh unseen under .done
      rw [List.append_nil] at alone ⊢
      exact ⟨beyond, listed, rfl, alone⟩
    | cons first front =>
      simp only [List.cons_append, List.cons.injEq] at place
      obtain ⟨rfl, place⟩ := place
      rcases List.append_eq_append_iff.1 place with ⟨middle, rfl, later⟩ | ⟨middle, here, later⟩
      · obtain ⟨inner, others, rfl, block⟩ := ih' later
        exact ⟨inner, others, rfl, by simpa using block⟩
      · cases middle with
        | nil =>
          have later : listed = [] ++ vertex :: back := later.symm
          obtain ⟨inner, others, rfl, block⟩ := ih' later
          rw [List.append_nil] at here
          subst here
          exact ⟨inner, others, rfl, by simpa using block⟩
        | cons found middle =>
          obtain ⟨rfl, rfl⟩ : vertex = found ∧ back = middle ++ listed := by simpa using later
          obtain ⟨inner, others, rfl, block⟩ := ih here
          exact ⟨inner, others ++ listed, by simp, by simpa using block⟩

end DepthFirst

end FrontEnd
