import FrontEnd.Proofs.Token.Placement
import FrontEnd.Source.Registry
import Mathlib.Logic.Relation

/-!
What a registry of sources can come to. Files are registered, with tokens or without, loaded, and
lexed on demand. Whatever happens, each file stands under its id, and the tokens of a file that has
any are those of a whole stream.
-/

namespace FrontEnd

open Relation

namespace SourceRegistry

/-- The registry does one thing. What is given as the tokens of a file, at registration or by a
lexer, is a stream. -/
inductive Step : SourceRegistry → SourceRegistry → Prop where
  | added (registry : SourceRegistry) (input : SourceInput)
      (made : ∀ stream, input.tokens = some stream → stream.Made) :
      Step registry (registry.add input).2
  | loaded (registry : SourceRegistry) (path : String)
      (contents : Except String (String × Option Nat)) :
      Step registry (registry.load path contents).2
  | lexed (registry : SourceRegistry) (id : SourceId) (file : SourceFile) (lexer : Lexer)
      (names : Interner) (given : registry.file id = .ok file)
      (made : ∀ stream after, lexer.lex names file.text = (.ok stream, after) → stream.Made) :
      Step registry (registry.lexWith file lexer names).2.1

/-- A new registry comes to a state. -/
def Reached (registry : SourceRegistry) : Prop := ReflTransGen Step {} registry

/-- What holds of a registry whatever it has done. -/
structure Sound (registry : SourceRegistry) : Prop where
  /-- Each file stands at its number. -/
  numbered : ∀ (index : Nat) file, registry.files[index]? = some file → file.id.number.val = index
  /-- The tokens of a file are those of a stream, with its lines. -/
  whole : ∀ (index : Nat) file tokens, registry.files[index]? = some file →
    file.tokens = some tokens → ∃ stream : TokenStream, stream.Made ∧ tokens = .ofStream stream

variable {registry next : SourceRegistry} {file : SourceFile} {id : SourceId}

theorem sound_empty : Sound {} := ⟨fun index file found => by simp at found,
  fun index file tokens found => by simp at found⟩

theorem Sound.push (sound : registry.Sound) (here : file.id.number.val = registry.size)
    (made : ∀ tokens, file.tokens = some tokens →
      ∃ stream : TokenStream, stream.Made ∧ tokens = .ofStream stream) :
    (registry.push file).Sound := by
  have last (index : Nat) (other : SourceFile)
      (found : (registry.push file).files[index]? = some other) :
      index = registry.size ∧ other = file ∨ registry.files[index]? = some other := by
    rw [SourceRegistry.push, Array.getElem?_push] at found
    split at found
    · exact .inl ⟨‹_›, (Option.some.inj found).symm⟩
    · exact .inr found
  constructor
  · intro index other found
    rcases last index other found with ⟨rfl, rfl⟩ | found
    · exact here
    · exact sound.numbered index other found
  · intro index other tokens found lexed
    rcases last index other found with ⟨rfl, rfl⟩ | found
    · exact made tokens lexed
    · exact sound.whole index other tokens found lexed

theorem Sound.add (sound : registry.Sound) (input : SourceInput)
    (made : ∀ stream, input.tokens = some stream → stream.Made) : (registry.add input).2.Sound := by
  unfold SourceRegistry.add
  cases given : registry.nextId with
  | error err => exact sound
  | ok id =>
    have number : id.number.val = registry.size := by
      unfold nextId SourceId.ofNat? at given
      by_cases small : registry.size < 65536
      · rw [dif_pos small] at given
        cases given
        rfl
      · rw [dif_neg small] at given
        cases given
    refine sound.push number fun tokens lexed => ?_
    obtain ⟨stream, given, rfl⟩ := Option.map_eq_some_iff.1 lexed
    exact ⟨stream, made stream given, rfl⟩

/-- What is found under an id stands at its number. -/
theorem file_eq_ok_iff : registry.file id = .ok file ↔
    registry.files[id.number.val]? = some file := by
  unfold SourceRegistry.file
  cases registry.files[id.number.val]? <;> simp

theorem Sound.put {later : SourceFile} (sound : registry.Sound)
    (given : registry.file id = .ok file) (same : later.id = file.id)
    (made : ∀ tokens, later.tokens = some tokens →
      ∃ stream : TokenStream, stream.Made ∧ tokens = .ofStream stream) :
    (registry.put later).Sound := by
  have here := file_eq_ok_iff.1 given
  have number := sound.numbered _ _ here
  have replaced (index : Nat) (other : SourceFile)
      (found : (registry.put later).files[index]? = some other) :
      index = id.number.val ∧ other = later ∨ registry.files[index]? = some other := by
    rw [SourceRegistry.put, Array.getElem?_modify, same, number] at found
    split at found
    · rename_i at_
      rw [← at_, here] at found
      exact .inl ⟨at_.symm, (Option.some.inj found).symm⟩
    · exact .inr found
  constructor
  · intro index other found
    rcases replaced index other found with ⟨rfl, rfl⟩ | found
    · rw [same, number]
    · exact sound.numbered index other found
  · intro index other tokens found lexed
    rcases replaced index other found with ⟨rfl, rfl⟩ | found
    · exact made tokens lexed
    · exact sound.whole index other tokens found lexed

theorem Sound.lexWith (sound : registry.Sound) (lexer : Lexer) (names : Interner)
    (given : registry.file id = .ok file)
    (made : ∀ stream after, lexer.lex names file.text = (.ok stream, after) → stream.Made) :
    (registry.lexWith file lexer names).2.1.Sound := by
  unfold SourceRegistry.lexWith SourceFile.lexWith
  cases known : file.tokens with
  | some tokens =>
    exact sound.put given rfl fun tokens lexed =>
      sound.whole _ file tokens (file_eq_ok_iff.1 given) lexed
  | none =>
    rcases ran : lexer.lex names file.text with ⟨_ | stream, after⟩
    · exact sound
    · refine sound.put given rfl fun tokens lexed => ?_
      cases lexed
      exact ⟨stream, made stream after ran, rfl⟩

/-- Whatever the registry does keeps it sound. -/
theorem Sound.step (sound : registry.Sound) (step : Step registry next) : next.Sound := by
  cases step with
  | added input made => exact sound.add input made
  | loaded path contents =>
    unfold SourceRegistry.load
    split
    · exact sound.add _ fun stream none => by cases none
    · exact sound
  | lexed id file lexer names given made => exact sound.lexWith lexer names given made

theorem Reached.sound (reached : registry.Reached) : registry.Sound := by
  induction reached with
  | refl => exact sound_empty
  | tail _ step ih => exact ih.step step

/-- The tokens of a file that was lexed are those of a stream that holds some tokens. -/
theorem Reached.holds {tokens : LexedText} (reached : registry.Reached)
    (given : registry.file id = .ok file) (lexed : file.tokens = some tokens) :
    file.id = id ∧ ∃ (stream : TokenStream) (listed : List Token),
      tokens = .ofStream stream ∧ stream.Holds listed := by
  have here := file_eq_ok_iff.1 given
  obtain ⟨stream, made, rfl⟩ := reached.sound.whole _ file tokens here lexed
  obtain ⟨listed, holds⟩ := made.holds
  refine ⟨?_, stream, listed, rfl, holds⟩
  have number := Fin.ext (reached.sound.numbered _ file here)
  cases file_id : file.id
  cases id
  rw [file_id] at number
  exact congrArg SourceId.mk number

end SourceRegistry

end FrontEnd
