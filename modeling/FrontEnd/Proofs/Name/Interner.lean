import FrontEnd.Name.Interner
import Mathlib.Algebra.BigOperators.Fin
import Mathlib.Algebra.Order.BigOperators.Group.Finset
import Mathlib.Data.List.FinRange
import Mathlib.Data.List.Nodup

/-!
The interner as a table of names. However it is used, texts and names stand for each other: a text
has at most one name, a name at most one text, and both keep each other forever. A text gets no name
only if its shard is full, and then nothing changes.
-/

namespace FrontEnd

/-! ### One shard -/

namespace Shard

variable {shard : Shard} {text : String}

/-- The texts by slot and the slots by text say the same. -/
structure Sound (shard : Shard) : Prop where
  exact : ∀ (text : String) (slot : Fin 8192),
    shard.get? text = some slot ↔ shard.texts[slot.val]? = some text
  room : shard.texts.size ≤ 8192

theorem sound_empty : Sound {} where
  exact text slot := by simp [get?]
  room := Nat.zero_le _

/-- A new text in the next slot is found there, and everything else is found where it was. -/
theorem Sound.push (sound : shard.Sound) (absent : shard.get? text = none)
    (room : shard.texts.size < 8192) : (shard.push text ⟨shard.texts.size, room⟩).Sound where
  exact other slot := by
    have stored : (shard.push text ⟨shard.texts.size, room⟩).get? other =
        if text = other then some ⟨shard.texts.size, room⟩ else shard.get? other := by
      simp [get?, Shard.push, Std.HashMap.getElem?_insert]
    rw [stored, Shard.push, Array.getElem?_push]
    by_cases same : text = other
    · subst same
      rw [if_pos rfl]
      by_cases last : slot.val = shard.texts.size
      · simp [last, Fin.ext_iff]
      · have unfound : shard.texts[slot.val]? ≠ some text := fun found => by
          rw [(sound.exact text slot).2 found] at absent
          cases absent
        simp [last, Fin.ext_iff, Ne.symm last, unfound]
    · rw [if_neg same, sound.exact]
      by_cases last : slot.val = shard.texts.size
      · simp [last, same]
      · rw [if_neg last]
  room := by
    simp only [Shard.push, Array.size_push]
    omega

theorem Sound.mem_texts (sound : shard.Sound) :
    text ∈ shard.texts.toList ↔ (shard.get? text).isSome := by
  rw [Array.mem_toList_iff, Array.mem_iff_getElem?, Option.isSome_iff_exists]
  constructor
  · rintro ⟨place, found⟩
    obtain ⟨below, -⟩ := Array.getElem?_eq_some_iff.1 found
    exact ⟨⟨place, Nat.lt_of_lt_of_le below sound.room⟩, (sound.exact text _).2 found⟩
  · rintro ⟨slot, found⟩
    exact ⟨slot.val, (sound.exact text slot).1 found⟩

/-- No text stands in two slots. -/
theorem Sound.nodup_texts (sound : shard.Sound) : shard.texts.toList.Nodup := by
  rw [List.nodup_iff_injective_getElem]
  rintro ⟨first, below⟩ ⟨second, below'⟩ same
  have room := sound.room
  rw [Array.length_toList] at below below'
  have slotOf : ∀ place (below : place < shard.texts.size),
      shard.get? shard.texts[place] = some ⟨place, Nat.lt_of_lt_of_le below room⟩ :=
    fun place below => (sound.exact _ _).2 (Array.getElem?_eq_getElem below)
  have equal : shard.texts[first] = shard.texts[second] := by simpa using same
  have found := slotOf first below
  rw [equal, slotOf second below'] at found
  simpa [Fin.ext_iff, eq_comm] using found

end Shard

/-! ### The whole table -/

namespace Interner

variable {names : Interner} {text other : String} {name : Name}

/-- The texts of a shard, by slot. -/
def heldBy (names : Interner) (shard : Fin 8) : List String := names.shards[shard].texts.toList

/-- All texts of the table, shard by shard. -/
def held (names : Interner) : List String := (List.finRange 8).flatMap names.heldBy

/-- Every shard is sound and holds only texts that belong to it, and the count is right. -/
structure Sound (names : Interner) : Prop where
  shard : ∀ shard : Fin 8, names.shards[shard].Sound
  own : ∀ (shard : Fin 8) (text : String), text ∈ names.heldBy shard → shardOf text = shard
  count : names.count = names.held.length

theorem length_held (names : Interner) :
    names.held.length = ∑ shard : Fin 8, (names.heldBy shard).length := by
  rw [held, List.length_flatMap, ← List.ofFn_id, List.map_ofFn, List.sum_ofFn]
  rfl

theorem sound_bare : bare.Sound where
  shard shard := by simpa [bare] using Shard.sound_empty
  own shard text member := by simp [heldBy, bare] at member
  count := by simp [length_held, heldBy, bare]

theorem shards_push (names : Interner) (text : String) (slot : Fin 8192) (shard : Fin 8) :
    (names.push text slot).shards[shard] =
      if shardOf text = shard then names.shards[shard].push text slot else names.shards[shard] := by
  simp only [Interner.push, Fin.getElem_fin, Vector.getElem_mk, Array.getElem_modify, Fin.ext_iff]
  rfl

theorem Sound.push (sound : names.Sound) (absent : names.get? text = none)
    (room : (names.shards.get (shardOf text)).texts.size < 8192) :
    (names.push text ⟨(names.shards.get (shardOf text)).texts.size, room⟩).Sound where
  shard shard := by
    rw [shards_push]
    split
    · rename_i same
      subst same
      exact (sound.shard _).push (by simpa [Interner.get?] using absent) room
    · exact sound.shard shard
  own shard other member := by
    rw [heldBy, shards_push] at member
    split at member
    · rename_i same
      rw [Shard.push, Array.toList_push, List.mem_append, List.mem_singleton] at member
      rcases member with early | rfl
      · exact sound.own shard other early
      · exact same
    · exact sound.own shard other member
  count := by
    have longer : ∀ shard, ((names.push text ⟨_, room⟩).heldBy shard).length =
        (names.heldBy shard).length + if shardOf text = shard then 1 else 0 := by
      intro shard
      rw [heldBy, shards_push, heldBy]
      split <;> simp [Shard.push]
    rw [length_held]
    simp only [longer, Finset.sum_add_distrib, Finset.sum_ite_eq, Finset.mem_univ, if_true,
      ← length_held, ← sound.count]
    rfl

/-! ### Names and texts -/

/-- A text has a name exactly if the name has the text. -/
theorem Sound.get?_eq_some_iff (sound : names.Sound) :
    names.get? text = some name ↔ names.text? name = some text := by
  rw [Interner.get?, Option.map_eq_some_iff, text?]
  constructor
  · rintro ⟨slot, found, rfl⟩
    exact ((sound.shard _).exact text slot).1 found
  · intro found
    obtain ⟨shard, slot⟩ := name
    have listed : text ∈ names.heldBy shard :=
      Array.mem_toList_iff.2 (Array.mem_of_getElem? found)
    obtain rfl := sound.own shard text listed
    exact ⟨slot, ((sound.shard _).exact text slot).2 found, rfl⟩

theorem Sound.mem_heldBy (sound : names.Sound) {shard : Fin 8} :
    text ∈ names.heldBy shard ↔ shardOf text = shard ∧ (names.get? text).isSome := by
  rw [Interner.get?, Option.isSome_map]
  constructor
  · intro listed
    obtain rfl := sound.own shard text listed
    exact ⟨rfl, (sound.shard _).mem_texts.1 listed⟩
  · rintro ⟨rfl, present⟩
    exact (sound.shard _).mem_texts.2 present

theorem Sound.mem_held (sound : names.Sound) : text ∈ names.held ↔ (names.get? text).isSome := by
  simp only [held, List.mem_flatMap, List.mem_finRange, true_and, sound.mem_heldBy]
  exact ⟨fun ⟨_, _, present⟩ => present, fun present => ⟨_, rfl, present⟩⟩

theorem Sound.nodup_held (sound : names.Sound) : names.held.Nodup := by
  rw [held, List.nodup_flatMap]
  refine ⟨fun shard _ => (sound.shard shard).nodup_texts, ?_⟩
  refine (List.nodup_finRange 8).pairwise_of_forall_ne fun first _ second _ different => ?_
  intro text early late
  exact different ((sound.own first text early).symm.trans (sound.own second text late))

/-! ### Interning -/

/-- Interning a text finds its name, gives it the next slot of its shard, or finds the shard full. -/
theorem intern_cases (names : Interner) (text : String) :
    (∃ name, names.get? text = some name ∧ names.intern text = (.ok name, names)) ∨
    (∃ room : (names.shards.get (shardOf text)).texts.size < 8192, names.get? text = none ∧
      names.intern text = (.ok ⟨shardOf text, _, room⟩, names.push text ⟨_, room⟩)) ∨
    (8192 ≤ (names.heldBy (shardOf text)).length ∧ names.get? text = none ∧
      names.intern text =
        (.error (.shardFull (shardOf text) (names.heldBy (shardOf text)).length), names)) := by
  unfold intern
  cases found : names.get? text with
  | some name => exact .inl ⟨name, rfl, rfl⟩
  | none =>
    by_cases room : names.shards[shardOf text].texts.size < 8192
    · refine .inr (.inl ⟨room, rfl, ?_⟩)
      simp only [dif_pos room]
      rfl
    · refine .inr (.inr ⟨Nat.le_of_not_lt room, rfl, ?_⟩)
      simp only [dif_neg room]
      rfl

theorem Sound.intern (sound : names.Sound) (text : String) : (names.intern text).2.Sound := by
  rcases names.intern_cases text with ⟨name, -, ran⟩ | ⟨room, absent, ran⟩ | ⟨-, -, ran⟩ <;> rw [ran]
  · exact sound
  · exact sound.push absent room
  · exact sound

/-- Interning leaves every name its text. -/
theorem text?_intern (known : names.text? name = some text) (other : String) :
    (names.intern other).2.text? name = some text := by
  rcases names.intern_cases other with ⟨_, -, ran⟩ | ⟨room, -, ran⟩ | ⟨-, -, ran⟩ <;> rw [ran]
  · exact known
  · rw [text?, shards_push]
    split
    · have below := (Array.getElem?_eq_some_iff.1 known).1
      rw [Shard.push, Array.getElem?_push_lt below]
      exact (Array.getElem?_eq_getElem below).symm.trans known
    · exact known
  · exact known

/-- An interned text has the name that was given. -/
theorem get?_intern (sound : names.Sound) (given : (names.intern text).1 = .ok name) :
    (names.intern text).2.get? text = some name := by
  rcases names.intern_cases text with ⟨known, found, ran⟩ | ⟨room, -, ran⟩ | ⟨-, -, ran⟩ <;>
    rw [ran] at given
  · cases given
    rw [ran]
    exact found
  · rw [(sound.intern text).get?_eq_some_iff, ran]
    cases given
    rw [text?, shards_push, if_pos rfl, Shard.push]
    exact Array.getElem?_push_size
  · cases given

/-- Only the interned text becomes known. -/
theorem isSome_get?_intern (sound : names.Sound) (other : String) :
    ((names.intern text).2.get? other).isSome ↔ (names.get? other).isSome ∨
      (other = text ∧ ∃ name, (names.intern text).1 = .ok name) := by
  rcases names.intern_cases text with ⟨name, found, ran⟩ | ⟨room, absent, ran⟩ | ⟨-, absent, ran⟩
  · rw [ran]
    refine ⟨.inl, ?_⟩
    rintro (known | ⟨rfl, -⟩)
    · exact known
    · rw [found]
      rfl
  · have sound' := sound.push absent room
    rw [ran, ← sound'.mem_held, ← sound.mem_held]
    simp only [held, List.mem_flatMap, List.mem_finRange, true_and, heldBy, shards_push]
    constructor
    · rintro ⟨shard, member⟩
      split at member
      · rw [Shard.push, Array.toList_push, List.mem_append, List.mem_singleton] at member
        exact member.imp (fun early => ⟨shard, early⟩) fun last => ⟨last, _, rfl⟩
      · exact .inl ⟨shard, member⟩
    · rintro (⟨shard, member⟩ | ⟨rfl, -⟩)
      · refine ⟨shard, ?_⟩
        split
        · rw [Shard.push, Array.toList_push]
          exact List.mem_append_left _ member
        · exact member
      · exact ⟨shardOf other, by rw [if_pos rfl, Shard.push, Array.toList_push]; simp⟩
  · rw [ran]
    exact ⟨.inl, fun either => either.elim id fun ⟨_, _, given⟩ => by cases given⟩

/-! ### Every use -/

end Interner

/-- A use of the table. -/
inductive NameRequest where
  | intern (text : String)
  | get (text : String)
  | lookup (name : Name)

/-- What a use is answered. -/
inductive NameAnswer where
  | interned (result : Except InternError Name)
  | got (name : Option Name)
  | looked (text : Option String)

/-- The answer says that the text has the name. -/
inductive NameAnswer.Tells : NameRequest → NameAnswer → String → Name → Prop where
  | interned (text : String) (name : Name) : Tells (.intern text) (.interned (.ok name)) text name
  | got (text : String) (name : Name) : Tells (.get text) (.got (some name)) text name
  | looked (name : Name) (text : String) : Tells (.lookup name) (.looked (some text)) text name

namespace Interner

variable {names : Interner} {text : String} {name : Name}

/-- The answer to one request, and the table after it. -/
def perform (names : Interner) : NameRequest → NameAnswer × Interner
  | .intern text => (names.intern text).map .interned id
  | .get text => (.got (names.get? text), names)
  | .lookup name => (.looked (names.text? name), names)

/-- The answers to requests one after the other, and the table after them. -/
def run (names : Interner) : List NameRequest → List NameAnswer × Interner
  | [] => ([], names)
  | request :: rest =>
    let (answer, next) := names.perform request
    let (answers, last) := next.run rest
    (answer :: answers, last)

/-- The table after requests one after the other. -/
def after (names : Interner) (requests : List NameRequest) : Interner := (names.run requests).2

theorem Sound.perform (sound : names.Sound) (request : NameRequest) :
    (names.perform request).2.Sound := by
  cases request with
  | intern text => exact sound.intern text
  | get text => exact sound
  | lookup name => exact sound

theorem text?_perform (known : names.text? name = some text) (request : NameRequest) :
    (names.perform request).2.text? name = some text := by
  cases request with
  | intern other => exact text?_intern known other
  | get other => exact known
  | lookup other => exact known

/-- What an answer says is so afterwards. -/
theorem Sound.tells (sound : names.Sound) {request : NameRequest}
    (tells : (names.perform request).1.Tells request text name) :
    (names.perform request).2.get? text = some name := by
  generalize answered : (names.perform request).1 = answer at tells
  cases tells with
  | interned text name => exact get?_intern sound (NameAnswer.interned.inj answered)
  | got text name => exact NameAnswer.got.inj answered
  | looked name text => exact sound.get?_eq_some_iff.2 (NameAnswer.looked.inj answered)

theorem Sound.after (sound : names.Sound) (requests : List NameRequest) :
    (names.after requests).Sound := by
  induction requests generalizing names with
  | nil => exact sound
  | cons request rest ih => exact ih (sound.perform request)

theorem text?_after (known : names.text? name = some text) (requests : List NameRequest) :
    (names.after requests).text? name = some text := by
  induction requests generalizing names with
  | nil => exact known
  | cons request rest ih => exact ih (text?_perform known request)

/-- What any of the answers says is so at the end. -/
theorem Sound.tells_after (sound : names.Sound) {requests : List NameRequest} {request : NameRequest}
    {answer : NameAnswer} (listed : (request, answer) ∈ requests.zip (names.run requests).1)
    (tells : answer.Tells request text name) : (names.after requests).text? name = some text := by
  induction requests generalizing names with
  | nil => cases listed
  | cons first rest ih =>
    rcases List.mem_cons.1 listed with same | later
    · cases same
      have sound' := sound.perform request
      exact text?_after (sound'.get?_eq_some_iff.1 (sound.tells tells)) rest
    · exact ih (sound.perform first) later

/-- The texts that are known at the end were known before, or a request to intern them was
granted. -/
theorem Sound.known_after (sound : names.Sound) (requests : List NameRequest) (text : String) :
    ((names.after requests).get? text).isSome ↔ (names.get? text).isSome ∨
      ∃ name, (.intern text, .interned (.ok name)) ∈ requests.zip (names.run requests).1 := by
  induction requests generalizing names with
  | nil => exact ⟨.inl, fun either => either.elim id fun ⟨_, listed⟩ => by cases listed⟩
  | cons request rest ih =>
    have step : ((names.perform request).2.get? text).isSome ↔ (names.get? text).isSome ∨
        ∃ name, (NameRequest.intern text, NameAnswer.interned (.ok name)) =
          (request, (names.perform request).1) := by
      cases request with
      | intern other =>
        rw [show (names.perform (.intern other)).2 = (names.intern other).2 from rfl,
          isSome_get?_intern sound]
        refine or_congr_right ⟨?_, ?_⟩
        · rintro ⟨rfl, name, given⟩
          exact ⟨name, by rw [← given]; rfl⟩
        · rintro ⟨name, same⟩
          obtain ⟨asked, given⟩ := Prod.mk.inj same
          cases asked
          exact ⟨rfl, name, (NameAnswer.interned.inj given).symm⟩
      | get other => simp [Interner.perform]
      | lookup other => simp [Interner.perform]
    refine (ih (sound.perform request)).trans ?_
    rw [step, or_assoc]
    refine or_congr_right ⟨?_, ?_⟩
    · rintro (⟨name, same⟩ | ⟨name, later⟩)
      · exact ⟨name, List.mem_cons.2 (.inl same)⟩
      · exact ⟨name, List.mem_cons.2 (.inr later)⟩
    · rintro ⟨name, listed⟩
      exact (List.mem_cons.1 listed).imp (fun same => ⟨name, same⟩) fun later => ⟨name, later⟩

/-! ### A new table -/

/-- Texts are interned one after the other as long as no more than a shard takes are there. -/
theorem Sound.intern_all (sound : names.Sound) (texts : List String)
    (few : names.count + texts.length ≤ 8192) :
    let last := texts.foldl (fun names text => (names.intern text).2) names
    last.Sound ∧ ∀ text, (last.get? text).isSome ↔ (names.get? text).isSome ∨ text ∈ texts := by
  induction texts generalizing names with
  | nil => exact ⟨sound, fun text => by simp⟩
  | cons text rest ih =>
    rw [List.length_cons] at few
    have roomy : (names.heldBy (shardOf text)).length ≤ names.count := by
      rw [sound.count, length_held]
      exact Finset.single_le_sum (f := fun shard => (names.heldBy shard).length)
        (fun _ _ => Nat.zero_le _) (Finset.mem_univ (shardOf text))
    have granted : (∃ name, (names.intern text).1 = .ok name) ∧
        (names.intern text).2.count ≤ names.count + 1 := by
      rcases names.intern_cases text with ⟨name, -, ran⟩ | ⟨room, -, ran⟩ | ⟨full, -, -⟩
      · rw [ran]
        exact ⟨⟨name, rfl⟩, Nat.le_succ _⟩
      · rw [ran]
        exact ⟨⟨_, rfl⟩, Nat.le_refl _⟩
      · omega
    obtain ⟨sound', known⟩ := ih (sound.intern text) (by omega)
    refine ⟨sound', fun other => (known other).trans ?_⟩
    rw [isSome_get?_intern sound, List.mem_cons, or_assoc]
    simp only [granted.1, and_true]

theorem sound_new : new.Sound := (sound_bare.intern_all common (by decide)).1

theorem known_new (text : String) : (new.get? text).isSome ↔ text ∈ common := by
  rw [new, (sound_bare.intern_all common (by decide)).2 text]
  simp [bare, get?, Shard.get?]

/-- The empty text has the first slot of the first shard. -/
theorem text?_new_empty : new.text? .empty = some "" := by
  have first : (bare.intern "").2.text? .empty = some "" := by
    rcases bare.intern_cases "" with ⟨name, found, -⟩ | ⟨room, -, ran⟩ | ⟨full, -, -⟩
    · simp [bare, get?, Shard.get?] at found
    · rw [ran, text?, shards_push]
      have own : shardOf "" = Name.empty.shard := by decide +kernel
      rw [if_pos own]
      simp [Shard.push, bare, Name.empty]
    · simp [heldBy, bare] at full
  have rest := text?_after first ((common.drop 1).map .intern)
  have same : ∀ (texts : List String) (names : Interner), names.after (texts.map .intern) =
      texts.foldl (fun names text => (names.intern text).2) names := by
    intro texts
    induction texts with
    | nil => exact fun _ => rfl
    | cons text rest ih => exact fun names => ih _
  rw [same] at rest
  exact rest

/-- However a new table is used, texts and names stand for each other. A text has a name exactly if
the name has the text, different texts have names of different bits, and what any answer said holds
at the end and ever after. Texts are known because they are common or were granted a name, and
asking for a name or a text makes none known. A text is refused exactly if it is new and its shard
holds 8192 texts, and nothing changes then. The empty text always has the name of all zeros, and the
size is the number of different texts. -/
theorem names_stand_for_texts (requests : List NameRequest) :
    let names := new.after requests
    (∀ text name, names.get? text = some name ↔ names.text? name = some text) ∧
    (∀ text other name name', names.get? text = some name → names.get? other = some name' →
      text ≠ other → name.raw ≠ name'.raw) ∧
    (∀ request answer text name, (request, answer) ∈ requests.zip (new.run requests).1 →
      answer.Tells request text name → names.text? name = some text) ∧
    (∀ text name, names.text? name = some text → ∀ later,
      (names.after later).text? name = some text) ∧
    (∀ text, (names.get? text).isSome ↔ text ∈ common ∨
      ∃ name, (.intern text, .interned (.ok name)) ∈ requests.zip (new.run requests).1) ∧
    (∀ text name, (names.perform (.get text)).2 = names ∧
      (names.perform (.lookup name)).2 = names) ∧
    (∀ text, (∃ err, (names.intern text).1 = .error err) ↔
      names.get? text = none ∧ (names.heldBy (shardOf text)).length = 8192) ∧
    (∀ text err, (names.intern text).1 = .error err →
      err = .shardFull (shardOf text) 8192 ∧ (names.intern text).2 = names) ∧
    (∀ shard, (names.heldBy shard).Nodup ∧ ∀ text,
      text ∈ names.heldBy shard ↔ shardOf text = shard ∧ (names.get? text).isSome) ∧
    names.get? "" = some .empty ∧ Name.empty.raw = 0 ∧
    names.size = names.held.length ∧ names.held.Nodup ∧
    ∀ text, text ∈ names.held ↔ (names.get? text).isSome := by
  intro names
  have sound : names.Sound := sound_new.after requests
  have known := sound_new.known_after requests
  have room : ∀ text, (names.heldBy (shardOf text)).length ≤ 8192 := fun text => (sound.shard _).room
  refine ⟨fun text name => sound.get?_eq_some_iff, fun text other name name' own own' different same => ?_,
    fun request answer text name listed tells => sound_new.tells_after listed tells,
    fun text name holds later => text?_after holds later,
    fun text => (known text).trans (or_congr_left (known_new text)), fun _ _ => ⟨rfl, rfl⟩,
    fun text => ?_, fun text err refused => ?_,
    fun shard => ⟨(sound.shard shard).nodup_texts, fun text => sound.mem_heldBy⟩,
    sound.get?_eq_some_iff.2 (text?_after text?_new_empty requests), rfl, sound.count,
    sound.nodup_held, fun text => sound.mem_held⟩
  · have equal : name = name' := by rw [← Name.ofRaw_raw name, same, Name.ofRaw_raw]
    subst equal
    have texts := (sound.get?_eq_some_iff.1 own).symm.trans (sound.get?_eq_some_iff.1 own')
    exact different (Option.some.inj texts)
  · rcases names.intern_cases text with
      ⟨name, found, ran⟩ | ⟨space, absent, ran⟩ | ⟨full, absent, ran⟩ <;> rw [ran]
    · simp [found]
    · have short : (names.heldBy (shardOf text)).length ≠ 8192 := Nat.ne_of_lt space
      simp [absent, short]
    · exact ⟨fun _ => ⟨absent, Nat.le_antisymm (room text) full⟩, fun _ => ⟨_, rfl⟩⟩
  · rcases names.intern_cases text with ⟨name, -, ran⟩ | ⟨space, -, ran⟩ | ⟨full, -, ran⟩ <;>
      rw [ran] at refused ⊢ <;> cases refused
    exact ⟨by rw [Nat.le_antisymm (room text) full], rfl⟩

end Interner

end FrontEnd
