import FrontEnd.Proofs.Source.Stored

/-!
The registry of sources as it is stored. Whatever is done to it, files stand at their numbers, the
table of paths gives what a search would, and no file loses what is known of it.
-/

namespace FrontEnd

/-! ### The last of its path -/

/-- In a list of descending keys, what is found first has the greatest key. -/
theorem find?_eq_some_iff_of_descending {α : Type} {key : α → Nat} {xs : List α} {holds : α → Bool}
    {x : α} (sorted : xs.Pairwise fun first second => key second < key first) :
    xs.find? holds = some x ↔
      x ∈ xs ∧ holds x = true ∧ ∀ y ∈ xs, holds y = true → key y ≤ key x := by
  induction xs with
  | nil => simp
  | cons first rest ih =>
    obtain ⟨below, sorted⟩ := List.pairwise_cons.1 sorted
    rw [List.find?_cons]
    cases fits : holds first with
    | true =>
      constructor
      · intro found
        cases found
        refine ⟨List.mem_cons_self, fits, fun y member _ => ?_⟩
        rcases List.mem_cons.1 member with rfl | member
        · exact Nat.le_refl _
        · exact Nat.le_of_lt (below y member)
      · rintro ⟨member, -, greatest⟩
        rcases List.mem_cons.1 member with rfl | member
        · rfl
        · exact absurd (greatest first List.mem_cons_self fits) (Nat.not_le.2 (below x member))
    | false =>
      refine (ih sorted).trans ⟨?_, ?_⟩
      · rintro ⟨member, here, greatest⟩
        refine ⟨List.mem_cons_of_mem _ member, here, fun y member' there => ?_⟩
        rcases List.mem_cons.1 member' with rfl | member'
        · exact absurd (fits.symm.trans there) Bool.false_ne_true
        · exact greatest y member' there
      · rintro ⟨member, here, greatest⟩
        rcases List.mem_cons.1 member with rfl | member
        · exact absurd (fits.symm.trans here) Bool.false_ne_true
        · exact ⟨member, here, fun y member' => greatest y (List.mem_cons_of_mem _ member')⟩

theorem map_modify_of_same {α β : Type} {xs : Array α} {index : Nat} {old new : α}
    (view : α → β) (stored : xs[index]? = some old) (same : view new = view old) :
    (xs.modify index fun _ => new).map view = xs.map view := by
  apply Array.ext_getElem?
  intro other
  rw [Array.getElem?_map, Array.getElem?_map, Array.getElem?_modify]
  split
  · rename_i here
    rw [← here, stored, Option.map_some, Option.map_some, Option.map_some, same]
  · rfl

namespace SourceRegistry

/-- The paths and ids of the files, the last one first. -/
def entries (registry : SourceRegistry) : List (String × SourceId) :=
  (registry.files.map fun file => (file.path, file.id)).toList.reverse

theorem findByPath?_eq (registry : SourceRegistry) (path : String) : registry.findByPath? path =
    (registry.entries.find? fun entry => Path.same entry.1 path).map Prod.snd := by
  rw [findByPath?, entries, Array.toList_map, ← List.map_reverse, List.find?_map, Option.map_map]
  rfl

end SourceRegistry

namespace SourceStore

variable {digest : String → UInt64} {store before middle after : SourceStore} {id : SourceId}
  {file : StoredFile} {path : String} {α : Type}

/-! ### Files and paths -/

theorem file_eq_ok_iff : store.file id = .ok file ↔ store.files[id.number.val]? = some file := by
  unfold SourceStore.file
  cases store.files[id.number.val]? <;> simp

theorem file_plain (store : SourceStore) (id : SourceId) :
    store.plain.file id = (store.file id).map StoredFile.plain := by
  simp only [SourceRegistry.file, SourceStore.file, plain, Array.getElem?_map]
  cases store.files[id.number.val]? <;> rfl

/-- What holds of every registry: files stand at their numbers with the digests of their texts and
the lines of their tokens, and the table of paths gives what a search would. -/
structure Sound (digest : String → UInt64) (store : SourceStore) : Prop where
  numbered : ∀ (index : Nat) file, store.files[index]? = some file → file.id.number.val = index
  digested : ∀ id file, store.file id = .ok file → file.checksum = digest file.text
  lined : ∀ id file, store.file id = .ok file → file.Lined
  placed : ∀ path, store.findByPath? path = store.plain.findByPath? path

theorem sound_empty (digest : String → UInt64) : Sound digest {} where
  numbered _ _ found := by simp at found
  digested _ _ found := by simp [file_eq_ok_iff] at found
  lined _ _ found := by simp [file_eq_ok_iff] at found
  placed path := by simp [findByPath?, SourceRegistry.findByPath?, plain]

/-- Every file is still there, and nothing that was known of it is lost. -/
def Extends (before after : SourceStore) : Prop :=
  ∀ id file, before.file id = .ok file → ∃ later, after.file id = .ok later ∧ file.Grows later

theorem Extends.refl (store : SourceStore) : Extends store store :=
  fun _ file found => ⟨file, found, .refl file⟩

theorem Extends.trans (first : Extends before middle) (second : Extends middle after) :
    Extends before after := by
  intro id file found
  obtain ⟨next, found, grows⟩ := first id file found
  obtain ⟨last, found, grows'⟩ := second id next found
  exact ⟨last, found, grows.trans grows'⟩

theorem entries_plain (store : SourceStore) : store.plain.entries =
    (store.files.map fun file => (file.path, file.id)).toList.reverse := by
  rw [SourceRegistry.entries, plain, Array.map_map]
  rfl

theorem Sound.mem_entries (sound : store.Sound digest) : (path, id) ∈ store.plain.entries ↔
    ∃ file, store.file id = .ok file ∧ file.path = path := by
  simp only [entries_plain, List.mem_reverse, Array.mem_toList_iff, Array.mem_map, Prod.mk.injEq,
    file_eq_ok_iff]
  constructor
  · rintro ⟨file, member, rfl, rfl⟩
    obtain ⟨index, found⟩ := Array.getElem?_of_mem member
    exact ⟨file, (sound.numbered index file found).symm ▸ found, rfl⟩
  · rintro ⟨file, found, rfl⟩
    refine ⟨file, Array.mem_of_getElem? found, rfl, ?_⟩
    exact SourceId.eq_iff_val.2 (sound.numbered _ file found)

theorem Sound.descending (sound : store.Sound digest) : store.plain.entries.Pairwise
    fun first second => second.2.number.val < first.2.number.val := by
  rw [entries_plain, List.pairwise_reverse, List.pairwise_iff_getElem]
  intro first second inside inside' before
  have number (index : Nat) (within : index < store.files.size) :
      store.files[index].id.number.val = index :=
    sound.numbered index _ (Array.getElem?_eq_getElem within)
  simp only [Array.getElem_toList, Array.getElem_map]
  rw [number, number]
  exact before

/-- A path leads to the greatest id of a file whose path has the same components. -/
theorem Sound.findByPath?_eq_some (sound : store.Sound digest) :
    store.findByPath? path = some id ↔
      (∃ file, store.file id = .ok file ∧ Path.components file.path = Path.components path) ∧
        ∀ other file, store.file other = .ok file →
          Path.components file.path = Path.components path → other.number ≤ id.number := by
  rw [sound.placed, SourceRegistry.findByPath?_eq, Option.map_eq_some_iff]
  simp only [find?_eq_some_iff_of_descending sound.descending, Path.same, beq_iff_eq]
  constructor
  · rintro ⟨⟨own, _⟩, ⟨member, here, greatest⟩, rfl⟩
    obtain ⟨file, found, rfl⟩ := sound.mem_entries.1 member
    refine ⟨⟨file, found, here⟩, fun other file found there => ?_⟩
    exact greatest (file.path, other) (sound.mem_entries.2 ⟨file, found, rfl⟩) there
  · rintro ⟨⟨file, found, here⟩, greatest⟩
    refine ⟨(file.path, id), ⟨sound.mem_entries.2 ⟨file, found, rfl⟩, here, ?_⟩, rfl⟩
    rintro ⟨own, other⟩ member there
    obtain ⟨file, found, rfl⟩ := sound.mem_entries.1 member
    exact greatest other file found there

theorem Sound.findByPath?_eq_none (sound : store.Sound digest) :
    store.findByPath? path = none ↔
      ∀ id file, store.file id = .ok file → Path.components file.path ≠ Path.components path := by
  rw [sound.placed, SourceRegistry.findByPath?_eq, Option.map_eq_none_iff, List.find?_eq_none]
  simp only [Path.same, beq_iff_eq]
  constructor
  · intro none id file found
    exact none (file.path, id) (sound.mem_entries.2 ⟨file, found, rfl⟩)
  · rintro none ⟨own, id⟩ member
    obtain ⟨file, found, rfl⟩ := sound.mem_entries.1 member
    exact none id file found

/-! ### Registering -/

theorem size_le (sound : store.Sound digest) : store.files.size ≤ 65536 := by
  refine Nat.le_of_not_lt fun more => ?_
  have last := sound.numbered 65536 _ (Array.getElem?_eq_getElem more)
  exact absurd (last ▸ store.files[65536].id.number.isLt) (Nat.lt_irrefl _)

theorem add_of_full (full : 65536 ≤ store.files.size) (input : SourceInput) :
    store.add digest input = (.error .idsExhausted, store) := by
  simp only [add, SourceId.ofNat?, dif_neg (Nat.not_lt.2 full)]

theorem add_of_room (room : store.files.size < 65536) (input : SourceInput) :
    store.add digest input = (.ok ⟨store.files.size, room⟩, {
      files := store.files.push (.ofInput digest ⟨store.files.size, room⟩ input)
      byPath := store.byPath.insert ⟨input.path⟩ ⟨store.files.size, room⟩ }) := by
  simp only [add, SourceId.ofNat?, dif_pos room]

theorem add_plain (digest : String → UInt64) (store : SourceStore) (input : SourceInput) :
    (store.add digest input).1 = (store.plain.add input).1 ∧
      (store.add digest input).2.plain = (store.plain.add input).2 := by
  have size : store.plain.size = store.files.size := Array.size_map
  unfold SourceRegistry.add SourceRegistry.nextId SourceStore.add
  rw [size]
  cases SourceId.ofNat? store.files.size with
  | none => exact ⟨rfl, rfl⟩
  | some id => exact ⟨rfl, congrArg SourceRegistry.mk Array.map_push⟩

theorem lt_size (found : store.file id = .ok file) : id.number.val < store.files.size :=
  (Array.getElem?_eq_some_iff.1 (file_eq_ok_iff.1 found)).1

/-- The new file is found under the next id, and the others where they were. -/
theorem file_add (room : store.files.size < 65536) (input : SourceInput) {other : SourceId} :
    (store.add digest input).2.file other = .ok file ↔
      other = ⟨store.files.size, room⟩ ∧ file = .ofInput digest other input ∨
        store.file other = .ok file := by
  rw [add_of_room room, file_eq_ok_iff, file_eq_ok_iff, Array.getElem?_push]
  have last : other = ⟨store.files.size, room⟩ ↔ other.number.val = store.files.size :=
    SourceId.eq_iff_val
  by_cases here : other.number.val = store.files.size
  · have same := last.2 here
    simp [same, eq_comm]
  · simp [last, here]

/-- The path of the new file leads to it from then on. -/
theorem findByPath?_add (room : store.files.size < 65536) (input : SourceInput) (path : String) :
    (store.add digest input).2.findByPath? path =
      if Path.same input.path path then some ⟨store.files.size, room⟩
      else store.findByPath? path := by
  rw [add_of_room room]
  simp only [findByPath?, Std.HashMap.getElem?_insert]
  rfl

theorem entries_add (room : store.files.size < 65536) (input : SourceInput) :
    (store.add digest input).2.plain.entries =
      (input.path, ⟨store.files.size, room⟩) :: store.plain.entries := by
  rw [add_of_room room, entries_plain, entries_plain, Array.map_push, Array.toList_push,
    List.reverse_append]
  rfl

theorem Sound.add (sound : store.Sound digest) (input : SourceInput) :
    (store.add digest input).2.Sound digest ∧ Extends store (store.add digest input).2 := by
  by_cases room : store.files.size < 65536
  · refine ⟨?_, fun id file found => ⟨file, (file_add room input).2 (.inr found), .refl file⟩⟩
    constructor
    case numbered =>
      intro index file found
      rw [add_of_room room, Array.getElem?_push] at found
      split at found
      · rename_i last
        cases found
        exact last.symm
      · exact sound.numbered index file found
    case digested =>
      intro id file found
      rcases (file_add room input).1 found with ⟨-, rfl⟩ | found
      · rfl
      · exact sound.digested id file found
    case lined =>
      intro id file found
      rcases (file_add room input).1 found with ⟨-, rfl⟩ | found
      · exact fun starts known => by cases known
      · exact sound.lined id file found
    case placed =>
      intro path
      rw [findByPath?_add room, SourceRegistry.findByPath?_eq, entries_add room, List.find?_cons,
        sound.placed, SourceRegistry.findByPath?_eq]
      cases Path.same input.path path <;> rfl
  · rw [add_of_full (Nat.not_lt.1 room)]
    exact ⟨sound, .refl store⟩

/-! ### Looking into a file -/

theorem visit_of_file {steps : FileM α} (found : store.file id = .ok file) :
    store.visit id steps = ((outcome steps file).1, { store with
      files := store.files.modify id.number.val fun _ => (outcome steps file).2 }) := by
  simp only [visit, found]
  rfl

theorem visit_of_none {steps : FileM α} {err : SourceError} (absent : store.file id = .error err) :
    store.visit id steps = (.error err, store) := by
  simp only [visit, absent]

/-- The registry in which a file has grown. -/
def grown (store : SourceStore) (id : SourceId) (later : StoredFile) : SourceStore :=
  { store with files := store.files.modify id.number.val fun _ => later }

theorem file_grown {later : StoredFile} (found : store.file id = .ok file) (other : SourceId) :
    (store.grown id later).file other = if other = id then .ok later else store.file other := by
  have here : id.number.val = other.number.val ↔ other = id := by
    rw [eq_comm, SourceId.eq_iff_val]
  have stored := file_eq_ok_iff.1 found
  simp only [SourceStore.file, grown, Array.getElem?_modify, here]
  by_cases same : other = id
  · subst same
    simp [stored]
  · simp [same]

/-- A file may grow while the registry stays sound. -/
theorem Sound.grown {later : StoredFile} (sound : store.Sound digest)
    (found : store.file id = .ok file) (grows : file.Grows later) (lined : later.Lined) :
    (store.grown id later).Sound digest ∧ Extends store (store.grown id later) := by
  have same_id : later.id = file.id := by rw [grows.same]
  have same_path : later.path = file.path := by rw [grows.same]
  have stored := file_eq_ok_iff.1 found
  constructor
  · constructor
    case numbered =>
      intro index other there
      simp only [SourceStore.grown, Array.getElem?_modify] at there
      split at there
      · rename_i here
        rw [← here, stored] at there
        cases there
        rw [same_id, sound.numbered _ file stored, here]
      · exact sound.numbered index other there
    case digested =>
      intro other known there
      rw [file_grown found] at there
      split at there
      · cases there
        rw [grows.same]
        exact sound.digested id file found
      · exact sound.digested other known there
    case lined =>
      intro other known there
      rw [file_grown found] at there
      split at there
      · cases there
        exact lined
      · exact sound.lined other known there
    case placed =>
      intro path
      have entries : (store.grown id later).plain.entries = store.plain.entries := by
        rw [entries_plain, entries_plain, SourceStore.grown]
        exact congrArg (List.reverse ∘ Array.toList)
          (map_modify_of_same _ stored (Prod.ext same_path same_id))
      rw [SourceRegistry.findByPath?_eq, entries, ← SourceRegistry.findByPath?_eq]
      exact sound.placed path
  · intro other known there
    rw [file_grown found]
    split
    · rename_i same
      subst same
      cases found.symm.trans there
      exact ⟨later, rfl, grows⟩
    · exact ⟨known, there, .refl known⟩

theorem put_plain (later : StoredFile) (same : later.id = id) :
    store.plain.put later.plain = (store.grown id later).plain := by
  rw [SourceRegistry.put, plain, plain, grown]
  refine congrArg SourceRegistry.mk (Array.ext_getElem? fun index => ?_)
  rw [Array.getElem?_modify, Array.getElem?_map, Array.getElem?_map, Array.getElem?_modify]
  change (if later.id.number.val = index then _ else _) = _
  rw [same]
  split <;> cases store.files[index]? <;> rfl

/-- Nothing changes where a file stays what it is. -/
theorem grown_self (found : store.file id = .ok file) : store.grown id file = store := by
  have same := map_modify_of_same (fun file => file) (file_eq_ok_iff.1 found) rfl
  simp only [Array.map_id'] at same
  rw [grown, same]

/-- The lexer is asked only for a file without tokens, and what it gives is kept. One that fails
changes nothing. -/
theorem visit_tokensWith (found : store.file id = .ok file) (lexer : Lexer) (names : Interner) :
    store.visit id (StoredFile.tokensWith lexer names) =
      match file.tokens with
      | some stream => (.ok (.ok stream, names), store)
      | none => match lexer.lex names file.text with
        | (.error errs, names) => (.ok (.error errs, names), store)
        | (.ok stream, names) =>
          (.ok (.ok stream, names), store.grown id { file with tokens := some stream }) := by
  rw [visit_of_file found, StoredFile.outcome_tokensWith]
  have self := grown_self found
  cases file.tokens with
  | some stream => exact congrArg (Prod.mk _) self
  | none =>
    rcases lexer.lex names file.text with ⟨errs | stream, after⟩
    · exact congrArg (Prod.mk _) self
    · rfl

theorem Sound.id_eq (sound : store.Sound digest) (found : store.file id = .ok file) :
    file.id = id :=
  SourceId.eq_iff_val.2 (sound.numbered _ file (file_eq_ok_iff.1 found))

theorem lexWith_plain (file : StoredFile) (lexer : Lexer) (names : Interner) :
    file.plain.lexWith lexer names =
      match file.tokens with
      | some stream => (.ok (.ofStream stream, file.plain), names)
      | none => match lexer.lex names file.text with
        | (.error errs, names) => (.error errs, names)
        | (.ok stream, names) =>
          (.ok (.ofStream stream, { file with tokens := some stream }.plain), names) := by
  obtain ⟨_, _, _, _, _, tokens, _⟩ := file
  cases tokens <;> rfl

/-- A file without tokens has no lines either, so that it may be given any tokens. -/
theorem lexed_grows (stream : TokenStream) (lined : file.Lined) (unlexed : file.tokens = none) :
    file.Grows { file with tokens := some stream } ∧
      StoredFile.Lined { file with tokens := some stream } := by
  have none_known (starts : List Nat) : file.lineStarts ≠ some starts := by
    intro known
    obtain ⟨_, lexed, -⟩ := lined starts known
    rw [unlexed] at lexed
    cases lexed
  refine ⟨⟨rfl, fun other known => ?_, fun _ known => known⟩, fun starts known => ?_⟩
  · rw [unlexed] at known
    cases known
  · exact absurd known (none_known starts)

end SourceStore

end FrontEnd
