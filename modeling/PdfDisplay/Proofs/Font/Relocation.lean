import PdfDisplay.Font.Resolution
import PdfDisplay.Proofs.Object.Dictionaries
import PdfDisplay.Proofs.Store.Comparison

/-!
# Values in objects of their own

A value of a dictionary may be written where it stands, or as an object of its own to which the
dictionary refers. `Relocation` is a value with a new object that takes it up. What two documents
hold of which the second one has such a reference in place of the value is related:
`Relocation.Alike` relates objects, `Relocation.Like` dictionaries and `Relocation.Extends` the
stores.

The value may stand in a font dictionary itself or in the dictionary of its descendant. The
descendant is an item of an array and may be an object of its own, so an altered dictionary may
stand at the head of an array and in every object of the store.
-/

namespace PdfDisplay

namespace Object

mutual

/-- The references that are part of an object. -/
def references : Object → List ObjectRef
  | .reference target => [target]
  | .array items => itemReferences items
  | .dictionary entries => entryReferences entries
  | _ => []

/-- The references that are part of the items of an array. -/
def itemReferences : List Object → List ObjectRef
  | [] => []
  | item :: rest => item.references ++ itemReferences rest

/-- The references that are part of the values of a dictionary. -/
def entryReferences : List (String × Object) → List ObjectRef
  | [] => []
  | (_, value) :: rest => value.references ++ entryReferences rest

end

/-- The references of a value are among those of the entries that it stands in. -/
theorem mem_entryReferences {key : String} {value : Object} {entries : List (String × Object)}
    (h : (key, value) ∈ entries) {target : ObjectRef} (htarget : target ∈ value.references) :
    target ∈ entryReferences entries := by
  induction entries with
  | nil => cases h
  | cons entry entries ih =>
    rw [entryReferences, List.mem_append]
    cases h with
    | head => exact .inl htarget
    | tail _ h => exact .inr (ih h)

/-- A reference is to another object than any that is not mentioned. -/
theorem ne_of_notMem_references {target other : ObjectRef}
    (h : other ∉ (Object.reference target).references) : target ≠ other := by
  rintro rfl
  exact h (List.mem_singleton_self target)

end Object

/-- The keys of font dictionaries under which a reference is followed to an object. -/
def FontResolver.followedKeys : List String :=
  ["Encoding", "DescendantFonts", "FontDescriptor", "Widths", "FirstChar", "W", "DW"]

/-- A value under a key, and a new object with the text of the value. -/
structure Relocation where
  /-- The key. -/
  key : String
  /-- The value. -/
  value : Object
  /-- The reference of the new object. -/
  target : ObjectRef
  /-- The text of the new object. -/
  text : String
  /-- References under the key are followed. -/
  followed : key ∈ FontResolver.followedKeys
  /-- The value is no reference itself. -/
  direct : value.reference? = none
  /-- The value does not mention the new object. -/
  fresh : target ∉ value.references
  /-- The text is that of the value. -/
  read : Object.parse? (Utf8.encode text) = some value
  /-- Of the encodings only those with a name are meant. -/
  encoding : key = "Encoding" → ∃ name, value = .name name

namespace Relocation

variable (move : Relocation)

/-- Whether a reader that looks for a dictionary finds none in the text of a value that is none,
where such a reader is used. -/
def HidesNothing : Prop :=
  move.key = "FontDescriptor" → move.value.dictionary? = none →
    Dictionary.parse? (Utf8.encode move.text) = none

/-! ## Objects and dictionaries -/

/-- Whether a dictionary becomes another one when the value is moved out of it. -/
structure Moves (d d' : Dictionary) : Prop where
  /-- The value stands under the key. -/
  value : d.get? move.key = some move.value
  /-- The reference takes its place. -/
  moved : d' = d.insert move.key (.reference move.target)
  /-- The new object is not mentioned yet. -/
  fresh : move.target ∉ (Object.dictionary d.entries).references

/-- Whether an object is the same but for the value, which may be moved out of it. -/
inductive Alike : Object → Object → Prop where
  /-- Nothing is moved. -/
  | same {value : Object} (h : move.target ∉ value.references) : Alike value value
  /-- The value is moved out of a dictionary. -/
  | dictionary {entries entries' : List (String × Object)}
    (h : move.Moves ⟨entries⟩ ⟨entries'⟩) : Alike (.dictionary entries) (.dictionary entries')
  /-- The value is moved out of a dictionary at the head of an array. -/
  | array {entries entries' : List (String × Object)} (rest : List Object)
    (h : move.Moves ⟨entries⟩ ⟨entries'⟩) :
    Alike (.array (.dictionary entries :: rest)) (.array (.dictionary entries' :: rest))

/-- What may stand under a key in the place of a value. -/
inductive Counterpart (key : String) : Object → Object → Prop where
  /-- A value that is alike. -/
  | alike {value value' : Object} (h : move.Alike value value') : Counterpart key value value'
  /-- The reference to the new object. -/
  | moved (h : key = move.key) : Counterpart key move.value (.reference move.target)

/-- Whether a dictionary is the same but for the value, which may be moved out of it or out of one
of its values. -/
def Like (d d' : Dictionary) : Prop :=
  ∀ key, Option.Rel (move.Counterpart key) (d.get? key) (d'.get? key)

variable {move} {d d' : Dictionary} {value value' : Object}

/-- Under a key that is not followed nothing was moved, so what stands there on both sides is alike.
-/
theorem Counterpart.alike_of_notMem {key : String} (h : move.Counterpart key value value')
    (hkey : key ∉ FontResolver.followedKeys) : move.Alike value value' := by
  cases h with
  | alike h => exact h
  | moved h => exact absurd (h ▸ move.followed) hkey

theorem mem_of_get? {key : String} (h : d.get? key = some value) : (key, value) ∈ d.entries := by
  obtain ⟨entry, hentry, rfl⟩ := Option.map_eq_some_iff.mp h
  have hkey : entry.1 = key := by simpa using List.find?_some hentry
  exact hkey ▸ List.mem_of_find?_eq_some hentry

/-- Nothing is moved out of a dictionary that does not mention the new object. -/
theorem Like.of_fresh (h : move.target ∉ (Object.dictionary d.entries).references) :
    move.Like d d := by
  intro key
  cases hvalue : d.get? key with
  | none => exact .none
  | some value =>
    exact .some (.alike (.same fun htarget =>
      h (Object.mem_entryReferences (mem_of_get? hvalue) htarget)))

/-- What may stand in the place of a value is put there. The value may be moved out of a dictionary,
or out of one of its values. -/
theorem Like.insert {key : String} (h : move.target ∉ (Object.dictionary d.entries).references)
    (hvalue : d.get? key = some value) (hcounterpart : move.Counterpart key value value') :
    move.Like d (d.insert key value') := by
  intro other
  by_cases hkey : key = other
  · subst hkey
    rw [hvalue, Dictionary.get?_insert_self]
    exact .some hcounterpart
  · rw [Dictionary.get?_insert_of_ne _ _ hkey]
    exact Like.of_fresh h other

/-- A dictionary out of which the value was moved is like the one that held it, key by key. -/
theorem Moves.like (h : move.Moves d d') : move.Like d d' := by
  obtain ⟨hvalue, rfl, hfresh⟩ := h
  exact .insert hfresh hvalue (.moved rfl)

/-- Under the keys that are not followed nothing changes, so the readers of those keys see the same
values. -/
theorem Moves.get?_eq (h : move.Moves d d') {key : String}
    (hkey : key ∉ FontResolver.followedKeys) : d'.get? key = d.get? key := by
  obtain ⟨-, rfl, -⟩ := h
  refine Dictionary.get?_insert_of_ne _ _ ?_
  rintro rfl
  exact hkey move.followed

namespace Alike

variable (h : move.Alike value value')

include h

theorem name?_eq : value.name? = value'.name? := by cases h <;> rfl

theorem integer?_eq : value.integer? = value'.integer? := by cases h <;> rfl

theorem number?_eq : value.number? = value'.number? := by cases h <;> rfl

theorem reference?_eq : value.reference? = value'.reference? := by cases h <;> rfl

theorem ne_target {target : ObjectRef} (href : value'.reference? = some target) :
    target ≠ move.target := by
  cases h with
  | same hfresh =>
    cases value with
    | reference other =>
      cases href
      exact Object.ne_of_notMem_references hfresh
    | _ => cases href
  | dictionary | array => cases href

end Alike

/-- What is read under a key that is not followed is the same. -/
theorem Like.bind_eq {α : Type} (h : move.Like d d') {key : String}
    (hkey : key ∉ FontResolver.followedKeys) {read? : Object → Option α}
    (hread : ∀ value value', move.Alike value value' → read? value = read? value') :
    (d.get? key).bind read? = (d'.get? key).bind read? := by
  have hrel := h key
  generalize d.get? key = value?, d'.get? key = value'? at hrel
  cases hrel with
  | none => rfl
  | some hvalue => exact hread _ _ (hvalue.alike_of_notMem hkey)

theorem Like.name?_eq (h : move.Like d d') {key : String}
    (hkey : key ∉ FontResolver.followedKeys) : d.name? key = d'.name? key :=
  h.bind_eq hkey fun _ _ => Alike.name?_eq

theorem Like.number?_eq (h : move.Like d d') {key : String}
    (hkey : key ∉ FontResolver.followedKeys) : d.number? key = d'.number? key :=
  h.bind_eq hkey fun _ _ => Alike.number?_eq

/-- A reference stays where it is and is not the new object, or it is the new object in the place of
the value. -/
theorem Like.reference?_cases (h : move.Like d d') (key : String) :
    (d'.reference? key = d.reference? key ∧
        ∀ target, d.reference? key = some target → target ≠ move.target) ∨
      (key = move.key ∧ d.reference? key = none ∧
        d'.get? key = some (.reference move.target)) := by
  have hrel := h key
  rw [Dictionary.reference?, Dictionary.reference?]
  generalize d.get? key = value?, d'.get? key = value'? at hrel
  cases hrel with
  | none => exact .inl ⟨rfl, nofun⟩
  | some hvalue =>
    cases hvalue with
    | alike halike =>
      exact .inl ⟨halike.reference?_eq.symm, fun target htarget =>
        halike.ne_target (halike.reference?_eq ▸ htarget)⟩
    | moved hkey => exact .inr ⟨hkey, move.direct, rfl⟩

theorem Like.reference?_eq (h : move.Like d d') {key : String}
    (hkey : key ∉ FontResolver.followedKeys) : d.reference? key = d'.reference? key := by
  obtain ⟨hsame, -⟩ | ⟨rfl, -⟩ := h.reference?_cases key
  · exact hsame.symm
  · exact absurd move.followed hkey

/-- A reference under a key that is not followed is not the new object. -/
theorem Like.ne_target (h : move.Like d d') {key : String} (hkey : key ∉ FontResolver.followedKeys)
    {target : ObjectRef} (hreference : d.reference? key = some target) :
    target ≠ move.target := by
  obtain ⟨-, hfresh⟩ | ⟨rfl, -⟩ := h.reference?_cases key
  · exact hfresh target hreference
  · exact absurd move.followed hkey

/-- An encoding that is moved has a name, since only the names of encodings may be moved. -/
theorem Like.exists_name (h : move.Like d d')
    (hlink : d'.get? "Encoding" = some (.reference move.target)) :
    ∃ name, move.value = .name name := by
  obtain ⟨hsame, hfresh⟩ | ⟨hkey, -⟩ := h.reference?_cases "Encoding"
  · rw [Dictionary.reference?, hlink] at hsame
    exact absurd rfl (hfresh move.target hsame.symm)
  · exact move.encoding hkey.symm

/-! ## Stores -/

/-- Whether two answers of stores are the same failure, or related. -/
inductive Answered {α β : Type} (R : α → β → Prop) :
    Except StoreError α → Except StoreError β → Prop where
  /-- Related answers. -/
  | ok {a : α} {b : β} (h : R a b) : Answered R (.ok a) (.ok b)
  /-- The same failure. -/
  | error (e : StoreError) : Answered R (.error e) (.error e)

variable (move) in
/-- Whether what is read of two texts is alike. -/
structure TextsAlike (text text' : String) : Prop where
  /-- Where an object is read. -/
  object : Option.Rel move.Alike (Object.parse? (Utf8.encode text))
    (Object.parse? (Utf8.encode text'))
  /-- Where a dictionary is read. -/
  dictionary : Option.Rel move.Like (Dictionary.parse? (Utf8.encode text))
    (Dictionary.parse? (Utf8.encode text'))

variable (move) in
/-- Whether a store is another one with the new object, which the other objects do not mention but
in the place of the value. -/
structure Extends {m : Type → Type} [Monad m] (store store' : ObjectStore m) : Prop where
  /-- The new object is there. -/
  added : store'.text move.target = pure (.ok move.text)
  /-- The texts of all other objects are alike. -/
  text : ∀ target ≠ move.target,
    Coupled (Answered move.TextsAlike) (store.text target) (store'.text target)
  /-- The data are the same. -/
  decoded : ∀ target ≠ move.target, store'.decoded target = store.decoded target

variable (move) in
/-- Whether nothing that is read of a text mentions the new object. -/
structure Unmentioned (text : String) : Prop where
  /-- Where an object is read. -/
  object : ∀ value, Object.parse? (Utf8.encode text) = some value →
    move.target ∉ value.references
  /-- Where a dictionary is read. -/
  dictionary : ∀ d, Dictionary.parse? (Utf8.encode text) = some d →
    move.target ∉ (Object.dictionary d.entries).references

/-- A text that does not mention the new object is read the same in both stores. -/
theorem TextsAlike.of_unmentioned {text : String} (h : move.Unmentioned text) :
    move.TextsAlike text text where
  object := by
    cases hread : Object.parse? (Utf8.encode text) with
    | none => exact .none
    | some value => exact .some (.same (h.object value hread))
  dictionary := by
    cases hread : Dictionary.parse? (Utf8.encode text) with
    | none => exact .none
    | some d => exact .some (.of_fresh (h.dictionary d hread))

/-- The value may be moved out of a dictionary that is an object of its own. -/
theorem TextsAlike.of_moves {text text' : String} {entries entries' : List (String × Object)}
    (hread : Object.parse? (Utf8.encode text) = some (.dictionary entries))
    (hread' : Object.parse? (Utf8.encode text') = some (.dictionary entries'))
    (h : move.Moves ⟨entries⟩ ⟨entries'⟩) : move.TextsAlike text text' where
  object := by
    rw [hread, hread']
    exact .some (.dictionary h)
  dictionary := by
    rw [Dictionary.parse?_of_object hread, Dictionary.parse?_of_object hread']
    exact .some h.like

/-- A new object is added to a store whose objects do not mention it. -/
theorem Extends.of_unmentioned {m : Type → Type} [Monad m] [LawfulMonad m]
    {store store' : ObjectStore m} (hadded : store'.text move.target = pure (.ok move.text))
    (hstore : ∀ target ≠ move.target, store'.text target = store.text target ∧
      store'.decoded target = store.decoded target)
    (hfresh : ∀ target, Yields
      (fun answer => ∀ text, answer = .ok text → move.Unmentioned text) (store.text target)) :
    move.Extends store store' where
  added := hadded
  text target htarget := by
    rw [(hstore target htarget).1]
    refine (Coupled.refl_of_yields (hfresh target)).mono fun answer _ ⟨hsame, hanswer⟩ => ?_
    subst hsame
    cases answer with
    | ok text => exact .ok (.of_unmentioned (hanswer text rfl))
    | error e => exact .error e
  decoded target htarget := (hstore target htarget).2

/-! ## Fonts -/

variable (move) in
/-- Whether a font is another one, up to a code length that the character map declares for an
encoding which is moved. -/
structure SameFont (d' : Dictionary) (font font' : Font) : Prop where
  /-- All but the code length is the same. -/
  parts : font' = { font with codeLength := font'.codeLength }
  /-- The code length is the same, unless the encoding is moved and the character map declares
  another length than two. -/
  codeLength : font'.codeLength = font.codeLength ∨
    (font.kind = .composite ∧ d'.get? "Encoding" = some (.reference move.target) ∧
      (font.charMap?.bind (·.codeLength?)).getD 2 ≠ 2)

theorem SameFont.refl (d' : Dictionary) (font : Font) : move.SameFont d' font font :=
  ⟨rfl, .inl rfl⟩

/-- Fonts are the same altogether unless it was the encoding that was moved. -/
theorem SameFont.eq {font font' : Font} (h : move.SameFont d' font font')
    (hencoding : d'.get? "Encoding" ≠ some (.reference move.target)) : font' = font := by
  obtain hlength | ⟨-, hmoved, -⟩ := h.codeLength
  · rw [h.parts, hlength]
  · exact absurd hmoved hencoding

end Relocation

end PdfDisplay
