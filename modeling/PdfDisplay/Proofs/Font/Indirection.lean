import PdfDisplay.Proofs.Font.CodeLengths
import PdfDisplay.Proofs.Font.Relocation

/-!
# Fonts with values in objects of their own

Resolving a font follows references, so it makes no difference whether a value of the font
dictionary, or of its descendant's, stands in the dictionary or in an object of its own
(`Font.resolve_relocated`).
-/

namespace PdfDisplay

namespace FontResolver

open Relocation (Alike Like Counterpart Answered)

variable {m : Type → Type} [Monad m] [LawfulMonad m] {r r' : FontResolver m} {move : Relocation}
  {d d' : Dictionary} {value value' : Object} {α β : Type}

/-! ## Links -/

/-- Two readings that both warn agree if what they go on with does; the warnings themselves are not
compared. -/
theorem agrees_warn {R : α → β → Prop} {code code' : WarningCode}
    {description description' : String} {target? target'? : Option ObjectRef} {a : α} {b : β}
    (h : R a b) :
    Agrees R (do r.warn code description target?; return a)
      (do r'.warn code' description' target'?; return b) :=
  .warned h

/-- **Fetches agree where the answers do**: both give what was asked for, or neither does and both
warn. -/
theorem agrees_fetch {R : α → β → Prop} {answer : m (Except StoreError α)}
    {answer' : m (Except StoreError β)} (h : Coupled (Answered R) answer answer') (key : String)
    (target : ObjectRef) :
    Agrees (Option.Rel R) (r.fetch key target answer) (r'.fetch key target answer') := by
  refine .bind (.lift h) fun result result' hresult => ?_
  cases hresult with
  | ok hab => exact .pure (.some hab)
  | error e => exact agrees_warn .none

/-- An answer that is there at once is handed on, without a warning and without asking anything
else. -/
theorem fetch_ok (key : String) (target : ObjectRef) (a : α) :
    r.fetch key target (pure (.ok a)) = pure (some a) := by
  rw [fetch]
  change (monadLift (pure (.ok a) : m (Except StoreError α)) : Diagnosing m _) >>= _ = _
  rw [monadLift_pure, pure_bind]

/-- Streams other than the moved object are the same in both stores. -/
theorem agrees_stream (h : move.Extends r.store r'.store) (key : String) {target : ObjectRef}
    (htarget : target ≠ move.target) :
    Agrees (Option.Rel (· = ·)) (r.stream key target) (r'.stream key target) := by
  refine agrees_fetch ?_ key target
  rw [h.decoded target htarget]
  refine (Coupled.refl (r.store.decoded target)).mono fun answer _ hsame => ?_
  subst hsame
  cases answer with
  | ok data => exact .ok rfl
  | error e => exact .error e

/-- A dictionary behind a reference other than the moved one is read alike, entries that lead to the
moved object included. -/
theorem agrees_dictionaryAt (h : move.Extends r.store r'.store) (key : String)
    {target : ObjectRef} (htarget : target ≠ move.target) :
    Agrees (Option.Rel move.Like) (r.dictionaryAt key target) (r'.dictionaryAt key target) := by
  refine (agrees_fetch (h.text target htarget) key target).bind fun text? text'? htext => ?_
  cases htext with
  | none => exact .pure .none
  | @some text text' htext =>
    have hread := htext.dictionary
    dsimp only
    generalize Dictionary.parse? (Utf8.encode text) = d?,
      Dictionary.parse? (Utf8.encode text') = d'? at hread
    cases hread with
    | none => exact agrees_warn .none
    | some hd => exact .pure (.some hd)

/-- **Like values are followed to like objects**: a reference that stands in both leads to like
texts, and any other value stands for itself. -/
theorem agrees_object (h : move.Extends r.store r'.store) (key : String)
    (hvalue : move.Alike value value') :
    Agrees (Option.Rel move.Alike) (r.object key value) (r'.object key value') := by
  cases hvalue with
  | same hfresh =>
    cases value with
    | reference target =>
      have htarget := Object.ne_of_notMem_references hfresh
      refine (agrees_fetch (h.text target htarget) key target).bind fun text? text'? htext => ?_
      cases htext with
      | none => exact .pure .none
      | @some text text' htext =>
        have hread := htext.object
        dsimp only
        -- only how the two texts are read matters from here on, and that is alike
        generalize Object.parse? (Utf8.encode text) = value?,
          Object.parse? (Utf8.encode text') = value'? at hread
        cases hread with
        | none => exact agrees_warn .none
        | some hvalue => exact .pure (.some hvalue)
    | _ => exact .pure (.some (.same hfresh))
  | dictionary hmoves => exact .pure (.some (.dictionary hmoves))
  | array rest hmoves => exact .pure (.some (.array rest hmoves))

omit [LawfulMonad m] in
/-- A value that is no reference stands for itself, and the store is not asked. -/
theorem object_of_direct (key : String) (hvalue : value.reference? = none) :
    r.object key value = pure (some value) := by
  cases value with
  | reference target => cases hvalue
  | _ => rfl

/-- The value is what the reference to the new object leads to. -/
theorem object_moved (h : move.Extends r.store r'.store) (key : String) :
    r'.object key (.reference move.target) = pure (some move.value) := by
  rw [object, h.added, fetch_ok, pure_bind]
  dsimp only
  rw [move.read]

/-- Under every key the values lead to objects that are alike, and a reference to the new object
leads to the value. -/
theorem agrees_entry_moved (h : move.Extends r.store r'.store) (hd : move.Like d d')
    (key : String) :
    Agrees (fun value? value'? => Option.Rel move.Alike value? value'? ∧
        (d'.get? key = some (.reference move.target) → value'? = some move.value))
      (r.entry d key) (r'.entry d' key) := by
  have hrel := hd key
  rw [entry, entry]
  generalize d.get? key = value?, d'.get? key = value'? at hrel
  cases hrel with
  | none => exact .pure ⟨.none, nofun⟩
  | some hvalue =>
    cases hvalue with
    | alike halike =>
      refine (agrees_object h key halike).mono fun _ _ hrel => ⟨hrel, fun hmoved => ?_⟩
      cases hmoved
      exact absurd rfl (halike.ne_target rfl)
    -- where the value itself was moved, one side has it and the other fetches it
    | moved =>
      dsimp only
      rw [object_of_direct key move.direct, object_moved h key]
      exact .pure ⟨.some (.same move.fresh), fun _ => rfl⟩

/-- Entries under the same key of like dictionaries are followed to like objects. -/
theorem agrees_entry (h : move.Extends r.store r'.store) (hd : move.Like d d') (key : String) :
    Agrees (Option.Rel move.Alike) (r.entry d key) (r'.entry d' key) :=
  (agrees_entry_moved h hd key).mono fun _ _ => And.left

/-- Like values come to like dictionaries, or are reported on both sides. -/
theorem agrees_dictionary (h : move.Extends r.store r'.store) (key : String)
    (hvalue : move.Alike value value') :
    Agrees (Option.Rel move.Like) (r.dictionary key value) (r'.dictionary key value') := by
  cases hvalue with
  | same hfresh =>
    cases value with
    | dictionary entries => exact .pure (.some (.of_fresh hfresh))
    | reference target => exact agrees_dictionaryAt h key (Object.ne_of_notMem_references hfresh)
    | _ => exact agrees_warn .none
  | dictionary hmoves => exact .pure (.some hmoves.like)
  | array => exact agrees_warn .none

/-- A value is a dictionary exactly if the reference to the new object leads to one. -/
theorem agrees_dictionary_moved (h : move.Extends r.store r'.store) (key : String)
    (hhides : move.value.dictionary? = none → Dictionary.parse? (Utf8.encode move.text) = none) :
    Agrees (Option.Rel move.Like) (r.dictionary key move.value)
      (r'.dictionary key (.reference move.target)) := by
  rw [dictionary.eq_2, dictionaryAt, h.added, fetch_ok, pure_bind]
  dsimp only
  have hread := move.read
  have hdirect := move.direct
  have hfresh := move.fresh
  generalize move.value = value at hread hdirect hfresh hhides ⊢
  cases value with
  -- a text that is read as a dictionary among objects is read as the same one where one is wanted
  | dictionary entries =>
    rw [Dictionary.parse?_of_object hread]
    exact .pure (.some (.of_fresh hfresh))
  | reference target => cases hdirect
  | _ =>
    rw [hhides rfl]
    exact agrees_warn .none

/-- Descriptors are read alike, a moved one included: its text reads as a dictionary exactly if the
value was one. -/
theorem agrees_descriptor (h : move.Extends r.store r'.store) (hhides : move.HidesNothing)
    (hd : move.Like d d') :
    Agrees (Option.Rel move.Like) (r.descriptor d) (r'.descriptor d') := by
  have hrel := hd "FontDescriptor"
  rw [descriptor, descriptor]
  generalize d.get? "FontDescriptor" = value?, d'.get? "FontDescriptor" = value'? at hrel
  cases hrel with
  | none => exact .pure .none
  | some hvalue =>
    cases hvalue with
    | alike halike => exact agrees_dictionary h _ halike
    | moved hkey => exact agrees_dictionary_moved h _ (hhides hkey.symm)

/-! ## Parts -/

/-- The maps to text are the same, since `ToUnicode` is not among the keys under which a value may
be moved. -/
theorem agrees_charMap (h : move.Extends r.store r'.store) (hd : move.Like d d') :
    Agrees (· = ·) (r.charMap (d.get? "ToUnicode")) (r'.charMap (d'.get? "ToUnicode")) := by
  have hrel := hd "ToUnicode"
  generalize d.get? "ToUnicode" = value?, d'.get? "ToUnicode" = value'? at hrel
  cases hrel with
  | none => exact .pure rfl
  | some hvalue =>
    cases hvalue.alike_of_notMem (by decide) with
    | same hfresh =>
      rename_i value
      cases value with
      | reference target =>
        have htarget := Object.ne_of_notMem_references hfresh
        refine (agrees_stream h _ htarget).bind fun data? data'? hdata => ?_
        cases hdata with
        | none => exact .pure rfl
        | @some data _ hsame =>
          subst hsame
          dsimp only
          cases CharMap.parse data with
          | ok map => exact .pure rfl
          | error e => exact agrees_warn rfl
      | _ => exact .pure rfl
    | dictionary | array => exact .pure rfl

/-- The first code is the integer under its key, and values that are alike are the same integer. -/
theorem firstCode_eq {value? value'? : Option Object} (h : Option.Rel move.Alike value? value'?) :
    firstCode value? = firstCode value'? := by
  cases h with
  | none => rfl
  | some hvalue => rw [firstCode, firstCode, Option.bind_some, Option.bind_some, hvalue.integer?_eq]

/-- The width tables of simple fonts are the same: the array and the first code are followed alike.
-/
theorem agrees_simpleWidths (h : move.Extends r.store r'.store) (hd : move.Like d d')
    (missing? : Option Float) :
    Agrees (· = ·) (r.simpleWidths d missing?) (r'.simpleWidths d' missing?) := by
  refine (agrees_entry h hd _).bind fun value? value'? hvalue => ?_
  cases hvalue with
  | none => exact .pure rfl
  | some hvalue =>
    cases hvalue with
    | same =>
      rename_i value _
      cases value with
      | array items =>
        refine (agrees_entry h hd _).bind fun first? first'? hfirst => ?_
        dsimp only
        rw [firstCode_eq hfirst]
        cases WidthTable.ofSimple (firstCode first'?) items missing? with
        | ok table => exact .pure rfl
        | error e => exact agrees_warn rfl
      | _ => exact agrees_warn rfl
    | dictionary => exact agrees_warn rfl
    | array =>
      -- a list that begins with a dictionary is refused
      exact (agrees_entry h hd _).bind fun _ _ _ => agrees_warn rfl

/-- A dictionary among the widths of a composite font is refused wherever it stands. -/
theorem exists_ofComposite_dictionary (entries : List (String × Object)) (rest : List Object)
    (default? : Option Float) :
    ∃ e, WidthTable.ofComposite (.dictionary entries :: rest) default? = .error e := by
  cases rest with
  | nil => exact ⟨_, rfl⟩
  | cons last rest => cases last <;> cases rest <;> exact ⟨_, rfl⟩

/-- The same for composite fonts, where an array that begins with a dictionary is refused on both
sides. -/
theorem agrees_compositeWidths (h : move.Extends r.store r'.store) (hd : move.Like d d')
    (default? : Option Float) :
    Agrees (· = ·) (r.compositeWidths d default?) (r'.compositeWidths d' default?) := by
  refine (agrees_entry h hd _).bind fun value? value'? hvalue => ?_
  cases hvalue with
  | none => exact .pure rfl
  | some hvalue =>
    cases hvalue with
    | same =>
      rename_i value _
      cases value with
      | array items =>
        dsimp only
        cases WidthTable.ofComposite items default? with
        | ok table => exact .pure rfl
        | error e => exact agrees_warn rfl
      | _ => exact agrees_warn rfl
    | dictionary => exact agrees_warn rfl
    -- the array out of which the value was moved begins with a dictionary
    | @array entries entries' rest =>
      obtain ⟨e, he⟩ := exists_ofComposite_dictionary entries rest default?
      obtain ⟨e', he'⟩ := exists_ofComposite_dictionary entries' rest default?
      dsimp only
      rw [he, he']
      exact agrees_warn rfl

/-- The keys of programs are not among those under which a value may be moved. -/
theorem notMem_followedKeys_of_program :
    ∀ key ∈ ["FontFile2", "FontFile", "FontFile3"], key ∉ followedKeys := by
  decide

/-- The links to a font program are the same, as their keys are not among those under which a value
may be moved. -/
theorem programLink?_eq (hd : move.Like d d') : programLink? d = programLink? d' := by
  have hkeys := notMem_followedKeys_of_program
  simp only [List.forall_mem_cons] at hkeys
  obtain ⟨hfirst, hsecond, hthird, -⟩ := hkeys
  simp only [programLink?, List.findSome?_cons, List.findSome?_nil, hd.reference?_eq hfirst,
    hd.reference?_eq hsecond, hd.reference?_eq hthird]

/-- The link to a font program never leads to the moved object. -/
theorem ne_target_of_programLink? (hd : move.Like d d') {key : String} {target : ObjectRef}
    (hlink : programLink? d = some (key, target)) : target ≠ move.target := by
  obtain ⟨other, hother, hlink⟩ := List.exists_of_findSome?_eq_some hlink
  obtain ⟨target', htarget, hlink⟩ := Option.map_eq_some_iff.mp hlink
  cases hlink
  exact hd.ne_target (notMem_followedKeys_of_program _ hother) htarget

theorem agrees_programFormat (h : move.Extends r.store r'.store) (key : String)
    {target : ObjectRef} (htarget : target ≠ move.target) :
    Agrees (· = ·) (r.programFormat key target) (r'.programFormat key target) := by
  rw [programFormat.eq_def, programFormat.eq_def]
  split
  case h_1 => exact .pure rfl
  case h_2 => exact .pure rfl
  case h_3 =>
    refine (agrees_dictionaryAt h _ htarget).bind fun d? d'? hd => .pure ?_
    cases hd with
    | none => rfl
    | some hd => rw [Option.bind_some, Option.bind_some, hd.name?_eq (by decide)]

/-- So both fonts have the same program, or lack it for the same reason. -/
theorem agrees_program (h : move.Extends r.store r'.store) (hd : move.Like d d') :
    Agrees (· = ·) (r.program d) (r'.program d') := by
  rw [program, program, ← programLink?_eq hd]
  split
  case h_1 => exact .pure rfl
  case h_2 key target hlink =>
    have htarget := ne_target_of_programLink? hd hlink
    refine (agrees_programFormat h key htarget).bind fun format _ hformat => ?_
    subst hformat
    refine (agrees_stream h key htarget).bind fun data? data'? hdata => .pure ?_
    cases hdata with
    | none => rfl
    | some hsame => rw [hsame]

/-- The program of a descriptor that may be absent. -/
theorem agrees_program? (h : move.Extends r.store r'.store) {d? d'? : Option Dictionary}
    (hd : Option.Rel move.Like d? d'?) :
    Agrees (· = ·) (d?.elim (pure none) r.program) (d'?.elim (pure none) r'.program) := by
  cases hd with
  | none => exact .pure rfl
  | some hd => exact agrees_program h hd

/-! ## Kinds of fonts -/

/-- Like encodings are read the same: neither the base nor the differences of an encoding can have
been moved out of it. -/
theorem ofObject_eq {encoding? encoding'? : Option Object}
    (h : Option.Rel move.Alike encoding? encoding'?) :
    Encoding.ofObject encoding? = Encoding.ofObject encoding'? := by
  cases h with
  | none => rfl
  | some hvalue =>
    cases hvalue with
    | same | array => rfl
    | dictionary hmoves =>
      have hbase := hmoves.get?_eq (by decide : "BaseEncoding" ∉ followedKeys)
      have hdifferences := hmoves.get?_eq (by decide : "Differences" ∉ followedKeys)
      simp only [Encoding.ofObject, Dictionary.name?, Dictionary.array?, hbase, hdifferences]

/-- Like encodings give the same direction, be it by the end of a name or by `WMode`. -/
theorem directionOf_eq {encoding? encoding'? : Option Object}
    (h : Option.Rel move.Alike encoding? encoding'?) :
    directionOf encoding? = directionOf encoding'? := by
  cases h with
  | none => rfl
  | some hvalue =>
    cases hvalue with
    | same | array => rfl
    | dictionary hmoves =>
      have hmode := congrArg (·.bind Object.integer?)
        (hmoves.get?_eq (by decide : "WMode" ∉ followedKeys))
      exact ite_congr (congrArg (· = some 1) hmode.symm) (fun _ => rfl) fun _ => rfl

/-- Fonts of Type 3 are the same on both sides, their encodings being alike. -/
theorem agrees_type3 (h : move.Extends r.store r'.store) (hd : move.Like d d')
    {encoding? encoding'? : Option Object} (hencoding : Option.Rel move.Alike encoding? encoding'?)
    (font : Font) :
    Agrees (· = ·) (r.type3 d encoding? font) (r'.type3 d' encoding'? font) := by
  have hscale : ((d.array? "FontMatrix").bind (·.head?)).bind Object.number? =
      ((d'.array? "FontMatrix").bind (·.head?)).bind Object.number? := by
    simp only [Dictionary.array?, Option.bind_assoc]
    refine hd.bind_eq (by decide) fun value value' halike => ?_
    cases halike <;> rfl
  refine (agrees_simpleWidths h hd none).bind fun widths? _ hwidths => .pure ?_
  subst hwidths
  rw [hscale, ofObject_eq hencoding]

/-- Simple fonts are the same on both sides, their encodings being alike. -/
theorem agrees_simple (h : move.Extends r.store r'.store) (hhides : move.HidesNothing)
    (hd : move.Like d d') {encoding? encoding'? : Option Object}
    (hencoding : Option.Rel move.Alike encoding? encoding'?) (font : Font) :
    Agrees (· = ·) (r.simple d encoding? font) (r'.simple d' encoding'? font) := by
  refine (agrees_descriptor h hhides hd).bind fun descriptor? descriptor'? hdescriptor => ?_
  have hmissing : descriptor?.bind (·.number? "MissingWidth") =
      descriptor'?.bind (·.number? "MissingWidth") := by
    cases hdescriptor with
    | none => rfl
    | some hlike => exact hlike.number?_eq (by decide)
  dsimp only
  rw [hmissing, ofObject_eq hencoding]
  refine (agrees_simpleWidths h hd _).bind fun widths? _ hwidths => ?_
  refine (agrees_program? h hdescriptor).bind fun program? _ hprogram => .pure ?_
  rw [hwidths, hprogram]

/-! ### Composite fonts -/

omit [LawfulMonad m] in
/-- Only an encoding that is a dictionary behind a reference is asked for its code length; any other
gives none, and the store is not asked. -/
theorem encodingCodeLength_eq_pure {encoding? : Option Object}
    (h : ∀ entries target, encoding? = some (.dictionary entries) →
      d.reference? "Encoding" = some target → False) :
    r.encodingCodeLength d encoding? = pure none := by
  rw [encodingCodeLength.eq_def]
  split
  case h_1 entries target hlink => exact (h entries target rfl hlink).elim
  case h_2 => rfl

omit [LawfulMonad m] in
/-- An encoding that is not referred to declares no length. -/
theorem encodingCodeLength_of_reference?_none (h : d.reference? "Encoding" = none)
    (encoding? : Option Object) : r.encodingCodeLength d encoding? = pure none :=
  encodingCodeLength_eq_pure fun _ _ _ hlink => by cases h.symm.trans hlink

omit [LawfulMonad m] in
/-- An encoding with a name declares no length. -/
theorem encodingCodeLength_of_name (d : Dictionary) (name : String) :
    r.encodingCodeLength d (some (.name name)) = pure none :=
  encodingCodeLength_eq_pure fun _ _ hname _ => by cases hname

/-- The data of an encoding are asked for where they were asked for, as an encoding with a name has
none. -/
theorem agrees_encodingCodeLength (h : move.Extends r.store r'.store) (hd : move.Like d d')
    {encoding? encoding'? : Option Object} (hencoding : Option.Rel move.Alike encoding? encoding'?)
    (hmoved : d'.get? "Encoding" = some (.reference move.target) →
      ∃ name, encoding'? = some (.name name)) :
    Agrees (· = ·) (r.encodingCodeLength d encoding?) (r'.encodingCodeLength d' encoding'?) := by
  -- either both have the same reference, or the value was moved behind one
  obtain ⟨hsame, hfresh⟩ | ⟨-, hnone, hlink⟩ := hd.reference?_cases "Encoding"
  · rw [encodingCodeLength.eq_def]
    split
    case h_1 entries target hlink =>
      obtain ⟨entries', rfl⟩ : ∃ entries', encoding'? = some (.dictionary entries') := by
        cases hencoding with
        | some halike => cases halike <;> exact ⟨_, rfl⟩
      rw [encodingCodeLength.eq_def, hsame, hlink]
      dsimp only
      refine (agrees_stream h _ (hfresh target hlink)).bind fun data? data'? hdata => ?_
      cases hdata with
      | none => exact .pure rfl
      | some hdata => exact .pure (by rw [hdata])
    case h_2 hother =>
      rw [encodingCodeLength_eq_pure]
      · exact .pure rfl
      · rintro entries' target rfl hlink
        rw [hsame] at hlink
        cases hencoding with
        | some halike => cases halike <;> exact hother _ target rfl hlink
  · obtain ⟨name, rfl⟩ := hmoved hlink
    rw [encodingCodeLength_of_reference?_none hnone, encodingCodeLength_of_name]
    exact .pure rfl

/-- The length is the same, unless the encoding is moved and the character map declares another
length than the two bytes of an encoding that is referred to. -/
theorem agrees_codeLength (h : move.Extends r.store r'.store) (hd : move.Like d d')
    {encoding? encoding'? : Option Object} (hencoding : Option.Rel move.Alike encoding? encoding'?)
    (hmoved : d'.get? "Encoding" = some (.reference move.target) →
      ∃ name, encoding'? = some (.name name)) (charMap? : Option CharMap) :
    Agrees (fun length length' => length' = length ∨
        (d'.get? "Encoding" = some (.reference move.target) ∧
          (charMap?.bind (·.codeLength?)).getD 2 ≠ 2))
      (r.codeLength d encoding? charMap?) (r'.codeLength d' encoding'? charMap?) := by
  obtain ⟨hsame, hfresh⟩ | ⟨-, hnone, hlink⟩ := hd.reference?_cases "Encoding"
  · refine (agrees_encodingCodeLength h hd hencoding hmoved).bind fun embedded? _ heq => ?_
    rw [hsame, heq]
    split
    case isTrue => exact .pure (.inl rfl)
    case isFalse => exact .pure (.inl rfl)
  · -- the encoding is moved: the character map was asked for the length and no longer is
    have hlink' : d'.reference? "Encoding" = some move.target := by
      rw [Dictionary.reference?, hlink]
      rfl
    obtain ⟨name, rfl⟩ := hmoved hlink
    rw [codeLength, codeLength, encodingCodeLength_of_reference?_none hnone,
      encodingCodeLength_of_name, pure_bind, pure_bind, hnone, hlink']
    by_cases hlength : (charMap?.bind (·.codeLength?)).getD 2 = 2
    · exact .pure (.inl hlength.symm)
    · exact .pure (.inr ⟨hlink, hlength⟩)

/-- Descendants are alike: the array is followed, and its first element is a reference that stands
in both arrays or a dictionary. -/
theorem agrees_descendant (h : move.Extends r.store r'.store) (hd : move.Like d d') :
    Agrees (Option.Rel move.Like) (r.descendant d) (r'.descendant d') := by
  refine (agrees_entry h hd _).bind fun value? value'? hvalue => ?_
  cases hvalue with
  | none => exact .pure .none
  | some hvalue =>
    cases hvalue with
    | same hfresh =>
      rename_i value
      cases value with
      | array items =>
        cases items with
        | nil => exact .pure .none
        | cons first rest =>
          -- the array does not mention the new object, so its first element does not either
          refine agrees_dictionary h _ (.same fun htarget => hfresh ?_)
          exact List.mem_append_left _ htarget
      | _ => exact .pure .none
    | dictionary => exact .pure .none
    | array rest hmoves => exact agrees_dictionary h _ (.dictionary hmoves)

/-- Composite fonts are the same but for their code length, which may change where their encoding
was moved. -/
theorem agrees_composite (h : move.Extends r.store r'.store) (hhides : move.HidesNothing)
    (hd : move.Like d d') {encoding? encoding'? : Option Object}
    (hencoding : Option.Rel move.Alike encoding? encoding'?)
    (hmoved : d'.get? "Encoding" = some (.reference move.target) →
      ∃ name, encoding'? = some (.name name)) {font : Font} (hkind : font.kind = .composite) :
    Agrees (move.SameFont d') (r.composite d encoding? font)
      (r'.composite d' encoding'? font) := by
  rw [composite, composite, directionOf_eq hencoding]
  refine (agrees_codeLength h hd hencoding hmoved _).bind fun length length' hlength => ?_
  -- the code length alone may differ, and only because of the encoding
  have hlength := hlength.imp_right (And.intro hkind)
  refine (agrees_descendant h hd).bind fun descendant? descendant'? hdescendant => ?_
  cases hdescendant with
  | none => exact agrees_warn ⟨rfl, hlength⟩
  | some hlike =>
    refine (agrees_entry h hlike _).bind fun default? default'? hdefault => ?_
    -- only a number counts as a default width, and like values are the same number
    have hnumber : default?.bind Object.number? = default'?.bind Object.number? := by
      cases hdefault with
      | none => rfl
      | some halike => exact halike.number?_eq
    rw [hnumber]
    refine (agrees_compositeWidths h hlike _).bind fun widths? _ hwidths => ?_
    refine (agrees_descriptor h hhides hlike).bind fun descriptor? descriptor'? hdescriptor => ?_
    refine (agrees_program? h hdescriptor).bind fun program? _ hprogram => .pure ?_
    rw [hwidths, hprogram]
    exact ⟨rfl, hlength⟩

/-- **Like dictionaries are read as the same font**, up to the code length of a composite one, by
putting the parts together in the order in which the reader asks for them. -/
theorem agrees_font {store store' : ObjectStore m} (h : move.Extends store store')
    (hhides : move.HidesNothing) (hd : move.Like d d') (tag : String) :
    Agrees (move.SameFont d') (font ⟨store, tag⟩ d) (font ⟨store', tag⟩ d') := by
  rw [font, font, hd.name?_eq (by decide), hd.name?_eq (by decide)]
  refine (agrees_entry_moved h hd _).bind fun encoding? encoding'? ⟨hencoding, hmoved⟩ => ?_
  -- like encodings have the same name, from which both fonts take their characters
  have hname : encoding?.bind Object.name? = encoding'?.bind Object.name? := by
    cases hencoding with
    | none => rfl
    | some halike => exact halike.name?_eq
  refine (agrees_charMap h hd).bind fun charMap? _ hmap => ?_
  subst hmap
  rw [hname]
  dsimp only
  split
  case h_1 hkind =>
    refine agrees_composite h hhides hd hencoding (fun hlink => ?_) hkind
    obtain ⟨name, hname⟩ := hd.exists_name hlink
    exact ⟨name, hname ▸ hmoved hlink⟩
  case h_2 =>
    refine (agrees_type3 h hd hencoding _).mono fun font _ hfont => ?_
    exact hfont ▸ .refl d' font
  case h_3 =>
    refine (agrees_simple h hhides hd hencoding _).mono fun font _ hfont => ?_
    exact hfont ▸ .refl d' font

end FontResolver

namespace Font

/-- **A value may be written as an object of its own.** Where a font dictionary or that of its
descendant refers to a new object with the text of a value, instead of holding the value itself,
the font is the same. Only the code length may change, where an encoding is moved. -/
theorem resolve_relocated {m : Type → Type} [Monad m] [LawfulMonad m] (move : Relocation)
    {store store' : ObjectStore m} {d d' : Dictionary} (hstore : move.Extends store store')
    (hd : move.Like d d') (hhides : move.HidesNothing) (tag : String) :
    Coupled (fun result result' => move.SameFont d' result.value result'.value)
      (resolve store tag d) (resolve store' tag d') :=
  (FontResolver.agrees_font hstore hhides hd tag).collect

/-- The widths are moved out of a descendant that is an object of its own. -/
theorem resolve_relocated_widths :
    let move : Relocation := {
      key := "W"
      value := .array [.integer 1, .array [.integer 500]]
      target := ⟨9, 0⟩
      text := "[1[500]]"
      followed := by decide
      direct := rfl
      fresh := by decide
      read := Object.parse?_of_lexemes (by decide +kernel : Token.lexemes _ =
        [.arrayStart, .integer 1, .arrayStart, .integer 500, .arrayEnd, .arrayEnd]) rfl
      encoding := fun hkey => absurd hkey (by decide) }
    let missing : ObjectRef → Id (Except StoreError Bytes) := fun target => .error (.missing target)
    let store : ObjectStore Id := ⟨fun target =>
      if target = ⟨2, 0⟩ then .ok "<</W[1[500]]>>" else .error (.missing target), missing, missing⟩
    let store' : ObjectStore Id := ⟨fun target =>
      if target = ⟨2, 0⟩ then .ok "<</W 9 0 R>>"
      else if target = ⟨9, 0⟩ then .ok "[1[500]]" else .error (.missing target), missing, missing⟩
    let d : Dictionary := ⟨[("Subtype", .name "Type0"), ("Encoding", .name "Identity-V"),
      ("DescendantFonts", .array [.reference ⟨2, 0⟩])]⟩
    move.Extends store store' ∧ move.Like d d ∧ move.HidesNothing ∧
      (resolve store "F1" d).value.widths?.isSome ∧
      (resolve store' "F1" d).value = (resolve store "F1" d).value := by
  intro move missing store store' d
  have hmoves : move.Moves ⟨[("W", move.value)]⟩ ⟨[("W", .reference ⟨9, 0⟩)]⟩ :=
    ⟨rfl, rfl, by decide⟩
  have htexts : move.TextsAlike "<</W[1[500]]>>" "<</W 9 0 R>>" :=
    .of_moves
      (Object.parse?_of_lexemes (by decide +kernel : Token.lexemes _ = [.dictionaryStart, .name "W",
        .arrayStart, .integer 1, .arrayStart, .integer 500, .arrayEnd, .arrayEnd,
        .dictionaryEnd]) rfl)
      (Object.parse?_of_lexemes (by decide +kernel : Token.lexemes _ = [.dictionaryStart, .name "W",
        .integer 9, .integer 0, .keyword "R", .dictionaryEnd]) rfl)
      hmoves
  have hstore : move.Extends store store' := by
    refine ⟨rfl, fun target htarget => ?_, fun _ _ => rfl⟩
    by_cases hdescendant : target = ⟨2, 0⟩
    · subst hdescendant
      exact .pure (.ok htexts)
    · have hanswer : store.text target = .error (.missing target) := if_neg hdescendant
      have hanswer' : store'.text target = .error (.missing target) :=
        (if_neg hdescendant).trans (if_neg htarget)
      rw [hanswer, hanswer']
      exact .pure (.error _)
  have hd : move.Like d d := .of_fresh (by decide)
  have hhides : move.HidesNothing := fun hkey => absurd hkey (by decide)
  have hsame := (resolve_relocated move hstore hd hhides "F1").of_id
  exact ⟨hstore, hd, hhides, by decide +kernel, hsame.eq fun hmoved => by cases hmoved⟩

/-! ## Where the place matters -/

/-- Whether every font is the same when a value under a key is moved out of its dictionary. -/
def TransparentAt (key : String) : Prop :=
  ∀ (move : Relocation) (store store' : ObjectStore Id) (d d' : Dictionary) (tag : String),
    move.key = key → move.Extends store store' → move.Moves d d' →
    (resolve store' tag d').value = (resolve store tag d).value

/-- A store without texts, in which every stream has the same data. -/
def bareStore (data : Bytes) : ObjectStore Id :=
  ⟨fun target => .error (.missing target), fun _ => .ok data, fun _ => .ok data⟩

/-- The store with a new object. -/
def bareStoreWith (move : Relocation) (data : Bytes) : ObjectStore Id :=
  { bareStore data with
    text := fun target => if target = move.target then .ok move.text else .error (.missing target) }

/-- The store without texts and the store that has the text of the moved object differ in that
object only. -/
theorem extends_bareStoreWith (move : Relocation) (data : Bytes) :
    move.Extends (bareStore data) (bareStoreWith move data) :=
  .of_unmentioned (if_pos rfl) (fun _ hother => ⟨if_neg hother, rfl⟩) fun _ => .pure nofun

/-- An encoding that is moved leaves the code length of the character map without effect. -/
theorem not_transparentAt_encoding : ¬TransparentAt "Encoding" := by
  intro h
  let move : Relocation := {
    key := "Encoding"
    value := .name "Identity-H"
    target := ⟨5, 0⟩
    text := "/Identity-H"
    followed := by decide
    direct := rfl
    fresh := by decide
    read := Object.parse?_of_lexemes
      (by decide +kernel : Token.lexemes _ = [.name "Identity-H"]) rfl
    encoding := fun _ => ⟨_, rfl⟩ }
  let data := Utf8.encode
    "begincodespacerange<00><FF>endcodespacerange beginbfchar<01><41>endbfchar"
  let map := CharMap.ofMappings (some 1) [.char 1 ['A']]
  let d : Dictionary := ⟨[("Subtype", .name "Type0"), ("Encoding", .name "Identity-H"),
    ("ToUnicode", .reference ⟨1, 0⟩), ("DescendantFonts", .array [.dictionary []])]⟩
  let d' := d.insert "Encoding" (.reference ⟨5, 0⟩)
  have hread : CharMap.parse data = .ok map := by
    have hcontents : (CharMap.readSections ⟨none, []⟩ data).toOption.map
        (fun contents => (contents.codeLength?, contents.mappings)) =
          some (some 1, [.char 1 ['A']]) := by decide +kernel
    cases hsections : CharMap.readSections ⟨none, []⟩ data with
    | error e =>
      rw [hsections] at hcontents
      cases hcontents
    | ok contents =>
      rw [hsections] at hcontents
      obtain ⟨length?, mappings⟩ := contents
      cases hcontents
      exact CharMap.parse_of_readSections hsections
  have hentries : map.isEmpty = false := by
    simp [map, CharMap.isEmpty, CharMap.ofMappings, CharMap.tabulate, Mapping.codes]
  have hlength : (resolve (bareStore data) "F1" d).value.codeLength = 1 :=
    codeLength_of_charMap rfl rfl rfl rfl hread hentries (by decide +kernel)
  have hlength' : (resolve (bareStoreWith move data) "F1" d').value.codeLength = 2 := by
    decide +kernel
  have hfont := h move _ _ d d' "F1" rfl (extends_bareStoreWith move data) ⟨rfl, rfl, by decide⟩
  rw [hfont, hlength] at hlength'
  cases hlength'

/-- An array that is no descriptor counts as one where a dictionary is looked for in its text. -/
theorem not_transparentAt_descriptor : ¬TransparentAt "FontDescriptor" := by
  intro h
  let move : Relocation := {
    key := "FontDescriptor"
    value := .array [.dictionary [("FontFile2", .reference ⟨3, 0⟩)]]
    target := ⟨5, 0⟩
    text := "[<</FontFile2 3 0 R>>]"
    followed := by decide
    direct := rfl
    fresh := by decide
    read := Object.parse?_of_lexemes (by decide +kernel : Token.lexemes _ = [.arrayStart,
      .dictionaryStart, .name "FontFile2", .integer 3, .integer 0, .keyword "R", .dictionaryEnd,
      .arrayEnd]) rfl
    encoding := fun hkey => absurd hkey (by decide) }
  let d : Dictionary := ⟨[("FontDescriptor", move.value)]⟩
  have hmoves : move.Moves d (d.insert "FontDescriptor" (.reference ⟨5, 0⟩)) :=
    ⟨rfl, rfl, by decide +kernel⟩
  have hfont := h move _ _ d _ "F1" rfl (extends_bareStoreWith move []) hmoves
  -- behind the reference the program of the dictionary in the array is found
  have hprogram := congrArg (fun font : Font => font.program?.isSome) hfont
  revert hprogram
  decide +kernel

/-- The place of a value matters for the encoding and for the descriptor of a font. -/
theorem not_transparentAt : ¬TransparentAt "Encoding" ∧ ¬TransparentAt "FontDescriptor" :=
  ⟨not_transparentAt_encoding, not_transparentAt_descriptor⟩

end Font

end PdfDisplay
