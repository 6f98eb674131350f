import Mathlib.Data.List.Forall2
import PdfDisplay.Page.Resources
import PdfDisplay.Proofs.Lists
import PdfDisplay.Proofs.Object.Keys
import PdfDisplay.Proofs.Store.Reports

/-!
# Resources that are kept or warned of

Every entry of a category of the resources is in the table of the category, or there is one warning
that begins with its place; and a category that cannot be read has one warning too, and leaves the
other categories alone. `PageResources.Accounts` says so of resources and their warnings: the
warnings correspond one by one to the faults, in their order. This is known of all resources that
are read, whatever the store answers (`PageResources.accounts_resources`).

A table is filled entry by entry. That an entry stays in it, and the warning about one that is left
out stays the only one, rests on the keys, which a dictionary holds once (`PageResources.Fills`).
-/

namespace PdfDisplay

/-- Whether a warning is about a place: the description begins with the place, and no font is
told. -/
structure Warning.IsOf (place : String) (w : Warning) : Prop where
  /-- Behind the place comes what is wrong. -/
  description : ∃ complaint, w.description = place ++ complaint
  /-- There is no font. -/
  font : w.fontName? = none

/-- The font that a value gives: one that it refers to, or the dictionary that it is. -/
def Object.declaredFont? : Object → Option FontEntry
  | .reference target => some (.reference target)
  | .dictionary entries => some (.inline ⟨entries⟩)
  | _ => none

/-- What a category of a resources dictionary may come to: its entries, of which there are none if
it is absent, or nothing where it cannot be read. -/
inductive Answers.ComesToCategory (answers : Answers) (d : Dictionary) (key : String) :
    Option (List (String × Object)) → Prop
  /-- There is no such category. -/
  | absent (h : d.get? key = none) : ComesToCategory answers d key (some [])
  /-- There is one, or a reference to it. -/
  | present {value : Object} {category? : Option Dictionary} (hvalue : d.get? key = some value)
    (h : answers.ComesToDictionary value category?) :
    ComesToCategory answers d key (category?.map (·.entries))

namespace PageResources

variable {α : Type}

/-! ## Accounts -/

/-- The entries of a category whose names a table does not hold. -/
def missing (table : Std.TreeMap String α) (entries : List (String × Object)) :
    List (String × Object) :=
  entries.filter fun entry => !table.contains entry.1

/-- The places of what is not in a table: of the category itself if it cannot be read, or else of
the entries that are missing. -/
def faults (key : String) (place : String → String) (entries? : Option (List (String × Object)))
    (table : Std.TreeMap String α) : List String :=
  match entries? with
  | none => ["/" ++ key]
  | some entries => (missing table entries).map fun entry => place entry.1

/-- Whether a table holds what the entries of a category come to, and nothing else. -/
structure IsTableOf (comes : Object → Option α → Prop) (entries : List (String × Object))
    (table : Std.TreeMap String α) : Prop where
  /-- Under the name of an entry is what its value comes to. -/
  own : ∀ entry ∈ entries, comes entry.2 table[entry.1]?
  /-- The names are those of entries. -/
  names : ∀ name ∈ table, name ∈ entries.map (·.1)

/-- **Whether nothing of a resources dictionary is dropped silently**, where `fonts?`, `drawable?`
and `parameters?` are what its categories come to. -/
structure Accounts (answers : Answers) (d : Dictionary)
    (fonts? drawable? parameters? : Option (List (String × Object)))
    (resources : PageResources) (warnings : List Warning) : Prop where
  /-- The category of the fonts. -/
  comesToFonts : answers.ComesToCategory d "Font" fonts?
  /-- The category of what can be drawn. -/
  comesToDrawable : answers.ComesToCategory d "XObject" drawable?
  /-- The category of the parameters. -/
  comesToParameters : answers.ComesToCategory d "ExtGState" parameters?
  /-- Fonts are dictionaries and references. -/
  fonts : IsTableOf (·.declaredFont? = ·) (fonts?.getD []) resources.fonts
  /-- What can be drawn are references. -/
  drawable : IsTableOf (·.reference? = ·) (drawable?.getD []) resources.drawable
  /-- Parameters are dictionaries, some of which are referred to. -/
  parameters : IsTableOf answers.ComesToDictionary (parameters?.getD []) resources.parameters
  /-- There is a warning for each fault, in the same order. -/
  warnings : List.Forall₂ Warning.IsOf
    (faults "Font" ("/Font /" ++ ·) fonts? resources.fonts ++
      faults "XObject" ("/XObject /" ++ ·) drawable? resources.drawable ++
      faults "ExtGState" ("/" ++ ·) parameters? resources.parameters) warnings

theorem length_faults (key : String) (place : String → String)
    (entries? : Option (List (String × Object))) (table : Std.TreeMap String α) :
    (faults key place entries? table).length =
      [entries?].countP (·.isNone) + (missing table (entries?.getD [])).length := by
  cases entries? with
  | none => rfl
  | some entries => simp [faults]

/-- There are as many warnings as categories that cannot be read and entries that are missing. -/
theorem Accounts.length_warnings {answers : Answers} {d : Dictionary}
    {fonts? drawable? parameters? : Option (List (String × Object))} {resources : PageResources}
    {warnings : List Warning}
    (h : Accounts answers d fonts? drawable? parameters? resources warnings) :
    warnings.length = [fonts?, drawable?, parameters?].countP (·.isNone) +
      ((missing resources.fonts (fonts?.getD [])).length +
        (missing resources.drawable (drawable?.getD [])).length +
        (missing resources.parameters (parameters?.getD [])).length) := by
  have hcount : [fonts?, drawable?, parameters?].countP (·.isNone) =
      [fonts?].countP (·.isNone) + [drawable?].countP (·.isNone) +
        [parameters?].countP (·.isNone) := by
    rw [← List.countP_append, ← List.countP_append]
    rfl
  rw [← h.warnings.length_eq, List.length_append, List.length_append, length_faults, length_faults,
    length_faults, hcount]
  omega

/-! ## Values -/

/-- Whether a value came to something without a warning, or to nothing with one warning, which is
about a place. -/
inductive IsRead (comes : Option α → Prop) (place : String) : Option α → List Warning → Prop
  /-- The value came to something. -/
  | some {a : α} (h : comes (some a)) : IsRead comes place (some a) []
  /-- The value came to nothing. -/
  | none {w : Warning} (h : comes none) (hw : w.IsOf place) : IsRead comes place none [w]

variable {m : Type → Type} [Monad m] [LawfulMonad m] {store : ObjectStore m} {answers : Answers}

theorem diagnoses_dictionary (hstore : store.Gives answers) (key : String) (value : Object) :
    Diagnoses (IsRead (answers.ComesToDictionary value) ("/" ++ key))
      (dictionary store key value) := by
  rw [dictionary.eq_def]
  split
  case h_1 entries => exact .pure (.some (.direct entries))
  case h_2 target =>
    have htext : Diagnoses (fun answer given => answers.text target answer ∧ given = [])
        (store.text target : Diagnosing m _) :=
      .lift ((hstore.text target).mono fun _ h => ⟨h, rfl⟩)
    refine htext.bind ?_
    rintro answer _ ⟨hanswer, rfl⟩
    split
    case h_1 text =>
      split
      case h_1 d hread => exact .pure (.some (.reference (.text hanswer hread)))
      case h_2 hread =>
        exact .warned (.none (.reference (.text hanswer hread)) ⟨⟨_, rfl⟩, rfl⟩)
    case h_2 e =>
      exact .warned (.none (.reference (.error hanswer)) ⟨⟨_, String.append_assoc ..⟩, rfl⟩)
  case h_3 hdictionary hreference =>
    refine .warned (.none (.other ?_ ?_) ⟨⟨_, rfl⟩, rfl⟩)
    · cases value <;> first | rfl | exact absurd rfl (hdictionary _)
    · cases value <;> first | rfl | exact absurd rfl (hreference _)

theorem diagnoses_fontEntry (tag : String) (value : Object) :
    Diagnoses (IsRead (value.declaredFont? = ·) ("/Font /" ++ tag))
      (fontEntry tag value : Diagnosing m (Option FontEntry)) := by
  rw [fontEntry.eq_def]
  split
  case h_1 => exact .pure (.some rfl)
  case h_2 => exact .pure (.some rfl)
  case h_3 hreference hdictionary =>
    refine .warned (.none ?_ ⟨⟨_, rfl⟩, rfl⟩)
    rw [Object.declaredFont?.eq_def]
    split
    case h_1 => exact absurd rfl (hreference _)
    case h_2 => exact absurd rfl (hdictionary _)
    case h_3 => rfl

theorem diagnoses_drawableEntry (name : String) (value : Object) :
    Diagnoses (IsRead (value.reference? = ·) ("/XObject /" ++ name))
      (drawableEntry name value : Diagnosing m (Option ObjectRef)) := by
  rw [drawableEntry.eq_def]
  split
  case h_1 => exact .pure (.some rfl)
  case h_2 hreference =>
    refine .warned (.none ?_ ⟨⟨_, rfl⟩, rfl⟩)
    rw [Object.reference?.eq_def]
    split
    case h_1 => exact absurd rfl (hreference _)
    case h_2 => rfl

/-! ## Tables -/

/-- Whether a table comes from another one when entries are put into it, with the warnings about
those that are left out. -/
structure Fills (comes : Object → Option α → Prop) (place : String → String)
    (before : Std.TreeMap String α) (entries : List (String × Object))
    (after : Std.TreeMap String α) (given : List Warning) : Prop where
  /-- Under the name of an entry is what its value comes to. -/
  own : ∀ entry ∈ entries, comes entry.2 after[entry.1]?
  /-- What is under other names stays. -/
  others : ∀ name, name ∉ entries.map (·.1) → after[name]? = before[name]?
  /-- There is a warning about each entry that is missing. -/
  warnings : List.Forall₂ Warning.IsOf
    ((missing after entries).map fun entry => place entry.1) given

section Fills

variable {comes : Object → Option α → Prop} {place : String → String}
  {before after : Std.TreeMap String α} {entries : List (String × Object)} {given : List Warning}
  {name : String} {value : Object}

/-- An entry is put in front of others with other names. -/
theorem Fills.some {a : α} (h : Fills comes place (before.insert name a) entries after given)
    (hname : name ∉ entries.map (·.1)) (hvalue : comes value (.some a)) :
    Fills comes place before ((name, value) :: entries) after given := by
  -- no entry behind it has its name
  have hafter : after[name]? = Option.some a := by
    rw [h.others name hname, Std.TreeMap.getElem?_insert_self]
  refine ⟨List.forall_mem_cons.mpr ⟨hafter ▸ hvalue, h.own⟩, fun other hother => ?_, ?_⟩
  · rw [List.map_cons, List.mem_cons, not_or] at hother
    rw [h.others other hother.2, Std.TreeMap.getElem?_insert,
      if_neg fun hsame => hother.1 (Std.compare_eq_iff_eq.mp hsame).symm]
  · have hkept : after.contains name = true := by
      rw [Std.TreeMap.contains_eq_isSome_getElem?, hafter, Option.isSome_some]
    rw [missing, List.filter_cons_of_neg (by simp [hkept])]
    exact h.warnings

/-- An entry is left out. -/
theorem Fills.none {w : Warning} (h : Fills comes place before entries after given)
    (hname : name ∉ entries.map (·.1)) (hfresh : name ∉ before) (hvalue : comes value .none)
    (hw : w.IsOf (place name)) :
    Fills comes place before ((name, value) :: entries) after (w :: given) := by
  have hafter : after[name]? = Option.none := by
    rw [h.others name hname]
    exact Std.TreeMap.getElem?_eq_none hfresh
  refine ⟨List.forall_mem_cons.mpr ⟨hafter ▸ hvalue, h.own⟩, fun other hother => ?_, ?_⟩
  · rw [List.map_cons, List.mem_cons, not_or] at hother
    exact h.others other hother.2
  · have hmissing : after.contains name = false := by
      rw [Std.TreeMap.contains_eq_isSome_getElem?, hafter, Option.isSome_none]
    rw [missing, List.filter_cons_of_pos (by simp [hmissing])]
    exact .cons hw h.warnings

/-- A table that has been filled with the entries of a category holds these. -/
theorem Fills.isTableOf (h : Fills comes place ∅ entries after given) :
    IsTableOf comes entries after where
  own := h.own
  names name hname := by
    by_cases hmem : name ∈ entries.map (·.1)
    case pos => exact hmem
    case neg =>
      rw [Std.TreeMap.mem_iff_isSome_getElem?, h.others name hmem, Std.TreeMap.getElem?_emptyc]
        at hname
      cases hname

/-- **Each entry goes into the table or leaves one warning**, by induction over the entries, whose
keys differ. -/
theorem diagnoses_tabulate {read : String → Object → Diagnosing m (Option α)}
    (hread : ∀ name value, Diagnoses (IsRead (comes value) (place name)) (read name value))
    (hkeys : (entries.map (·.1)).Nodup) (hfresh : ∀ entry ∈ entries, entry.1 ∉ before) :
    Diagnoses (Fills comes place before entries) (tabulate read before entries) := by
  -- the table may hold names already, but none of those that are still to come
  induction entries generalizing before with
  | nil => exact .pure ⟨List.forall_mem_nil _, fun _ _ => rfl, .nil⟩
  | cons entry entries ih =>
    obtain ⟨name, value⟩ := entry
    obtain ⟨hname, hkeys⟩ := List.nodup_cons.mp hkeys
    obtain ⟨hfirst, hfresh⟩ := List.forall_mem_cons.mp hfresh
    refine (hread name value).bind fun a? given hvalue => ?_
    cases hvalue with
    | @some a hvalue =>
      have hfresh : ∀ entry ∈ entries, entry.1 ∉ before.insert name a := fun entry hentry => by
        rw [Std.TreeMap.mem_insert, Std.compare_eq_iff_eq, not_or]
        exact ⟨fun hsame => hname (List.mem_map.mpr ⟨entry, hentry, hsame.symm⟩),
          hfresh entry hentry⟩
      exact (ih hkeys hfresh).mono fun after given h => h.some hname hvalue
    | none hvalue hw =>
      exact (ih hkeys hfresh).mono fun after given h => h.none hname hfirst hvalue hw

end Fills

/-! ## Categories -/

theorem diagnoses_category (hstore : store.Gives answers) (d : Dictionary) (key : String) :
    Diagnoses (fun entries given => ∃ entries?,
        IsRead (answers.ComesToCategory d key) ("/" ++ key) entries? given ∧
          entries = entries?.getD [])
      (category store d key) := by
  rw [category]
  split
  case h_1 habsent => exact .pure ⟨_, .some (.absent habsent), rfl⟩
  case h_2 value hvalue =>
    refine (diagnoses_dictionary hstore key value).bind fun category? given hcategory => ?_
    cases hcategory with
    | some h => exact .pure ⟨_, .some (.present hvalue h), rfl⟩
    | none h hw => exact .pure ⟨_, .none (.present hvalue h) hw, rfl⟩

theorem keysOnce_of_comesToDictionary {value : Object} {d : Dictionary}
    (h : answers.ComesToDictionary value (some d)) (hvalue : value.KeysOnce) : d.KeysOnce := by
  cases h with
  | direct => exact hvalue
  | reference h =>
    cases h with
    | text _ hread => exact Dictionary.keysOnce_of_parse? hread

/-- The keys of a category differ, since a dictionary that was parsed has each of its keys once. -/
theorem nodup_category {d : Dictionary} (hd : d.KeysOnce) {key : String}
    {entries : List (String × Object)} (h : answers.ComesToCategory d key (some entries)) :
    (entries.map (·.1)).Nodup := by
  generalize hentries : some entries = entries? at h
  cases h with
  | absent =>
    obtain rfl := Option.some.inj hentries
    exact .nil
  | present hvalue h =>
    obtain ⟨category, rfl, rfl⟩ := Option.map_eq_some_iff.mp hentries.symm
    exact (keysOnce_of_comesToDictionary h (hd.of_get? hvalue)).nodup

/-- What becomes of a category, and the warnings about it. -/
structure CategoryAccount (answers : Answers) (d : Dictionary) (key : String)
    (comes : Object → Option α → Prop) (place : String → String)
    (entries? : Option (List (String × Object))) (table : Std.TreeMap String α)
    (given : List Warning) : Prop where
  /-- What the category comes to. -/
  comesTo : answers.ComesToCategory d key entries?
  /-- The table holds the entries. -/
  isTableOf : IsTableOf comes (entries?.getD []) table
  /-- There is a warning for each fault. -/
  warnings : List.Forall₂ Warning.IsOf (faults key place entries? table) given

/-- The table of the entries of a category that can be read. -/
def categoryTable (store : ObjectStore m) (d : Dictionary) (key : String)
    (read : String → Object → Diagnosing m (Option α)) : Diagnosing m (Std.TreeMap String α) := do
  tabulate read ∅ (← category store d key)

theorem diagnoses_categoryTable (hstore : store.Gives answers) {d : Dictionary} (hd : d.KeysOnce)
    (key : String) {comes : Object → Option α → Prop} {place : String → String}
    {read : String → Object → Diagnosing m (Option α)}
    (hread : ∀ name value, Diagnoses (IsRead (comes value) (place name)) (read name value)) :
    Diagnoses (fun table given => ∃ entries?,
        CategoryAccount answers d key comes place entries? table given)
      (categoryTable store d key read) := by
  refine (diagnoses_category hstore d key).bind ?_
  rintro _ first ⟨entries?, hentries, rfl⟩
  -- either the category has its warning, or its entries have theirs
  cases hentries with
  | @some entries h =>
    have hfresh : ∀ entry ∈ entries, entry.1 ∉ (∅ : Std.TreeMap String α) := fun _ _ =>
      Std.TreeMap.not_mem_emptyc
    refine (diagnoses_tabulate hread (nodup_category hd h) hfresh).mono ?_
    exact fun table given hfills => ⟨_, h, hfills.isTableOf, hfills.warnings⟩
  | none h hw =>
    refine .pure ⟨_, h, ⟨List.forall_mem_nil _, fun name hname => ?_⟩, .cons hw .nil⟩
    exact absurd hname Std.TreeMap.not_mem_emptyc

theorem ofDictionary_eq (store : ObjectStore m) (d : Dictionary) :
    ofDictionary store d = (do
      let fonts ← categoryTable store d "Font" fontEntry
      let drawable ← categoryTable store d "XObject" drawableEntry
      let parameters ← categoryTable store d "ExtGState" (dictionary store)
      return { fonts, drawable, parameters }) := by
  simp only [ofDictionary, categoryTable, bind_assoc]

/-- Whether there is an account of resources and their warnings. -/
def Accounted (answers : Answers) (d : Dictionary) (resources : PageResources)
    (warnings : List Warning) : Prop :=
  ∃ fonts? drawable? parameters?,
    Accounts answers d fonts? drawable? parameters? resources warnings

/-- The warnings of the resources are those of their three categories, one behind the other. -/
theorem diagnoses_ofDictionary (hstore : store.Gives answers) {d : Dictionary} (hd : d.KeysOnce) :
    Diagnoses (Accounted answers d) (ofDictionary store d) := by
  rw [ofDictionary_eq]
  refine (diagnoses_categoryTable hstore hd "Font" diagnoses_fontEntry).bind ?_
  rintro fonts first ⟨fonts?, hfonts⟩
  refine (diagnoses_categoryTable hstore hd "XObject" diagnoses_drawableEntry).bind ?_
  rintro drawable second ⟨drawable?, hdrawable⟩
  refine (diagnoses_categoryTable hstore hd "ExtGState" (diagnoses_dictionary hstore)).bind ?_
  rintro parameters third ⟨parameters?, hparameters⟩
  refine .pure ⟨fonts?, drawable?, parameters?, hfonts.comesTo, hdrawable.comesTo,
    hparameters.comesTo, hfonts.isTableOf, hdrawable.isTableOf, hparameters.isTableOf, ?_⟩
  rw [List.append_nil, ← List.append_assoc]
  exact List.rel_append (List.rel_append hfonts.warnings hdrawable.warnings) hparameters.warnings

/-- **Reading resources warns of no font**, as fonts are not resolved before they are asked for. -/
theorem yields_parse_warnings (store : ObjectStore m) (text : String) :
    Yields (fun resources => ∀ w ∈ resources.warnings, w.fontName? = none) (parse store text) := by
  refine Diagnoses.collect (p := fun _ given => ∀ w ∈ given, w.fontName? = none) ?_
  split
  case isTrue => exact .pure (List.forall_mem_nil _)
  case isFalse =>
    split
    case h_1 d hread =>
      have hd := Dictionary.keysOnce_of_parse? hread
      refine (diagnoses_ofDictionary store.gives_any hd).mono ?_
      rintro _ given ⟨_, _, _, haccount⟩ w hw
      obtain ⟨_, -, hplace⟩ := exists_of_mem_right haccount.warnings w hw
      exact hplace.font
    case h_2 => exact .warned (List.forall_mem_singleton.mpr rfl)

/-- **No resources are dropped silently.** In a dictionary with its keys once, as are those that are
read from texts, whatever the store answers: each entry of a category is in the table of the
category, under its name and with what its value comes to, or it has one warning; a category that
cannot be read has one warning, and its table alone is empty; there are no other warnings, and no
other names in the tables. -/
theorem accounts_resources (hstore : store.Gives answers) :
    (∀ d : Dictionary, d.KeysOnce →
      Yields (fun resources => ∃ fonts? drawable? parameters?,
          Accounts answers d fonts? drawable? parameters? resources.value resources.warnings ∧
          resources.warnings.length = [fonts?, drawable?, parameters?].countP (·.isNone) +
            ((missing resources.value.fonts (fonts?.getD [])).length +
              (missing resources.value.drawable (drawable?.getD [])).length +
              (missing resources.value.parameters (parameters?.getD [])).length))
        (ofDictionary store d).collect) ∧
    ∀ (text : String) (d : Dictionary), text.toList.all isBlank = false →
      Dictionary.parse? (Utf8.encode text) = some d →
        d.KeysOnce ∧ parse store text = (ofDictionary store d).collect := by
  constructor
  · intro d hd
    refine (diagnoses_ofDictionary hstore hd).collect.mono ?_
    rintro resources ⟨fonts?, drawable?, parameters?, h⟩
    exact ⟨fonts?, drawable?, parameters?, h, h.length_warnings⟩
  · intro text d hblank hread
    refine ⟨Dictionary.keysOnce_of_parse? hread, ?_⟩
    rw [parse, hblank, hread]
    rfl

/-- A font that is none, beside one that is referred to; a category that cannot be read; and
parameters, of which one leads nowhere. -/
theorem accounts_resources_mixed :
    let store : ObjectStore Id :=
      ⟨fun target => if target = ⟨5, 0⟩ then .ok "<< /LW 2 >>" else .error (.missing target),
        fun target => .error (.missing target), fun target => .error (.missing target)⟩
    let text := "<< /Font << /A 3 0 R /B 7 >> /XObject 9 0 R /ExtGState << /G 5 0 R /H 6 0 R >> >>"
    let resources := (parse store text).run
    (resources.value.fonts.keys, resources.value.drawable.keys, resources.value.parameters.keys,
        resources.warnings.map (·.description)) =
      (["A"], [], ["G"],
        ["/Font /B is neither a dictionary nor a reference", "/XObject: object 9 0 R not found",
          "/H: object 6 0 R not found"]) ∧
      ∃ d fonts? drawable? parameters?, Dictionary.parse? (Utf8.encode text) = some d ∧
        Accounts store.answers d fonts? drawable? parameters? resources.value
          resources.warnings := by
  intro store text resources
  obtain ⟨hdictionary, htext⟩ := accounts_resources store.gives_answers
  obtain ⟨d, hread⟩ : ∃ d, Dictionary.parse? (Utf8.encode text) = some d :=
    Option.isSome_iff_exists.mp (by decide +kernel)
  obtain ⟨hkeys, hparse⟩ := htext text d (by decide +kernel) hread
  have haccounts := hdictionary d hkeys
  rw [← hparse] at haccounts
  obtain ⟨fonts?, drawable?, parameters?, haccount, -⟩ :=
    possible_pure (a := resources) _ haccounts
  exact ⟨by decide +kernel, d, fonts?, drawable?, parameters?, hread, haccount⟩

end PageResources

end PdfDisplay
