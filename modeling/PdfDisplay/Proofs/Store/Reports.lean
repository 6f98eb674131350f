import PdfDisplay.Proofs.Store.Outcome
import PdfDisplay.Store.Basic

/-!
# Work that warns

`Diagnoses p` says of work what it hands on and which warnings it gives on the way: `p a given`. In
work of two steps the warnings of the second stand behind those of the first (`Diagnoses.bind`).

Mostly it matters only whether there was a warning. So the property that `Warns` speaks of has a
proposition as its first argument, which says that there was none: `p clean a`. The warnings have a
property of their own; those about a font are what `Reports` speaks of.

`Kept` is the property of most parts of a result: a part that is kept was read, and without a
warning nothing that is declared is absent.

`Answers` are the answers that a store may give, as far as results depend on them. `Answers.Leads`
says which object a value leads to, and `Answers.ComesTo` also when it leads to none.
-/

namespace PdfDisplay

variable {α β : Type}

/-! ## Parts that are kept -/

/-- What is known of a part that is read if it is declared, where `clean` says that there was
no warning. -/
structure Kept (clean declared : Prop) (read : α → Prop) (part? : Option α) : Prop where
  /-- A part that is kept was read. -/
  read : ∀ part, part? = some part → read part
  /-- Without a warning a declared part is kept. -/
  kept : clean → declared → ∃ part, part? = some part

namespace Kept

variable {clean clean' declared declared' : Prop} {read read' : α → Prop}

theorem some {part : α} (h : read part) : Kept clean declared read (some part) where
  read := by
    rintro _ ⟨⟩
    exact h
  kept _ _ := ⟨part, rfl⟩

/-- Nothing is kept where nothing was declared, or where a warning says what was not read. -/
theorem none (h : clean → ¬declared) : Kept clean declared read none where
  read := nofun
  kept hclean hdeclared := absurd hdeclared (h hclean)

/-- Where nothing was kept and there was no warning, nothing had been declared. -/
theorem not_declared (h : Kept clean declared read Option.none) (hclean : clean) : ¬declared :=
  fun hdeclared => (h.kept hclean hdeclared).elim nofun

/-- What is kept of a part stays kept when less is asked for and more is known to be clean. -/
theorem mono {part? : Option α} (h : Kept clean declared read part?) (hclean : clean' → clean)
    (hdeclared : declared' → declared) (hread : ∀ part, read part → read' part) :
    Kept clean' declared' read' part? where
  read part hpart := hread part (h.read part hpart)
  kept hc hd := h.kept (hclean hc) (hdeclared hd)

/-- What is known where there is no warning is known where there may be one. -/
theorem weaken {part? : Option α} (h : Kept clean declared read part?) (hclean : clean' → clean) :
    Kept clean' declared read part? :=
  h.mono hclean id fun _ => id

end Kept

/-! ## Warnings -/

/-- No failure of the store is reported as truncated content, so that warning is never one about an
object. -/
theorem StoreError.warningCode_ne_truncatedContent (e : StoreError) :
    e.warningCode ≠ .truncatedContent := by
  cases e <;> simp [StoreError.warningCode]

/-- Whether a warning is about the font with a tag, and not about the end of page contents. -/
structure Warning.IsAbout (tag : String) (w : Warning) : Prop where
  /-- The font is told. -/
  font : w.fontName? = some tag
  /-- The contents are not said to be cut short. -/
  code : w.code ≠ .truncatedContent

variable {m : Type → Type} [Monad m]

/-- Whether what some work hands on has the property `p`, together with the warnings that it
gives. -/
def Diagnoses (p : α → List Warning → Prop) (work : Diagnosing m α) : Prop :=
  ∀ before, Yields (fun r => ∃ given, r.2 = before ++ given ∧ p r.1 given) (work.run before)

namespace Diagnoses

variable [LawfulMonad m] {p : α → List Warning → Prop} {q : β → List Warning → Prop}

theorem pure {a : α} (h : p a []) : Diagnoses p (Pure.pure a : Diagnosing m α) := by
  intro before
  rw [StateT.run_pure]
  exact .pure ⟨[], (List.append_nil _).symm, h⟩

theorem mono {p' : α → List Warning → Prop} {work : Diagnosing m α} (hwork : Diagnoses p work)
    (h : ∀ a given, p a given → p' a given) : Diagnoses p' work := fun before =>
  (hwork before).mono fun _ ⟨given, heq, ha⟩ => ⟨given, heq, h _ _ ha⟩

/-- **Reports of two works add up**: the warnings of the first stand in front of those of the
second, and the outcome is about both. -/
theorem bind {work : Diagnosing m α} {f : α → Diagnosing m β} (hwork : Diagnoses p work)
    (hf : ∀ a first, p a first → Diagnoses (fun b second => q b (first ++ second)) (f a)) :
    Diagnoses q (work >>= f) := by
  intro before
  rw [StateT.run_bind]
  refine (hwork before).bind fun (a, _) ⟨first, hfirst, ha⟩ => ?_
  obtain rfl : _ = before ++ first := hfirst
  refine (hf a first ha _).mono fun (b, _) ⟨second, hsecond, hb⟩ => ?_
  obtain rfl : _ = before ++ first ++ second := hsecond
  exact ⟨first ++ second, List.append_assoc .., hb⟩

/-- Work of the store itself gives no warnings, so what is reported about it rests on its answer
alone. -/
theorem lift {x : m α} (h : Yields (p · []) x) : Diagnoses p (x : Diagnosing m α) := by
  intro before
  change Yields _ ((monadLift x : StateT (List Warning) m α).run before)
  rw [StateT.run_monadLift]
  exact h.bind fun a ha => .pure ⟨[], (List.append_nil _).symm, ha⟩

/-- Work that ends with a warning reports that warning and nothing else. -/
theorem warned {w : Warning} {a : α} (h : p a [w]) :
    Diagnoses p (do Diagnosing.warn w; Pure.pure a : Diagnosing m α) := by
  intro before
  rw [StateT.run_bind, Diagnosing.warn]
  change Yields _ (Pure.pure _ >>= _)
  rw [pure_bind]
  exact .pure ⟨[w], rfl, h⟩

/-- What is known of work, when its warnings are collected. -/
theorem collect {work : Diagnosing m α} (h : Diagnoses p work) :
    Yields (fun d => p d.value d.warnings) work.collect := by
  rw [Diagnosing.collect]
  refine (h []).bind fun (a, _) ⟨given, hgiven, ha⟩ => ?_
  obtain rfl : _ = given := hgiven
  exact .pure ha

end Diagnoses

variable {tag : String} {about : Warning → Prop} {p : Prop → α → Prop} {q : Prop → β → Prop}

/-- Whether all warnings of some work have the property `about`, and the value `a` that it hands on
has the property `p clean a`, where `clean` says that the work gave no warning. -/
def Warns (about : Warning → Prop) (p : Prop → α → Prop) (work : Diagnosing m α) : Prop :=
  ∀ before, Yields
    (fun r => ∃ given, r.2 = before ++ given ∧ (∀ w ∈ given, about w) ∧ p (given = []) r.1)
    (work.run before)

/-- To warn is to leave warnings that are about something, and to give a value that is known to be
complete if there are none. -/
theorem warns_iff_diagnoses {work : Diagnosing m α} :
    Warns about p work ↔
      Diagnoses (fun a given => (∀ w ∈ given, about w) ∧ p (given = []) a) work :=
  Iff.rfl

/-- Whether all warnings are about the font with a tag. -/
abbrev Reports (tag : String) (p : Prop → α → Prop) (work : Diagnosing m α) : Prop :=
  Warns (Warning.IsAbout tag) p work

namespace Warns

variable [LawfulMonad m]

theorem pure {a : α} (h : p True a) : Warns about p (Pure.pure a : Diagnosing m α) := by
  refine warns_iff_diagnoses.mpr (.pure ⟨nofun, ?_⟩)
  rwa [eq_self]

theorem mono {p' : Prop → α → Prop} {work : Diagnosing m α} (hwork : Warns about p work)
    (h : ∀ clean a, p clean a → p' clean a) : Warns about p' work :=
  warns_iff_diagnoses.mpr <|
    (warns_iff_diagnoses.mp hwork).mono fun _ _ ⟨hgiven, ha⟩ => ⟨hgiven, h _ _ ha⟩

theorem bind {work : Diagnosing m α} {f : α → Diagnosing m β} (hwork : Warns about p work)
    (hf : ∀ clean a, p clean a → Warns about (fun clean' => q (clean ∧ clean')) (f a)) :
    Warns about q (work >>= f) := by
  refine warns_iff_diagnoses.mpr
    (.bind (warns_iff_diagnoses.mp hwork) fun a first ⟨habout, ha⟩ => ?_)
  refine (warns_iff_diagnoses.mp (hf _ a ha)).mono fun b second ⟨habout', hb⟩ => ?_
  refine ⟨List.forall_mem_append.mpr ⟨habout, habout'⟩, ?_⟩
  rwa [List.append_eq_nil_iff]

/-- Work of the store itself gives no warnings. -/
theorem lift {x : m α} (h : Yields (p True) x) : Warns about p (x : Diagnosing m α) := by
  refine warns_iff_diagnoses.mpr (.lift (h.mono fun a ha => ⟨nofun, ?_⟩))
  rwa [eq_self]

/-- Work that ends with a warning. -/
theorem warned {w : Warning} {a : α} (hw : about w) (h : p False a) :
    Warns about p (do Diagnosing.warn w; Pure.pure a : Diagnosing m α) := by
  refine warns_iff_diagnoses.mpr (.warned ⟨List.forall_mem_singleton.mpr hw, ?_⟩)
  rwa [eq_false (List.cons_ne_nil w [])]

/-- What is known of work, when its warnings are collected. -/
theorem collect {work : Diagnosing m α} (h : Warns about p work) :
    Yields (fun d => (∀ w ∈ d.warnings, about w) ∧ p (d.warnings = []) d.value)
      work.collect :=
  Diagnoses.collect (warns_iff_diagnoses.mp h)

end Warns

/-- What is known of work that reports, when its warnings are collected. -/
theorem Reports.collect [LawfulMonad m] {work : Diagnosing m α} (h : Reports tag p work) :
    Yields (fun d => (∀ w ∈ d.warnings, w.fontName? = some tag) ∧ p (d.warnings = []) d.value)
      work.collect :=
  (Warns.collect h).mono fun _ ⟨hwarnings, ha⟩ => ⟨fun w hw => (hwarnings w hw).font, ha⟩

/-! ## Answers of a store -/

/-- The answers that may be given to requests for texts and for decoded data. -/
structure Answers where
  /-- The answers to a request for the text of an object. -/
  text : ObjectRef → Except StoreError String → Prop
  /-- The answers to a request for the decoded data of a stream. -/
  decoded : ObjectRef → Except StoreError Bytes → Prop

/-- Whether a store gives no other answers. -/
structure ObjectStore.Gives (store : ObjectStore m) (answers : Answers) : Prop where
  /-- To requests for texts. -/
  text : ∀ target, Yields (answers.text target) (store.text target)
  /-- To requests for decoded data. -/
  decoded : ∀ target, Yields (answers.decoded target) (store.decoded target)

/-- Any answers. -/
def Answers.any : Answers := ⟨fun _ _ => True, fun _ _ => True⟩

/-- Of a store of which nothing is known, anything may be given. -/
theorem ObjectStore.gives_any [LawfulMonad m] (store : ObjectStore m) : store.Gives .any where
  text _ := .trivial _
  decoded _ := .trivial _

/-- The answers of a store that gives always the same. -/
def ObjectStore.answers (store : ObjectStore Id) : Answers where
  text target answer := answer = store.text target
  decoded target answer := answer = store.decoded target

/-- A fixed store gives its own answers, so what is said of every store's answers can be said of
them. -/
theorem ObjectStore.gives_answers (store : ObjectStore Id) : store.Gives store.answers where
  text _ := .pure rfl
  decoded _ := .pure rfl

namespace Answers

variable (answers : Answers)

/-- Whether a value is an object, or refers to one whose text can be read. -/
inductive Leads : Object → Object → Prop
  /-- An object that refers to no other. -/
  | direct {value : Object} (h : value.reference? = none) : Leads value value
  /-- A reference. -/
  | reference {target : ObjectRef} {text : String} {value : Object}
    (htext : answers.text target (.ok text))
    (hread : Object.parse? (Utf8.encode text) = some value) : Leads (.reference target) value

/-- Whether a reference leads to a dictionary that can be read. -/
def DictionaryAt (target : ObjectRef) (d : Dictionary) : Prop :=
  ∃ text, answers.text target (.ok text) ∧ Dictionary.parse? (Utf8.encode text) = some d

/-- Whether a value is a dictionary, or refers to one that can be read. -/
inductive LeadsToDictionary : Object → Dictionary → Prop
  /-- A dictionary. -/
  | direct (entries : List (String × Object)) : LeadsToDictionary (.dictionary entries) ⟨entries⟩
  /-- A reference. -/
  | reference {target : ObjectRef} {d : Dictionary} (h : answers.DictionaryAt target d) :
    LeadsToDictionary (.reference target) d

/-! ## What a value comes to -/

/-- What the reading of an object's text may come to. It comes to nothing exactly where there is no
text, or none of the right form. -/
inductive TextReads (read? : Bytes → Option α) (target : ObjectRef) : Option α → Prop
  /-- There is a text. -/
  | text {text : String} {a? : Option α} (htext : answers.text target (.ok text))
    (hread : read? (Utf8.encode text) = a?) : TextReads read? target a?
  /-- There is none. -/
  | error {e : StoreError} (htext : answers.text target (.error e)) : TextReads read? target none

/-- What a value may come to: an object, or nothing where a reference leads to none. -/
inductive ComesTo : Object → Option Object → Prop
  /-- An object that refers to no other. -/
  | direct {value : Object} (h : value.reference? = none) : ComesTo value (some value)
  /-- A reference. -/
  | reference {target : ObjectRef} {value? : Option Object}
    (h : answers.TextReads Object.parse? target value?) : ComesTo (.reference target) value?

/-- What a value may come to, where a dictionary is wanted. -/
inductive ComesToDictionary : Object → Option Dictionary → Prop
  /-- A dictionary. -/
  | direct (entries : List (String × Object)) :
    ComesToDictionary (.dictionary entries) (some ⟨entries⟩)
  /-- A reference. -/
  | reference {target : ObjectRef} {d? : Option Dictionary}
    (h : answers.TextReads Dictionary.parse? target d?) : ComesToDictionary (.reference target) d?
  /-- Anything else. -/
  | other {value : Object} (hdictionary : value.dictionary? = none)
    (hreference : value.reference? = none) : ComesToDictionary value none

end Answers

end PdfDisplay
