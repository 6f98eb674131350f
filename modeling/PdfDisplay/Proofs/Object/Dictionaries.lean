import PdfDisplay.Proofs.Object.Reading

/-!
# Texts that are read as dictionaries

`Object.parse?` reads the first object of a text and `Dictionary.parse?` the first dictionary, which
may be part of another object. Where the first object is a dictionary the two agree
(`Dictionary.parse?_of_object`).
-/

namespace PdfDisplay

namespace OpenObject

open Token

/-! ## Inside an array -/

/-- Whether the outermost of the open containers is an array. -/
def InArray (stack : List OpenObject) : Prop := ∃ inner items, stack = inner ++ [array items]

/-- Whether a step stays inside the outermost array, or completes it. -/
def Step.InArray : Step → Prop
  | .opened stack => OpenObject.InArray stack
  | .done value => ∃ items, value = .array items

variable {stack outer : List OpenObject} {inner inner' : OpenObject}

theorem inArray_cons_iff :
    InArray (inner :: outer) ↔ (outer = [] ∧ ∃ items, inner = array items) ∨ InArray outer := by
  constructor
  · rintro ⟨_ | ⟨_, rest⟩, items, h⟩
    · obtain ⟨rfl, rfl⟩ := List.cons.inj h
      exact .inl ⟨rfl, items, rfl⟩
    · obtain ⟨rfl, rfl⟩ := List.cons.inj h
      exact .inr ⟨rest, items, rfl⟩
  · rintro (⟨rfl, items, rfl⟩ | ⟨rest, items, rfl⟩)
    · exact ⟨[], items, rfl⟩
    · exact ⟨inner :: rest, items, rfl⟩

theorem InArray.mono (h : InArray (inner :: outer))
    (harray : ∀ items, inner = array items → ∃ items', inner' = array items') :
    InArray (inner' :: outer) := by
  rw [inArray_cons_iff] at h ⊢
  obtain ⟨rfl, items, hitems⟩ | h := h
  · exact .inl ⟨rfl, harray items hitems⟩
  · exact .inr h

theorem InArray.cons (h : InArray outer) (inner : OpenObject) : InArray (inner :: outer) :=
  inArray_cons_iff.mpr (.inr h)

theorem InArray.putIn (h : InArray stack) (v : Object) : (putIn v stack).InArray := by
  cases stack with
  | nil =>
    obtain ⟨inner, items, h⟩ := h
    exact absurd h (by simp)
  | cons inner outer =>
    refine h.mono ?_
    rintro items rfl
    exact ⟨v :: items, rfl⟩

theorem InArray.dropIn (h : InArray stack) : (dropIn stack).InArray := by
  cases stack with
  | nil => exact h
  | cons inner outer =>
    refine h.mono ?_
    rintro items rfl
    exact ⟨items, rfl⟩

theorem InArray.begin (h : InArray stack) (token : Token) : (begin stack token).InArray := by
  obtain hbegin | ⟨v, -, hbegin⟩ | ⟨-, -, opened, -, hbegin⟩ := begin_cases stack token
  · exact hbegin ▸ h.dropIn
  · exact hbegin ▸ h.putIn v
  · exact hbegin ▸ h.cons opened

/-- A bracket that closes a container hands over the container, or completes the outermost one. -/
theorem InArray.close (h : InArray (inner :: outer)) :
    (OpenObject.putIn inner.value outer).InArray := by
  obtain ⟨rfl, items, rfl⟩ | h := inArray_cons_iff.mp h
  · exact ⟨_, rfl⟩
  · exact h.putIn _

theorem InArray.feed (h : InArray stack) (token : Token) : (feed stack token).InArray := by
  fun_cases OpenObject.feed stack token
  all_goals first
    | exact h.close
    | exact h.begin _
    | exact h.mono nofun

theorem InArray.run {tokens : List Token} {value : Object} (h : InArray stack)
    (hrun : run stack tokens = some value) : ∃ items, value = .array items := by
  refine run_invariant InArray (fun value => ∃ items, value = .array items)
    (fun _ token _ h hfeed => ?_) (fun _ token _ h hfeed => ?_) ?_ h hrun
  · exact (hfeed ▸ h.feed token : Step.InArray (.opened _))
  · exact (hfeed ▸ h.feed token : Step.InArray (.done _))
  · rintro _ value ⟨inner, items, rfl⟩ hclose
    cases inner with
    | nil => exact ⟨_, (Option.some.inj hclose).symm⟩
    | cons first inner =>
      rw [List.cons_append, OpenObject.close, List.foldl_append] at hclose
      exact ⟨_, (Option.some.inj hclose).symm⟩

/-! ## In front of the first dictionary -/

/-- A token that begins a value other than a dictionary completes no dictionary. -/
theorem begin_nil_ne_dictionary {token : Token} (h : token ≠ .lexeme .dictionaryStart)
    {tokens : List Token} {entries : List (String × Object)}
    (hrun : goOn (begin [] token) tokens = some (.dictionary entries)) :
    begin [] token = .opened [] := by
  by_cases harray : token = .lexeme .arrayStart
  · -- an array that is opened here ends as an array
    subst harray
    have hinside : InArray [array []] := ⟨[], [], rfl⟩
    obtain ⟨items, hitems⟩ := hinside.run hrun
    cases hitems
  · fun_cases OpenObject.begin [] token
    all_goals first
      | rfl
      | exact absurd rfl h
      | exact absurd rfl harray
      | cases hrun

theorem exists_join_integer (number : Int) (ls : List Lexeme) :
    ∃ token tokens value, join (.integer number :: ls) = token :: tokens ∧
      begin [] token = .done value ∧ value.dictionary? = none := by
  -- an integer begins a reference, if two lexemes of the right kinds follow, or stands for itself
  rw [join, joinOnto.eq_def]
  split
  case h_1 generation word rest heq =>
    obtain ⟨hnumber, rfl⟩ := List.cons.inj heq
    split
    case isTrue =>
      rw [joinOnto_eq_append]
      cases target? _ generation with
      | none => exact ⟨_, _, _, rfl, rfl, rfl⟩
      | some target => exact ⟨_, _, _, rfl, rfl, rfl⟩
    case isFalse =>
      rw [joinOnto_eq_append]
      exact ⟨_, _, _, rfl, rfl, rfl⟩
  case h_2 l rest _ heq =>
    obtain ⟨rfl, rfl⟩ := List.cons.inj heq
    rw [joinOnto_eq_append]
    exact ⟨_, _, _, rfl, rfl, rfl⟩
  case h_3 heq => cases heq

/-- What is read as a dictionary begins with the first bracket that opens one. -/
theorem exists_dropWhile_of_run {ls : List Lexeme} {entries : List (String × Object)}
    (h : run [] (join ls) = some (.dictionary entries)) :
    ∃ rest, ls.dropWhile (· != .dictionaryStart) = .dictionaryStart :: rest ∧
      run [dictionary ∅ none] (join rest) = some (.dictionary entries) := by
  induction ls with
  | nil => cases h
  | cons l ls ih =>
    by_cases hinteger : ∃ number, l = .integer number
    · -- an integer is an object, alone or as part of a reference
      obtain ⟨number, rfl⟩ := hinteger
      obtain ⟨token, tokens, value, hjoin, hbegin, hvalue⟩ := exists_join_integer number ls
      rw [hjoin, run_cons] at h
      change goOn (begin [] token) tokens = _ at h
      rw [hbegin] at h
      cases h
      cases hvalue
    · rw [join_cons fun number hl => absurd ⟨number, hl⟩ hinteger, run_cons] at h
      change goOn (begin [] (.lexeme l)) (join ls) = _ at h
      by_cases hstart : l = .dictionaryStart
      · subst hstart
        exact ⟨ls, by simp, h⟩
      · have hbegin := begin_nil_ne_dictionary (fun ht => hstart (Token.lexeme.inj ht)) h
        rw [hbegin] at h
        obtain ⟨rest, hrest, hrun⟩ := ih h
        refine ⟨rest, ?_, hrun⟩
        rw [List.dropWhile_cons_of_pos, hrest]
        exact bne_iff_ne.mpr hstart

end OpenObject

/-- The header of an object holds no bracket, so leaving it out does not move the first bracket of
the text. -/
theorem Token.dropWhile_withoutHeader (ls : List Lexeme) :
    (withoutHeader ls).dropWhile (· != .dictionaryStart) =
      ls.dropWhile (· != .dictionaryStart) := by
  fun_cases withoutHeader ls with
  | case1 | case2 | case3 => rfl

/-- **A text that is read as a dictionary is read as the same one where a dictionary is wanted.** -/
theorem Dictionary.parse?_of_object {text : Bytes} {entries : List (String × Object)}
    (h : Object.parse? text = some (.dictionary entries)) :
    Dictionary.parse? text = some ⟨entries⟩ := by
  obtain ⟨rest, hdrop, hrun⟩ := OpenObject.exists_dropWhile_of_run h
  rw [Token.dropWhile_withoutHeader] at hdrop
  rw [parse?, hdrop]
  dsimp only
  rw [hrun]
  rfl

end PdfDisplay
