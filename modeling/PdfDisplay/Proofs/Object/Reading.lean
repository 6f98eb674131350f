import PdfDisplay.Object.Reader
import PdfDisplay.Proofs.Syntax.Scanning

/-!
# Reading back objects from their lexemes

What the object reader makes of the lexemes that write an object. References are three
lexemes, of which the first two could also be integers, so what stands behind an integer
matters: `Token.Settled` says that it does not complete a reference.

An object can be written in more than one way, as strings have two forms and a key that is repeated
has its last value: `Object.Written` says which lexemes write it. The induction is on how it is
written, for an arbitrary stack of open containers and arbitrary lexemes behind it
(`OpenObject.takes_of_written`); `OpenObject.run_lexemes` is the statement for an object on its own.
-/

namespace PdfDisplay

open Lexeme

/-! ## Entries one after another -/

namespace Entries

variable {κ ν : Type} [DecidableEq κ]

/-- Entries with keys that are set one after another. -/
def setAll (before settings : List (κ × ν)) : List (κ × ν) :=
  settings.foldl (fun entries (key, value) => insert key value entries) before

/-- A key that is new goes to the end of the entries. -/
theorem insert_of_fresh {key : κ} (value : ν) {entries : List (κ × ν)}
    (h : key ∉ entries.map (·.1)) : insert key value entries = entries ++ [(key, value)] := by
  induction entries with
  | nil => rfl
  | cons entry entries ih =>
    rw [List.map_cons, List.mem_cons, not_or] at h
    rw [insert, if_neg (Ne.symm h.1), ih h.2, List.cons_append]

/-- Different keys are set in their order, by induction over the settings, each of which is new
behind the others. -/
theorem setAll_of_nodup (before : List (κ × ν)) {settings : List (κ × ν)}
    (hkeys : ((before ++ settings).map (·.1)).Nodup) :
    setAll before settings = before ++ settings := by
  induction settings generalizing before with
  | nil => exact (List.append_nil before).symm
  | cons entry settings ih =>
    have hfresh : entry.1 ∉ before.map (·.1) := by
      rw [List.map_append, List.map_cons] at hkeys
      exact fun hmem => (List.nodup_append.mp hkeys).2.2 _ hmem _ List.mem_cons_self rfl
    have hnext : setAll before (entry :: settings) = setAll (before ++ [entry]) settings :=
      congrArg (setAll · settings) (insert_of_fresh entry.2 hfresh)
    -- the key and the value have moved from the entries that follow to those set
    rw [List.append_cons before entry settings] at hkeys ⊢
    rw [hnext, ih _ hkeys]

/-- **Entries whose keys differ are kept as they are**, in the order in which they were set. -/
theorem ofList_of_nodup {settings : List (κ × ν)} (hkeys : (settings.map (·.1)).Nodup) :
    ofList settings = settings :=
  setAll_of_nodup [] hkeys

end Entries

/-! ## Lexemes of objects -/

/-- Whether the number and the generation of a reference are in range. -/
def ObjectRef.InRange (target : ObjectRef) : Prop :=
  target.number < 0x100000000 ∧ target.generation < 0x10000

namespace Object

mutual

/-- The lexemes that write an object, strings in digits. -/
def lexemes : Object → List Lexeme
  | .null => [.keyword "null"]
  | .boolean value => [.keyword (if value then "true" else "false")]
  | .integer value => [.integer value]
  | .real value => [.real value]
  | .name text => [.name text]
  | .string bytes => [.hexString bytes]
  | .array items => .arrayStart :: (itemLexemes items ++ [.arrayEnd])
  | .dictionary entries => .dictionaryStart :: (entryLexemes entries ++ [.dictionaryEnd])
  | .reference target => [.integer target.number, .integer target.generation, .keyword "R"]

/-- The lexemes that write the items of an array. -/
def itemLexemes : List Object → List Lexeme
  | [] => []
  | item :: rest => item.lexemes ++ itemLexemes rest

/-- The lexemes that write the entries of a dictionary. -/
def entryLexemes : List (String × Object) → List Lexeme
  | [] => []
  | (key, value) :: rest => .name key :: (value.lexemes ++ entryLexemes rest)

end

/-- The objects that the reader can follow: references are in range, the keys of a dictionary
differ, and containers nest at most `depth` deep. -/
inductive Fits : Nat → Object → Prop where
  /-- The null value. -/
  | null {depth : Nat} : Fits depth .null
  /-- A truth value. -/
  | boolean {depth : Nat} (value : Bool) : Fits depth (.boolean value)
  /-- A whole number. -/
  | integer {depth : Nat} (value : Int) : Fits depth (.integer value)
  /-- Any other number. -/
  | real {depth : Nat} (value : Float) : Fits depth (.real value)
  /-- A name. -/
  | name {depth : Nat} (text : String) : Fits depth (.name text)
  /-- A string. -/
  | string {depth : Nat} (bytes : Bytes) : Fits depth (.string bytes)
  /-- A reference. -/
  | reference {depth : Nat} {target : ObjectRef} (h : target.InRange) :
    Fits depth (.reference target)
  /-- An array. -/
  | array {depth : Nat} {items : List Object} (h : ∀ item ∈ items, Fits depth item) :
    Fits (depth + 1) (.array items)
  /-- A dictionary. -/
  | dictionary {depth : Nat} {entries : List (String × Object)}
    (hkeys : (entries.map (·.1)).Nodup) (h : ∀ entry ∈ entries, Fits depth entry.2) :
    Fits (depth + 1) (.dictionary entries)

end Object

/-- A key with its value, and lexemes that write the value. -/
structure WrittenEntry where
  /-- The key. -/
  key : String
  /-- The value. -/
  value : Object
  /-- The lexemes that write the value. -/
  lexemes : List Lexeme

namespace WrittenEntry

/-- The key with its value. -/
def pair (entry : WrittenEntry) : String × Object := (entry.key, entry.value)

/-- The lexemes that write the key and the value. -/
def text (entry : WrittenEntry) : List Lexeme := .name entry.key :: entry.lexemes

theorem map_pair (entries : List WrittenEntry) :
    (entries.map pair).map (·.1) = entries.map key := by
  rw [List.map_map]
  rfl

end WrittenEntry

/-- Whether lexemes write an object, whose containers nest at most `depth` deep. A reference that is
out of range is null, and of a key that is repeated the last value counts. -/
inductive Object.Written : Nat → Object → List Lexeme → Prop where
  /-- The null value. -/
  | null {depth : Nat} : Written depth .null [.keyword "null"]
  /-- A truth value. -/
  | boolean {depth : Nat} (value : Bool) :
    Written depth (.boolean value) [.keyword (if value then "true" else "false")]
  /-- A whole number. -/
  | integer {depth : Nat} (value : Int) : Written depth (.integer value) [.integer value]
  /-- Any other number. -/
  | real {depth : Nat} (value : Float) : Written depth (.real value) [.real value]
  /-- A name. -/
  | name {depth : Nat} (text : String) : Written depth (.name text) [.name text]
  /-- A string in parentheses. -/
  | literalString {depth : Nat} (bytes : Bytes) :
    Written depth (.string bytes) [.literalString bytes]
  /-- A string in digits. -/
  | hexString {depth : Nat} (bytes : Bytes) : Written depth (.string bytes) [.hexString bytes]
  /-- A reference. -/
  | reference {depth : Nat} (number generation : Int) :
    Written depth ((Token.target? number generation).elim .null .reference)
      [.integer number, .integer generation, .keyword "R"]
  /-- An array of objects with the lexemes that write them. -/
  | array {depth : Nat} (items : List (Object × List Lexeme))
    (h : ∀ item ∈ items, Written depth item.1 item.2) :
    Written (depth + 1) (.array (items.map (·.1)))
      (.arrayStart :: (items.flatMap (·.2) ++ [.arrayEnd]))
  /-- A dictionary. -/
  | dictionary {depth : Nat} (entries : List WrittenEntry)
    (h : ∀ entry ∈ entries, Written depth entry.value entry.lexemes) :
    Written (depth + 1) (.dictionary (Entries.ofList (entries.map WrittenEntry.pair)))
      (.dictionaryStart :: (entries.flatMap WrittenEntry.text ++ [.dictionaryEnd]))

namespace Token

/-! ## Lexemes of texts -/

/-- The reader of lexemes takes one lexeme at a time and goes on with what the scan leaves. -/
theorem lexemesOnto_of_scan {text rest : Bytes} {l : Lexeme} (h : scan text = .lexeme l rest)
    (read : List Lexeme) : lexemesOnto read text = lexemesOnto (l :: read) rest := by
  rw [lexemesOnto]
  split
  next heq =>
    cases h.symm.trans heq
    rfl
  next heq => cases h.symm.trans heq
  next heq => cases h.symm.trans heq

/-- It stops at the first scan that gives none, whether the text is at its end or a string is not
closed. -/
theorem lexemesOnto_of_end {text : Bytes} (h : ∀ l rest, scan text ≠ .lexeme l rest)
    (read : List Lexeme) : lexemesOnto read text = read.reverse := by
  rw [lexemesOnto]
  split
  next l rest heq => exact absurd heq (h l rest)
  next => rfl
  next => rfl

/-- What was read before only stands in front, so an accumulator can be left out of what is said
about the lexemes of a text. -/
theorem lexemesOnto_eq_append (read : List Lexeme) (text : Bytes) :
    lexemesOnto read text = read.reverse ++ lexemes text := by
  -- the statement is for all that has been read, as for the tokens of lexemes
  refine lexemesOnto.induct (fun _ text => ∀ read, lexemesOnto read text = read.reverse ++
    lexemes text) ?_ ?_ ?_ read text read
  · intro _ text l rest h _ ih read
    have htext : lexemes text = l :: lexemes rest := by
      rw [lexemes, lexemesOnto_of_scan h, ih]
      rfl
    rw [lexemesOnto_of_scan h, ih, htext, List.reverse_cons, List.append_assoc]
    rfl
  · intro _ text h read
    have hend (l : Lexeme) (rest : Bytes) : scan text ≠ .lexeme l rest :=
      fun heq => by cases h.symm.trans heq
    rw [lexemesOnto_of_end hend, lexemes, lexemesOnto_of_end hend, List.reverse_nil,
      List.append_nil]
  · intro _ text h read
    have hend (l : Lexeme) (rest : Bytes) : scan text ≠ .lexeme l rest :=
      fun heq => by cases h.symm.trans heq
    rw [lexemesOnto_of_end hend, lexemes, lexemesOnto_of_end hend, List.reverse_nil,
      List.append_nil]

/-- The lexemes of a text, one after another, are those of any run that stops where no further
lexeme can be scanned. -/
theorem lexemes_of_scans {text rest : Bytes} {ls : List Lexeme} (h : Scans text ls rest) :
    lexemes text = ls ++ lexemes rest := by
  induction h with
  | nil => rfl
  | @cons text after last l ls hl _ ih =>
    rw [lexemes, lexemesOnto_of_scan hl, lexemesOnto_eq_append, ih]
    rfl

theorem lexemes_of_end {text : Bytes} (h : ∀ l rest, scan text ≠ .lexeme l rest) :
    lexemes text = [] :=
  lexemesOnto_of_end h []

/-! ## References -/

/-- The same for joining: tokens that were joined before stand in front of what the lexemes are
joined to. -/
theorem joinOnto_eq_append (read : List Token) (ls : List Lexeme) :
    joinOnto read ls = read.reverse ++ joinOnto [] ls := by
  -- every call puts something else in front, so the statement is for all that has been read
  refine joinOnto.induct (fun _ ls => ∀ read, joinOnto read ls = read.reverse ++ joinOnto [] ls)
    ?_ ?_ ?_ ?_ read ls read
  · intro _ number generation rest ih read
    rw [joinOnto, if_pos rfl, ih, joinOnto, if_pos rfl, ih [_], List.reverse_cons,
      List.append_assoc]
    rfl
  · intro _ number generation word rest hword ih read
    rw [joinOnto, if_neg hword, ih, joinOnto, if_neg hword, ih [_], List.reverse_cons,
      List.append_assoc]
    rfl
  · intro _ l rest hne ih read
    rw [joinOnto.eq_2 _ _ _ hne, ih, joinOnto.eq_2 _ _ _ hne, ih [_], List.reverse_cons,
      List.append_assoc]
    rfl
  · intro _ read
    rw [joinOnto, joinOnto, List.reverse_nil, List.append_nil]

/-- **Two integers and an `R` are joined to one reference**, and joining starts afresh behind the
`R`. -/
theorem join_reference (number generation : Int) (rest : List Lexeme) :
    join (.integer number :: .integer generation :: .keyword "R" :: rest) =
      reference (target? number generation) :: join rest := by
  rw [join, joinOnto, if_pos rfl, joinOnto_eq_append, join]
  rfl

/-- Whether lexemes behind an integer leave it an integer, and behind two integers as well. -/
def Settled (ls : List Lexeme) : Prop :=
  ls.head? ≠ some (.keyword "R") ∧
    ∀ generation rest, ls = .integer generation :: rest → rest.head? ≠ some (.keyword "R")

/-- A lexeme with which no reference begins is a token of its own. -/
theorem joinOnto_cons {l : Lexeme} {ls : List Lexeme}
    (h : ∀ number generation rest, l = .integer number →
      ls ≠ .integer generation :: .keyword "R" :: rest) (read : List Token) :
    joinOnto read (l :: ls) = joinOnto (lexeme l :: read) ls := by
  by_cases hform : ∃ number generation word rest,
      l = .integer number ∧ ls = .integer generation :: .keyword word :: rest
  · obtain ⟨number, generation, word, rest, rfl, rfl⟩ := hform
    have hword : word ≠ "R" := by
      rintro rfl
      exact h number generation rest rfl rfl
    rw [joinOnto, if_neg hword]
  · exact joinOnto.eq_2 _ _ _ fun number generation word rest hl hrest =>
      hform ⟨number, generation, word, rest, hl, hrest⟩

/-- Any other lexeme is a token by itself, provided that an integer is not followed by what could
make it part of a reference. -/
theorem join_cons {l : Lexeme} {rest : List Lexeme}
    (h : ∀ number, l = .integer number → Settled rest) :
    join (l :: rest) = lexeme l :: join rest := by
  have halone : ∀ number generation behind, l = .integer number →
      rest ≠ .integer generation :: .keyword "R" :: behind :=
    fun number generation _ hl hrest => (h number hl).2 generation _ hrest rfl
  rw [join, joinOnto_cons halone]
  exact joinOnto_eq_append [lexeme l] rest

/-! ### What leaves an integer alone -/

theorem settled_nil : Settled [] := ⟨nofun, nofun⟩

/-- **Joining can be cut in front of what is settled**: no reference reaches across the cut, by
induction over the lexemes in front of it. -/
theorem joinOnto_append {rest : List Lexeme} (hrest : Settled rest) (read : List Token)
    (front : List Lexeme) : joinOnto read (front ++ rest) = joinOnto read front ++ join rest := by
  fun_induction joinOnto read front with
  | case1 read number generation front ih =>
    rw [List.cons_append, List.cons_append, List.cons_append, joinOnto, if_pos rfl, ih]
  | case2 read number generation word front hword ih =>
    rw [List.cons_append, List.cons_append, List.cons_append, joinOnto, if_neg hword]
    exact ih
  | case3 read l front hfront ih =>
    rw [List.cons_append, joinOnto_cons, ih]
    rintro number generation behind rfl heq
    -- a reference would be in front of the rest, or what leaves an integer alone would complete it
    cases front with
    | nil => exact hrest.2 generation _ heq rfl
    | cons l' front =>
      obtain ⟨rfl, hbehind⟩ := List.cons.inj heq
      cases front with
      | nil => exact hrest.1 (congrArg List.head? hbehind)
      | cons l'' front =>
        obtain ⟨rfl, -⟩ := List.cons.inj hbehind
        exact hfront number generation "R" front rfl rfl
  | case4 read => exact joinOnto_eq_append read rest

/-- Lexemes in front of what leaves an integer alone are joined on their own. -/
theorem join_append {rest : List Lexeme} (hrest : Settled rest) (front : List Lexeme) :
    join (front ++ rest) = join front ++ join rest :=
  joinOnto_append hrest [] front

/-- Whether a lexeme is no part of a reference. -/
def standsAlone : Lexeme → Bool
  | .integer _ | .keyword _ => false
  | _ => true

/-- A lexeme that is no integer is a token by itself, whatever follows. -/
theorem join_cons_of_standsAlone (l : Lexeme) (h : standsAlone l = true) (rest : List Lexeme) :
    join (l :: rest) = lexeme l :: join rest := by
  refine join_cons fun number hl => ?_
  rw [hl] at h
  cases h

/-- A text whose first lexeme stands alone is settled, since no reference begins with it. -/
theorem settled_cons {l : Lexeme} (h : standsAlone l = true) (rest : List Lexeme) :
    Settled (l :: rest) := by
  refine ⟨fun hhead => ?_, fun generation tail htail => ?_⟩
  · rw [Option.some.inj hhead] at h
    cases h
  · rw [(List.cons.inj htail).1] at h
    cases h

/-- A written object in front leaves an integer alone: even where it begins with integers, an `R`
behind them is its own. -/
theorem settled_of_written {depth : Nat} {o : Object} {ls : List Lexeme} (h : o.Written depth ls)
    {rest : List Lexeme} (hrest : Settled rest) : Settled (ls ++ rest) := by
  cases h with
  | null => exact ⟨by simp, nofun⟩
  | boolean value => cases value <;> exact ⟨by simp, nofun⟩
  | integer value =>
    refine ⟨nofun, fun generation tail htail => ?_⟩
    obtain rfl : rest = tail := (List.cons.inj htail).2
    exact hrest.1
  | reference number generation =>
    refine ⟨nofun, fun generation tail htail => ?_⟩
    rw [← (List.cons.inj htail).2]
    nofun
  | _ => exact settled_cons rfl _

/-- The written items of an array in front of a settled text are settled, by induction over the
items. -/
theorem settled_items {depth : Nat} {items : List (Object × List Lexeme)}
    (h : ∀ item ∈ items, item.1.Written depth item.2) {rest : List Lexeme}
    (hrest : Settled rest) : Settled (items.flatMap (·.2) ++ rest) := by
  induction items with
  | nil => exact hrest
  | cons item items ih =>
    obtain ⟨hitem, hitems⟩ := List.forall_mem_cons.mp h
    rw [List.flatMap_cons, List.append_assoc]
    exact settled_of_written hitem (ih hitems)

/-- Entries begin with their key, which stands alone, so they are settled wherever what follows them
is. -/
theorem settled_entries (entries : List WrittenEntry) {rest : List Lexeme}
    (hrest : Settled rest) : Settled (entries.flatMap WrittenEntry.text ++ rest) := by
  cases entries with
  | nil => exact hrest
  | cons entry entries => exact settled_cons rfl _

end Token

/-! ## Open containers -/

/-- Whether an object is no container. -/
def Object.IsScalar (v : Object) : Prop := v.array? = none ∧ v.dictionary? = none

namespace OpenObject

open Token

/-- Whether a token ends a container. -/
def closes : Token → Bool
  | .lexeme .arrayEnd | .lexeme .dictionaryEnd => true
  | _ => false

/-- Whether the next value goes to the innermost container, or is the outermost value. -/
def awaits : List OpenObject → Bool
  | dictionary _ none :: _ => false
  | _ => true

/-- Where a value is awaited, a token that closes nothing begins one. -/
theorem feed_of_awaits {stack : List OpenObject} (hstack : awaits stack = true) {token : Token}
    (htoken : closes token = false) : feed stack token = begin stack token := by
  match stack with
  | [] => rfl
  | array items :: outer =>
    cases token with
    | reference target? => rfl
    | lexeme l => cases l <;> cases htoken <;> rfl
  | dictionary entries none :: outer => cases hstack
  | dictionary entries (some key) :: outer =>
    cases token with
    | reference target? => rfl
    | lexeme l => cases l <;> cases htoken <;> rfl

/-- Whether a container holds nothing yet. -/
def IsNew (opened : OpenObject) : Prop := opened = array [] ∨ opened = dictionary ∅ none

/-- What a token does where a value may begin: it is passed over, or hands over a value that is no
container, or opens a container if there is room for it. -/
theorem begin_cases (stack : List OpenObject) (token : Token) :
    begin stack token = dropIn stack ∨
      (∃ v : Object, v.IsScalar ∧ begin stack token = putIn v stack) ∨
      (token = .lexeme .arrayStart ∨ token = .lexeme .dictionaryStart) ∧ stack.length < maxOpen ∧
        ∃ opened, IsNew opened ∧ begin stack token = .opened (opened :: stack) := by
  fun_cases begin stack token
  all_goals first
    | exact .inl rfl
    | exact .inr (.inl ⟨_, ⟨rfl, rfl⟩, rfl⟩)
    | exact .inr (.inr ⟨.inl rfl, ‹_›, _, .inl rfl, rfl⟩)
    | exact .inr (.inr ⟨.inr rfl, ‹_›, _, .inr rfl, rfl⟩)

/-- Goes on behind a step. -/
def goOn : Step → List Token → Option Object
  | .opened stack, tokens => run stack tokens
  | .done value, _ => some value

/-- **A run takes one token and goes on with what that leaves**, or stops with the value that is
finished. -/
theorem run_cons (stack : List OpenObject) (token : Token) (tokens : List Token) :
    run stack (token :: tokens) = goOn (feed stack token) tokens := by
  rw [run]
  cases feed stack token <;> rfl

/-- **What every token keeps of the open containers** is known of the value that is read. -/
theorem run_invariant (kept : List OpenObject → Prop) (read : Object → Prop)
    (hopened : ∀ stack token stack', kept stack → feed stack token = .opened stack' → kept stack')
    (hdone : ∀ stack token value, kept stack → feed stack token = .done value → read value)
    (hclose : ∀ stack value, kept stack → close stack = some value → read value)
    {stack : List OpenObject} {tokens : List Token} {value : Object} (h : kept stack)
    (hrun : run stack tokens = some value) : read value := by
  induction tokens generalizing stack with
  | nil => exact hclose stack value h hrun
  | cons token tokens ih =>
    rw [run_cons] at hrun
    cases hfeed : feed stack token with
    | opened stack' =>
      rw [hfeed] at hrun
      exact ih (hopened stack token stack' h hfeed) hrun
    | done value' =>
      rw [hfeed] at hrun
      obtain rfl := Option.some.inj hrun
      exact hdone stack token value' h hfeed

/-- The lexemes `ls`, read where a value may begin, have the effect of handing over the value,
whatever leaves an integer alone stands behind them. -/
def Takes (stack : List OpenObject) (ls : List Lexeme) (value : Object) : Prop :=
  ∀ rest, Settled rest →
    ∃ token tokens, join (ls ++ rest) = token :: tokens ∧ closes token = false ∧
      goOn (begin stack token) tokens = goOn (putIn value stack) (join rest)

/-- **Lexemes that are taken for a value put it into the innermost open object**, and the run goes
on behind them: what the inductions over trees compose. -/
theorem run_of_takes {stack : List OpenObject} (hstack : awaits stack = true) {ls : List Lexeme}
    {value : Object} (h : Takes stack ls value) {rest : List Lexeme} (hrest : Settled rest) :
    run stack (join (ls ++ rest)) = goOn (putIn value stack) (join rest) := by
  obtain ⟨token, tokens, hjoin, htoken, hnext⟩ := h rest hrest
  rw [hjoin, run_cons, feed_of_awaits hstack htoken, hnext]

/-! ### Objects that are a single token -/

/-- A lexeme that is a value by itself, such as a number or a name, is taken for it at once. -/
theorem takes_single {stack : List OpenObject} {l : Lexeme} {value : Object}
    (hcloses : closes (.lexeme l) = false) (hbegin : begin stack (.lexeme l) = putIn value stack) :
    Takes stack [l] value := by
  intro rest hrest
  refine ⟨.lexeme l, join rest, join_cons fun number _ => hrest, hcloses, ?_⟩
  rw [hbegin]

/-- The three lexemes of a reference are taken for the reference, or for null where its numbers do
not fit one. -/
theorem takes_reference (stack : List OpenObject) (number generation : Int) :
    Takes stack [.integer number, .integer generation, .keyword "R"]
      ((target? number generation).elim .null .reference) := by
  intro rest _
  refine ⟨_, _, join_reference number generation rest, rfl, ?_⟩
  cases target? number generation <;> rfl

/-! ### Containers -/

/-- **The items of an array are put into it one behind another**, by induction over the items with
those before as the state of the open array. -/
theorem run_items {depth : Nat} {items : List (Object × List Lexeme)} {outer : List OpenObject}
    (hwritten : ∀ item ∈ items, item.1.Written depth item.2)
    (h : ∀ item ∈ items, ∀ before, Takes (array before :: outer) item.2 item.1)
    (before : List Object) {rest : List Lexeme} (hrest : Settled rest) :
    run (array before :: outer) (join (items.flatMap (·.2) ++ rest)) =
      run (array ((items.map (·.1)).reverse ++ before) :: outer) (join rest) := by
  induction items generalizing before with
  | nil => rfl
  | cons item items ih =>
    obtain ⟨-, hwritten⟩ := List.forall_mem_cons.mp hwritten
    obtain ⟨hitem, hitems⟩ := List.forall_mem_cons.mp h
    rw [List.flatMap_cons, List.append_assoc,
      run_of_takes rfl (hitem before) (settled_items hwritten hrest)]
    rw [putIn, goOn, put, ih hwritten hitems, List.map_cons, List.reverse_cons, List.append_assoc]
    rfl

/-- A name where a key is due becomes the key under which the next value goes. -/
theorem run_key (entries : Dictionary) (outer : List OpenObject) (key : String)
    (rest : List Lexeme) :
    run (dictionary entries none :: outer) (join (.name key :: rest)) =
      run (dictionary entries (some key) :: outer) (join rest) := by
  rw [join_cons_of_standsAlone (.name key) rfl, run_cons]
  rfl

/-- **The entries of a dictionary are set one behind another**, by induction over the entries, a key
and its value at a time. -/
theorem run_entries {entries : List WrittenEntry} {outer : List OpenObject}
    (h : ∀ entry ∈ entries, ∀ before,
      Takes (dictionary before (some entry.key) :: outer) entry.lexemes entry.value)
    (before : List (String × Object)) {rest : List Lexeme} (hrest : Settled rest) :
    run (dictionary ⟨before⟩ none :: outer) (join (entries.flatMap WrittenEntry.text ++ rest)) =
      run (dictionary ⟨Entries.setAll before (entries.map WrittenEntry.pair)⟩ none :: outer)
        (join rest) := by
  induction entries generalizing before with
  | nil => rfl
  | cons entry entries ih =>
    obtain ⟨hentry, hentries⟩ := List.forall_mem_cons.mp h
    rw [List.flatMap_cons, WrittenEntry.text, List.cons_append, List.cons_append, List.append_assoc,
      run_key, run_of_takes rfl (hentry ⟨before⟩) (settled_entries entries hrest)]
    rw [putIn, goOn, put, Dictionary.insert, ih hentries]
    rfl

/-- The lexemes of an array are taken for the array, if one more object may be open while its items
are read. -/
theorem takes_array {depth : Nat} {stack : List OpenObject} (hstack : stack.length < maxOpen)
    {items : List (Object × List Lexeme)} (hwritten : ∀ item ∈ items, item.1.Written depth item.2)
    (h : ∀ item ∈ items, ∀ before, Takes (array before :: stack) item.2 item.1) :
    Takes stack (.arrayStart :: (items.flatMap (·.2) ++ [.arrayEnd]))
      (.array (items.map (·.1))) := by
  intro rest _
  rw [List.cons_append, List.append_assoc, List.singleton_append]
  refine ⟨_, _, join_cons_of_standsAlone .arrayStart rfl _, rfl, ?_⟩
  rw [begin, if_pos hstack, goOn, run_items hwritten h [] (settled_cons rfl rest), List.append_nil,
    join_cons_of_standsAlone .arrayEnd rfl, run_cons]
  rw [feed, value, List.reverse_reverse]

/-- The lexemes of a dictionary are taken for the dictionary of its entries, later ones with the
same key replacing earlier ones. -/
theorem takes_dictionary {stack : List OpenObject} (hstack : stack.length < maxOpen)
    {entries : List WrittenEntry}
    (h : ∀ entry ∈ entries, ∀ before,
      Takes (dictionary before (some entry.key) :: stack) entry.lexemes entry.value) :
    Takes stack (.dictionaryStart :: (entries.flatMap WrittenEntry.text ++ [.dictionaryEnd]))
      (.dictionary (Entries.ofList (entries.map WrittenEntry.pair))) := by
  intro rest _
  rw [List.cons_append, List.append_assoc, List.singleton_append]
  refine ⟨_, _, join_cons_of_standsAlone .dictionaryStart rfl _, rfl, ?_⟩
  have hentries := run_entries h [] (settled_cons (l := .dictionaryEnd) rfl rest)
  rw [begin, if_pos hstack, goOn]
  rw [show (∅ : Dictionary) = ⟨[]⟩ from rfl, hentries,
    join_cons_of_standsAlone .dictionaryEnd rfl, run_cons]
  rfl

/-! ### Every object -/

/-- **The lexemes that write an object hand over the object**: in every container, as long as the
containers around it and those in it are at most `maxOpen` deep together. -/
theorem takes_of_written {depth : Nat} {o : Object} {ls : List Lexeme} (h : o.Written depth ls)
    {stack : List OpenObject} (hdepth : stack.length + depth ≤ maxOpen) : Takes stack ls o := by
  induction h generalizing stack with
  | null => exact takes_single rfl rfl
  | boolean value => cases value <;> exact takes_single rfl rfl
  | integer value => exact takes_single rfl rfl
  | real value => exact takes_single rfl rfl
  | name text => exact takes_single rfl rfl
  | literalString bytes => exact takes_single rfl rfl
  | hexString bytes => exact takes_single rfl rfl
  | reference number generation => exact takes_reference stack number generation
  | array items hwritten ih =>
    refine takes_array (by omega) hwritten fun item hitem before => ih item hitem ?_
    rw [List.length_cons]
    omega
  | dictionary entries _ ih =>
    refine takes_dictionary (by omega) fun entry hentry before => ih entry hentry ?_
    rw [List.length_cons]
    omega

end OpenObject

/-! ## Objects on their own -/

namespace Object

/-- The lexemes of items, given by recursion through the nested lists, are those of each item one
behind another. -/
theorem itemLexemes_eq (items : List Object) :
    itemLexemes items = (items.map fun item => (item, item.lexemes)).flatMap (·.2) := by
  induction items with
  | nil => rfl
  | cons item items ih => rw [itemLexemes, ih, List.map_cons, List.flatMap_cons]

/-- The lexemes of entries are a name and the lexemes of a value for each, one behind another. -/
theorem entryLexemes_eq (entries : List (String × Object)) :
    entryLexemes entries = (entries.map fun entry =>
      (⟨entry.1, entry.2, entry.2.lexemes⟩ : WrittenEntry)).flatMap WrittenEntry.text := by
  induction entries with
  | nil => rfl
  | cons entry entries ih =>
    rw [entryLexemes, ih, List.map_cons, List.flatMap_cons]
    rfl

/-- **An object that fits is written by its lexemes**, by induction over the tree, with the nesting
that is left as the index. -/
theorem Fits.written {depth : Nat} {o : Object} (h : o.Fits depth) : o.Written depth o.lexemes := by
  induction h with
  | null => exact .null
  | boolean value => exact .boolean value
  | integer value => exact .integer value
  | real value => exact .real value
  | name text => exact .name text
  | string bytes => exact .hexString bytes
  | @reference depth target htarget =>
    have hrange : 0 ≤ (target.number : Int) ∧ (target.number : Int) < 0x100000000 ∧
        0 ≤ (target.generation : Int) ∧ (target.generation : Int) < 0x10000 := by
      have := htarget.1
      have := htarget.2
      omega
    have htarget : Token.target? target.number target.generation = some target := by
      rw [Token.target?, if_pos hrange]
      rfl
    have hwritten : Written depth _ [.integer target.number, .integer target.generation,
        .keyword "R"] := .reference target.number target.generation
    rwa [htarget] at hwritten
  | @array _ items _ ih =>
    have hitems := Written.array (items.map fun item => (item, item.lexemes))
      (List.forall_mem_map.mpr ih)
    have hvalues : (items.map fun item => (item, item.lexemes)).map (·.1) = items := by
      simp [Function.comp_def]
    rwa [hvalues, ← itemLexemes_eq] at hitems
  | @dictionary _ entries hkeys _ ih =>
    have hentries := Written.dictionary
      (entries.map fun entry => ⟨entry.1, entry.2, entry.2.lexemes⟩)
      (List.forall_mem_map.mpr ih)
    have hpairs : (entries.map fun entry =>
        (⟨entry.1, entry.2, entry.2.lexemes⟩ : WrittenEntry)).map WrittenEntry.pair = entries := by
      simp [Function.comp_def, WrittenEntry.pair]
    rwa [hpairs, Entries.ofList_of_nodup hkeys, ← entryLexemes_eq] at hentries

end Object

namespace OpenObject

open Token

/-- So a run over the lexemes of an object that fits gives the object back, and nothing is left
open. -/
theorem run_lexemes {o : Object} (h : o.Fits maxOpen) : run [] (join o.lexemes) = some o := by
  have htakes : Takes [] o.lexemes o :=
    takes_of_written h.written (Nat.zero_add maxOpen ▸ Nat.le_refl _)
  have hrun := run_of_takes rfl htakes settled_nil
  rwa [List.append_nil] at hrun

end OpenObject

/-- What a text is read as depends on its lexemes alone. -/
theorem Object.parse?_of_lexemes {text : Bytes} {ls : List Lexeme} {o : Object}
    (hlexemes : Token.lexemes text = ls)
    (hrun : OpenObject.run [] (Token.join (Token.withoutHeader ls)) = some o) :
    Object.parse? text = some o := by
  rw [Object.parse?, hlexemes, hrun]

namespace Dictionary

open OpenObject Token

/-- What is read as a dictionary depends on the lexemes behind the brackets that open it. -/
theorem parse?_of_run {text : Bytes} {ls : List Lexeme} {entries : List (String × Object)}
    (hlexemes : Token.lexemes text = .dictionaryStart :: ls)
    (hrun : run [dictionary ∅ none] (join ls) = some (.dictionary entries)) :
    parse? text = some ⟨entries⟩ := by
  rw [parse?, hlexemes, List.dropWhile_cons_of_neg (by decide)]
  dsimp only
  rw [hrun]
  rfl

/-- The dictionary of a text whose lexemes are known is the value that a run over them ends with, if
that is a dictionary. -/
theorem parse?_of_scans_nil {text : Bytes} {ls : List Lexeme} {entries : List (String × Object)}
    (hscans : Scans text (.dictionaryStart :: ls) [])
    (hrun : run [dictionary ∅ none] (join ls) = some (.dictionary entries)) :
    parse? text = some ⟨entries⟩ := by
  have hnil : Token.lexemes [] = [] := Token.lexemes_of_end nofun
  have hlexemes := Token.lexemes_of_scans hscans
  rw [hnil, List.append_nil] at hlexemes
  exact parse?_of_run hlexemes hrun

/-- Entries between brackets are read as the dictionary that they make. -/
theorem parse?_of_written {text : Bytes} {entries : List WrittenEntry} {rest : List Lexeme}
    (hlexemes : Token.lexemes text =
      .dictionaryStart :: (entries.flatMap WrittenEntry.text ++ .dictionaryEnd :: rest))
    (h : ∀ entry ∈ entries, entry.value.Written 127 entry.lexemes) :
    parse? text = some ⟨Entries.ofList (entries.map WrittenEntry.pair)⟩ := by
  have htakes (entry : WrittenEntry) (hentry : entry ∈ entries) (before : Dictionary) :
      Takes [dictionary before (some entry.key)] entry.lexemes entry.value :=
    takes_of_written (h entry hentry) (Nat.le_refl _)
  have hrun := run_entries htakes [] (settled_cons (l := .dictionaryEnd) rfl rest)
  refine parse?_of_run hlexemes (hrun.trans ?_)
  rw [join_cons_of_standsAlone .dictionaryEnd rfl, run_cons]
  rfl

end Dictionary

end PdfDisplay
