import PdfDisplay.Proofs.Object.Reading
import PdfDisplay.Proofs.Syntax.Stubs

/-!
# Values that are read in part

In front of a cut the lexemes of a text are those of the whole text, with a stub of the one that the
cut falls within behind them (`IsEnd`). A value that is read in part closes none of the containers
that are open in front of it (`OpenObject.leavesOpen_of_written`), by induction on how it is
written. So when the text ends, a dictionary has the entries that were read, and at most one more,
whose key is that of the entry with the cut (`OpenObject.run_cut`).
-/

namespace PdfDisplay

open Lexeme

/-! ## Stubs of written lexemes -/

namespace Lexeme

/-- Whether a lexeme is a bracket. -/
def isBracket : Lexeme → Bool
  | arrayStart | arrayEnd | dictionaryStart | dictionaryEnd => true
  | _ => false

/-- Whether a lexeme is a name. -/
def isName : Lexeme → Bool
  | name _ => true
  | _ => false

/-- Whether a lexeme, if it is a word, is one that objects are written with. -/
def IsObjectWord (l : Lexeme) : Prop :=
  ∀ word, l = keyword word → word ∈ ["null", "true", "false", "R"]

/-- What is left of a lexeme that is cut is no bracket: of a pair of angle brackets an empty string
is left. -/
theorem Stub.isBracket {l stub : Lexeme} (h : Stub l stub) : stub.isBracket = false := by
  cases h with
  | number _ h => cases stub <;> first | rfl | cases h
  | _ => rfl

/-- What is left of a lexeme that is no name is none either. -/
theorem Stub.isName {l stub : Lexeme} (h : Stub l stub) (hl : l.isName = false) :
    stub.isName = false := by
  cases h with
  | number _ h => cases stub <;> first | rfl | cases h
  | name => cases hl
  | _ => rfl

/-- No stub of a word in objects is the word that completes a reference. -/
theorem Stub.ne_reference {l stub : Lexeme} (h : Stub l stub) (hl : l.IsObjectWord) :
    stub ≠ Lexeme.keyword "R" := by
  intro hR
  cases h with
  | number _ h => subst hR; cases h
  | @keyword first more hmore =>
    have hfirst : Utf8.decode first = "R" := Lexeme.keyword.inj hR
    have hword := List.mem_map_of_mem (f := String.toList) (hl _ rfl)
    -- the whole word would begin with `R`, and be longer
    rw [Utf8.decode_append (by rw [hfirst]; decide), hfirst, String.toList_append] at hword
    have hempty : Utf8.decode more = "" := by simpa using hword
    exact Utf8.decode_ne_empty hmore hempty
  | _ => cases hR

end Lexeme

theorem isObjectWord_entries {entries : List WrittenEntry}
    (h : ∀ entry ∈ entries, ∀ l ∈ entry.lexemes, l.IsObjectWord) :
    ∀ l ∈ entries.flatMap WrittenEntry.text, l.IsObjectWord := by
  intro l hl
  obtain ⟨entry, hentry, hl⟩ := List.mem_flatMap.mp hl
  obtain rfl | hl := List.mem_cons.mp hl
  · exact nofun
  · exact h entry hentry l hl

/-- **The words in written objects are the four of the language**, by induction over how the object
is written. -/
theorem Object.Written.isObjectWord {depth : Nat} {o : Object} {ls : List Lexeme}
    (h : o.Written depth ls) : ∀ l ∈ ls, l.IsObjectWord := by
  -- brackets are no words at all
  have hbracket {l : Lexeme} (hl : l.isBracket = true) : l.IsObjectWord := by
    rintro word rfl
    cases hl
  induction h with
  | null => simp [IsObjectWord]
  | boolean value => cases value <;> simp [IsObjectWord]
  | reference number generation => simp [IsObjectWord]
  | array items _ ih =>
    refine List.forall_mem_cons.mpr ⟨hbracket rfl, List.forall_mem_append.mpr ⟨fun l hl => ?_, ?_⟩⟩
    · obtain ⟨item, hitem, hl⟩ := List.mem_flatMap.mp hl
      exact ih item hitem l hl
    · exact List.forall_mem_singleton.mpr (hbracket rfl)
  | dictionary entries _ ih =>
    refine List.forall_mem_cons.mpr ⟨hbracket rfl, List.forall_mem_append.mpr ⟨?_, ?_⟩⟩
    · exact isObjectWord_entries ih
    · exact List.forall_mem_singleton.mpr (hbracket rfl)
  | _ => exact List.forall_mem_singleton.mpr nofun

/-- Whether a lexeme may stand at the end of a text that is cut off within the lexeme `next`, if
there is one: it is no bracket, completes no reference, and is a name only if `next` is one. -/
structure IsEnd (next : Lexeme) (stub? : Option Lexeme) : Prop where
  /-- It is no bracket. -/
  isBracket : ∀ stub, stub? = some stub → stub.isBracket = false
  /-- It completes no reference. -/
  ne_reference : ∀ stub, stub? = some stub → stub ≠ .keyword "R"
  /-- It is a name only if `next` is one. -/
  isName : next.isName = false → ∀ stub, stub? = some stub → stub.isName = false

/-- What is left of the lexeme in which a text is cut may stand at its end; in particular it
completes no reference. -/
theorem isEnd_of_stub {next : Lexeme} {stub? : Option Lexeme} (hnext : next.IsObjectWord)
    (h : ∀ stub, stub? = some stub → Stub next stub) : IsEnd next stub? where
  isBracket stub hstub := (h stub hstub).isBracket
  ne_reference stub hstub := (h stub hstub).ne_reference hnext
  isName hname stub hstub := (h stub hstub).isName hname

/-! ## Parts of a text -/

/-- Whether the lexemes of `items`, one after another, are cut off within `next`: behind the items
`read`, and behind the lexemes `part` of the one that follows. -/
structure CutsParts {α : Type} (f : α → List Lexeme) (items : List α) (front : List Lexeme)
    (next : Lexeme) (read unread : List α) (part : List Lexeme) : Prop where
  /-- The items are those that are read and those that are not. -/
  items_eq : items = read ++ unread
  /-- The lexemes are those of the items that are read, and a part. -/
  front_eq : front = read.flatMap f ++ part
  /-- The part belongs to the first item that is not read. -/
  part : part = [] ∨ ∃ item rest more, unread = item :: rest ∧ f item = part ++ next :: more

/-- **A cut falls into one of the parts**: those in front of it are whole, and the one it falls into
is cut behind some of its lexemes. -/
theorem exists_cutsParts {α : Type} {f : α → List Lexeme} {items : List α} {closing next : Lexeme}
    {front behind : List Lexeme} (h : items.flatMap f ++ [closing] = front ++ next :: behind) :
    ∃ read unread part, CutsParts f items front next read unread part := by
  induction items generalizing front with
  | nil =>
    cases front with
    | nil => exact ⟨[], [], [], rfl, rfl, .inl rfl⟩
    | cons l front => cases front <;> cases h
  | cons item items ih =>
    rw [List.flatMap_cons, List.append_assoc] at h
    -- the cut lies behind the first item, at its end, or within it
    obtain ⟨more, rfl, hmore⟩ | ⟨more, hitem, hbehind⟩ := List.append_eq_append_iff.mp h
    · obtain ⟨read, unread, part, rfl, rfl, hpart⟩ := ih hmore
      exact ⟨item :: read, unread, part, rfl, by rw [List.flatMap_cons, List.append_assoc], hpart⟩
    · cases more with
      | nil =>
        refine ⟨[item], items, [], rfl, ?_, .inl rfl⟩
        rw [List.flatMap_singleton, hitem, List.append_nil, List.append_nil]
      | cons l more =>
        obtain rfl : next = l := (List.cons.inj hbehind).1
        exact ⟨[], item :: items, front, rfl, rfl, .inr ⟨item, items, more, rfl, hitem⟩⟩

namespace CutsParts

variable {α : Type} {f : α → List Lexeme} {items read unread done : List α}
  {front part : List Lexeme} {next : Lexeme}

/-- Items that are not cut off are read: whatever lies wholly in front of the cut is among the items
that count as read. -/
theorem prefix_read (h : CutsParts f items front next read unread part) (hf : ∀ item, f item ≠ [])
    (hdone : done <+: items) (hfront : done.flatMap f <+: front) : done <+: read := by
  obtain ⟨rfl, rfl, hpart⟩ := h
  obtain hread | ⟨more, rfl⟩ := List.prefix_or_prefix_of_prefix hdone (List.prefix_append ..)
  · exact hread
  cases more with
  | nil => exact ⟨[], by rw [List.append_nil, List.append_nil]⟩
  | cons item more =>
    -- all of this item would be among the lexemes of a part of it
    rw [List.prefix_append_right_inj] at hdone
    rw [List.flatMap_append, List.prefix_append_right_inj, List.flatMap_cons] at hfront
    have hlength := hfront.length_le
    have := List.length_pos_iff.mpr (hf item)
    rw [List.length_append] at hlength
    obtain rfl | ⟨item', rest, more', rfl, hitem⟩ := hpart
    · rw [List.length_nil] at hlength
      omega
    · obtain rfl : item = item' := (List.cons_prefix_cons.mp hdone).1
      rw [hitem, List.length_append, List.length_cons] at hlength
      omega

end CutsParts

/-! ## Tokens that are no brackets -/

namespace Token

/-- Whether a token opens or closes no container. -/
def IsFlat (token : Token) : Prop := ∀ l, token = lexeme l → l.isBracket = false

/-- Whether a token is a name. -/
def isName : Token → Bool
  | lexeme l => l.isName
  | reference _ => false

theorem isFlat_lexeme {l : Lexeme} (h : l.isBracket = false) : (lexeme l).IsFlat := by
  rintro _ ⟨⟩
  exact h

/-- The tokens that lexemes make have a property that references and the lexemes have. -/
theorem forall_mem_joinOnto {p : Token → Prop} (hreference : ∀ target?, p (reference target?))
    {read : List Token} {ls : List Lexeme} (hread : ∀ token ∈ read, p token)
    (h : ∀ l ∈ ls, p (lexeme l)) : ∀ token ∈ joinOnto read ls, p token := by
  fun_induction joinOnto read ls with
  | case1 read number generation rest ih =>
    refine ih (List.forall_mem_cons.mpr ⟨hreference _, hread⟩) fun l hl => h l ?_
    exact List.mem_cons_of_mem _ (List.mem_cons_of_mem _ (List.mem_cons_of_mem _ hl))
  | case2 read number generation word rest _ ih =>
    obtain ⟨hl, hrest⟩ := List.forall_mem_cons.mp h
    exact ih (List.forall_mem_cons.mpr ⟨hl, hread⟩) hrest
  | case3 read l rest _ ih =>
    obtain ⟨hl, hrest⟩ := List.forall_mem_cons.mp h
    exact ih (List.forall_mem_cons.mpr ⟨hl, hread⟩) hrest
  | case4 read => exact fun token htoken => hread token (List.mem_reverse.mp htoken)

/-- What holds of all lexemes and of references holds of the tokens that the lexemes are joined to.
-/
theorem forall_mem_join {p : Token → Prop} (hreference : ∀ target?, p (reference target?))
    {ls : List Lexeme} (h : ∀ l ∈ ls, p (lexeme l)) : ∀ token ∈ join ls, p token :=
  forall_mem_joinOnto hreference (List.forall_mem_nil _) h

variable {next : Lexeme} {stub? : Option Lexeme}

theorem settled_end (hstub : IsEnd next stub?) : Settled stub?.toList := by
  refine ⟨fun hhead => ?_, fun generation rest hrest => ?_⟩
  · cases stub? with
    | none => cases hhead
    | some stub => exact hstub.ne_reference stub rfl (Option.some.inj hhead)
  · cases stub? with
    | none => cases hrest
    | some stub =>
      obtain rfl : [] = rest := (List.cons.inj hrest).2
      nofun

/-- A cut behind written lexemes leaves an integer alone, since the stub at the end completes no
reference. -/
theorem settled_append_end {ls front : List Lexeme} (h : Settled ls) (hfront : front <+: ls)
    (hstub : IsEnd next stub?) : Settled (front ++ stub?.toList) := by
  obtain ⟨behind, rfl⟩ := hfront
  match front with
  | [] => exact settled_end hstub
  | [l] =>
    refine ⟨h.1, fun generation rest hrest => ?_⟩
    obtain rfl : stub?.toList = rest := (List.cons.inj hrest).2
    exact (settled_end hstub).1
  | l :: l' :: front =>
    refine ⟨h.1, fun generation rest hrest => ?_⟩
    obtain ⟨rfl, rfl⟩ := List.cons.inj hrest
    exact h.2 generation (l' :: front ++ behind) rfl

end Token

/-! ## Values that are read in part -/

/-- Whether at most a key has been set in a dictionary. -/
def Dictionary.Adds (entries : Dictionary) (key : String) (after : Dictionary) : Prop :=
  after = entries ∨ ∃ value, after = entries.insert key value

namespace OpenObject

open Token

variable {next : Lexeme} {stub? : Option Lexeme}

/-- Whether a container may be what becomes of the container `inner` when a value is read in part:
in a dictionary that awaits the value of a key, at most this key has been set. -/
def Follows (last inner : OpenObject) : Prop :=
  ∀ entries key, inner = dictionary entries (some key) →
    last = inner ∨ ∃ after, last = dictionary after none ∧ entries.Adds key after

/-- A token that is no bracket opens nothing: the innermost container takes it for a value or drops
it. -/
theorem begin_of_isFlat (inner : OpenObject) (outer : List OpenObject) {token : Token}
    (h : token.IsFlat) :
    begin (inner :: outer) token = .opened (inner.drop :: outer) ∨
      ∃ v, begin (inner :: outer) token = .opened (inner.put v :: outer) := by
  obtain hbegin | ⟨v, -, hbegin⟩ | ⟨rfl | rfl, -⟩ := begin_cases (inner :: outer) token
  · exact .inl hbegin
  · exact .inr ⟨v, hbegin⟩
  · cases h _ rfl
  · cases h _ rfl

theorem closes_of_isFlat {token : Token} (h : token.IsFlat) : closes token = false := by
  fun_cases closes token
  all_goals first
    | rfl
    | cases h _ rfl

/-- A dictionary takes what is no bracket for the value that it awaits, or drops the key. -/
theorem feed_awaiting (entries : Dictionary) (key : String) (outer : List OpenObject)
    {token : Token} (h : token.IsFlat) :
    ∃ after, feed (dictionary entries (some key) :: outer) token =
      .opened (dictionary after none :: outer) ∧ entries.Adds key after := by
  rw [feed_of_awaits rfl (closes_of_isFlat h)]
  obtain hbegin | ⟨v, hbegin⟩ := begin_of_isFlat (dictionary entries (some key)) outer h
  · exact ⟨entries, hbegin, .inl rfl⟩
  · exact ⟨entries.insert key v, hbegin, .inr ⟨v, rfl⟩⟩

/-- A dictionary that awaits a key passes over what is neither a bracket nor a name. -/
theorem feed_passing (entries : Dictionary) (outer : List OpenObject) {token : Token}
    (h : token.IsFlat) (hname : token.isName = false) :
    feed (dictionary entries none :: outer) token = .opened (dictionary entries none :: outer) := by
  cases token with
  | reference target? => rfl
  | lexeme l =>
    cases l with
    | arrayStart | arrayEnd | dictionaryStart | dictionaryEnd => cases h _ rfl
    | name text => cases hname
    | _ => rfl

/-- Without brackets the open containers stay open: only the innermost one takes the token, or
passes over it. -/
theorem feed_of_isFlat (inner : OpenObject) (outer : List OpenObject) {token : Token}
    (h : token.IsFlat) : ∃ inner', feed (inner :: outer) token = .opened (inner' :: outer) := by
  by_cases hawaits : awaits (inner :: outer) = true
  case pos =>
    rw [feed_of_awaits hawaits (closes_of_isFlat h)]
    obtain hbegin | ⟨v, hbegin⟩ := begin_of_isFlat inner outer h
    · exact ⟨_, hbegin⟩
    · exact ⟨_, hbegin⟩
  case neg =>
    match inner with
    | dictionary entries none =>
      cases token with
      | reference target? => exact ⟨_, rfl⟩
      | lexeme l =>
        cases l with
        | arrayStart | arrayEnd | dictionaryStart | dictionaryEnd => cases h _ rfl
        | _ => exact ⟨_, rfl⟩
    | array items => exact absurd rfl hawaits
    | dictionary entries (some key) => exact absurd rfl hawaits

/-- A run over such tokens ends by closing the containers that were open, of which the innermost one
holds what was put into it. -/
theorem run_of_isFlat (inner : OpenObject) (outer : List OpenObject) {tokens : List Token}
    (h : ∀ token ∈ tokens, token.IsFlat) :
    ∃ inner', run (inner :: outer) tokens = close (inner' :: outer) := by
  induction tokens generalizing inner with
  | nil => exact ⟨inner, rfl⟩
  | cons token tokens ih =>
    obtain ⟨htoken, htokens⟩ := List.forall_mem_cons.mp h
    obtain ⟨inner', hfeed⟩ := feed_of_isFlat inner outer htoken
    rw [run_cons, hfeed]
    exact ih inner' htokens

/-- **Where a key is due, tokens that are no names are passed over** and the entries stay as they
are. -/
theorem run_passing (entries : Dictionary) (outer : List OpenObject) {tokens : List Token}
    (h : ∀ token ∈ tokens, token.IsFlat) (hname : ∀ token ∈ tokens, token.isName = false) :
    run (dictionary entries none :: outer) tokens = close (dictionary entries none :: outer) := by
  induction tokens with
  | nil => rfl
  | cons token tokens ih =>
    obtain ⟨htoken, htokens⟩ := List.forall_mem_cons.mp h
    obtain ⟨hname, hnames⟩ := List.forall_mem_cons.mp hname
    rw [run_cons, feed_passing entries outer htoken hname]
    exact ih htokens hnames

/-- Whether lexemes at the end of a text, read in an open container, leave this one open, perhaps
with others in it, and those around it as they are. -/
def LeavesOpen (inner : OpenObject) (outer : List OpenObject) (ls : List Lexeme) : Prop :=
  ∃ left last, last.Follows inner ∧ run (inner :: outer) (join ls) = close (left ++ last :: outer)

/-- Lexemes without brackets leave the innermost object open when the text ends behind them. -/
theorem leavesOpen_of_isFlat (inner : OpenObject) (outer : List OpenObject) {ls : List Lexeme}
    (h : ∀ token ∈ join ls, token.IsFlat)
    (hname : ∀ token ∈ (join ls).tail, token.isName = false) : LeavesOpen inner outer ls := by
  rw [LeavesOpen]
  by_cases hawaits : ∃ entries key, inner = dictionary entries (some key)
  case neg =>
    obtain ⟨last, hrun⟩ := run_of_isFlat inner outer h
    exact ⟨[], last, fun entries key hinner => absurd ⟨entries, key, hinner⟩ hawaits, hrun⟩
  case pos =>
    obtain ⟨entries, key, rfl⟩ := hawaits
    cases htokens : join ls with
    | nil => exact ⟨[], _, fun _ _ _ => .inl rfl, rfl⟩
    | cons token tokens =>
      rw [htokens] at h hname
      obtain ⟨htoken, htokens⟩ := List.forall_mem_cons.mp h
      obtain ⟨after, hfeed, hadds⟩ := feed_awaiting entries key outer htoken
      refine ⟨[], dictionary after none, ?_, ?_⟩
      · rintro _ _ ⟨⟩
        exact .inr ⟨after, rfl, hadds⟩
      · rw [run_cons, hfeed]
        exact run_passing after outer htokens hname

/-- Nothing but the stub of a lexeme is left, which a container takes for a value or passes over
without being closed. -/
theorem leavesOpen_end (inner : OpenObject) (outer : List OpenObject) (hstub : IsEnd next stub?) :
    LeavesOpen inner outer stub?.toList := by
  cases stub? with
  | none => exact leavesOpen_of_isFlat inner outer (List.forall_mem_nil _) (List.forall_mem_nil _)
  | some stub =>
    have hjoin : join [stub] = [.lexeme stub] := join_cons fun _ _ => settled_nil
    refine leavesOpen_of_isFlat inner outer ?_ ?_
    · rw [Option.toList_some, hjoin]
      exact List.forall_mem_singleton.mpr (isFlat_lexeme (hstub.isBracket stub rfl))
    · rw [Option.toList_some, hjoin]
      exact List.forall_mem_nil _

/-- Lexemes that are no brackets and no names leave a container open, by the tokens that they are
joined to. -/
theorem leavesOpen_of_all (inner : OpenObject) (outer : List OpenObject)
    {ls front behind : List Lexeme} (h : ls.all (fun l => !l.isBracket && !l.isName) = true)
    (hcut : ls = front ++ next :: behind) (hstub : IsEnd next stub?) :
    LeavesOpen inner outer (front ++ stub?.toList) := by
  have hplain (l : Lexeme) (hl : l ∈ ls) : l.isBracket = false ∧ l.isName = false := by
    have hl := List.all_eq_true.mp h l hl
    rwa [Bool.and_eq_true, Bool.not_eq_true', Bool.not_eq_true'] at hl
  have hnext : next.isName = false :=
    (hplain next (hcut ▸ List.mem_append_right _ List.mem_cons_self)).2
  have hend (l : Lexeme) (hl : l ∈ front ++ stub?.toList) :
      l.isBracket = false ∧ l.isName = false := by
    obtain hl | hl := List.mem_append.mp hl
    · exact hplain l (hcut ▸ List.mem_append_left _ hl)
    · exact ⟨hstub.isBracket l (Option.mem_toList.mp hl),
        hstub.isName hnext l (Option.mem_toList.mp hl)⟩
  refine leavesOpen_of_isFlat inner outer ?_ fun token htoken => ?_
  · exact forall_mem_join (fun _ => nofun) fun l hl => isFlat_lexeme (hend l hl).1
  · exact forall_mem_join (p := fun token => token.isName = false) (fun _ => rfl)
      (fun l hl => (hend l hl).2) token (List.mem_of_mem_tail htoken)

/-- Whether a lexeme opens a container, as long as not too many are open. -/
structure Opens (opening : Lexeme) (opened : OpenObject) : Prop where
  /-- It is no part of a reference. -/
  alone : standsAlone opening = true
  /-- It closes nothing. -/
  closes : closes (.lexeme opening) = false
  /-- Where a value may begin, it opens the container. -/
  begins : ∀ stack : List OpenObject, stack.length < maxOpen →
    begin stack (.lexeme opening) = .opened (opened :: stack)

theorem opens_array : Opens .arrayStart (array []) := ⟨rfl, rfl, fun _ h => if_pos h⟩

theorem opens_dictionary : Opens .dictionaryStart (dictionary ∅ none) :=
  ⟨rfl, rfl, fun _ h => if_pos h⟩

/-- A container that is read in part is open: if the lexemes behind its bracket leave it open, they
leave the one around it open too. -/
theorem Opens.leavesOpen {opening : Lexeme} {opened inner : OpenObject} {outer : List OpenObject}
    {body front behind : List Lexeme} (hopens : Opens opening opened)
    (hawaits : awaits (inner :: outer) = true) (hlength : (inner :: outer).length < maxOpen)
    (hcut : opening :: body = front ++ next :: behind) (hstub : IsEnd next stub?)
    (h : ∀ inside, body = inside ++ next :: behind →
      LeavesOpen opened (inner :: outer) (inside ++ stub?.toList)) :
    LeavesOpen inner outer (front ++ stub?.toList) := by
  cases front with
  | nil => exact leavesOpen_end inner outer hstub
  | cons l inside =>
    rw [List.cons_append] at hcut
    obtain ⟨rfl, hbody⟩ := List.cons.inj hcut
    obtain ⟨left, last, -, hrun⟩ := h inside hbody
    refine ⟨left ++ [last], inner, fun _ _ _ => .inl rfl, ?_⟩
    rw [List.cons_append, join_cons_of_standsAlone opening hopens.alone, run_cons,
      feed_of_awaits hawaits hopens.closes, hopens.begins _ hlength, goOn, hrun, List.append_assoc,
      List.singleton_append]

/-- **A cut inside the items of an array leaves the array open**: the items in front are put into
it, and the one that is cut is left open in turn. -/
theorem leavesOpen_items {depth : Nat} {items : List (Object × List Lexeme)}
    {outer : List OpenObject} (hdepth : outer.length + 1 + depth ≤ maxOpen)
    (hwritten : ∀ item ∈ items, item.1.Written depth item.2) (hstub : IsEnd next stub?)
    (h : ∀ item ∈ items, ∀ before front behind, item.2 = front ++ next :: behind →
      LeavesOpen (array before) outer (front ++ stub?.toList))
    {closing : Lexeme} {front behind : List Lexeme}
    (hcut : items.flatMap (·.2) ++ [closing] = front ++ next :: behind) :
    LeavesOpen (array []) outer (front ++ stub?.toList) := by
  obtain ⟨read, unread, part, rfl, rfl, hpart⟩ := exists_cutsParts hcut
  obtain ⟨hread, hunread⟩ := List.forall_mem_append.mp hwritten
  have htakes (item : Object × List Lexeme) (hitem : item ∈ read) (before : List Object) :
      Takes (array before :: outer) item.2 item.1 := takes_of_written (hread item hitem) hdepth
  have hend : Settled (part ++ stub?.toList) ∧
      LeavesOpen (array ((read.map (·.1)).reverse ++ [])) outer (part ++ stub?.toList) := by
    obtain rfl | ⟨item, rest, more, rfl, hitem⟩ := hpart
    · exact ⟨settled_end hstub, leavesOpen_end _ outer hstub⟩
    · have hmem : item ∈ item :: rest := List.mem_cons_self
      have hsettled : Settled item.2 :=
        List.append_nil item.2 ▸ settled_of_written (hunread item hmem) settled_nil
      exact ⟨settled_append_end hsettled (hitem ▸ List.prefix_append _ _) hstub,
        h item (List.mem_append_right _ hmem) _ part more hitem⟩
  obtain ⟨hsettled, left, last, -, hrun⟩ := hend
  refine ⟨left, last, nofun, ?_⟩
  rw [List.append_assoc, run_items hread htakes [] hsettled, hrun]

/-- What stands at the end where a key is due becomes a key without a value at most. -/
theorem run_end (entries : Dictionary) (outer : List OpenObject) (hstub : IsEnd next stub?) :
    ∃ key?, run (dictionary entries none :: outer) (join stub?.toList) =
      close (dictionary entries key? :: outer) := by
  cases stub? with
  | none => exact ⟨none, rfl⟩
  | some stub =>
    have hjoin : join [stub] = [.lexeme stub] := join_cons fun _ _ => settled_nil
    rw [Option.toList_some, hjoin, run_cons]
    by_cases hname : stub.isName = true
    case pos =>
      cases stub with
      | name key => exact ⟨some key, rfl⟩
      | _ => cases hname
    case neg =>
      rw [feed_passing entries outer (isFlat_lexeme (hstub.isBracket stub rfl))
        (Bool.not_eq_true _ ▸ hname)]
      exact ⟨none, rfl⟩

/-- Entries that are cut off: those that are read are in the dictionary, and at most one more, whose
key is that of the first one that is not read. -/
theorem run_cutEntries {depth : Nat} {entries : List WrittenEntry} {outer : List OpenObject}
    (hdepth : outer.length + 1 + depth ≤ maxOpen)
    (hwritten : ∀ entry ∈ entries, entry.value.Written depth entry.lexemes)
    (hstub : IsEnd next stub?)
    (h : ∀ entry ∈ entries, ∀ before front behind, entry.lexemes = front ++ next :: behind →
      LeavesOpen (dictionary before (some entry.key)) outer (front ++ stub?.toList))
    {closing : Lexeme} {front behind : List Lexeme}
    (hcut : entries.flatMap WrittenEntry.text ++ [closing] = front ++ next :: behind) :
    ∃ read unread part left last,
      CutsParts WrittenEntry.text entries front next read unread part ∧
      run (dictionary ∅ none :: outer) (join (front ++ stub?.toList)) =
        close (left ++ last :: outer) ∧
      (left = [] ∧ (∃ key?, last = dictionary ⟨Entries.ofList (read.map WrittenEntry.pair)⟩ key?) ∨
        ∃ entry rest, unread = entry :: rest ∧
          last.Follows
            (dictionary ⟨Entries.ofList (read.map WrittenEntry.pair)⟩ (some entry.key))) := by
  obtain ⟨read, unread, part, hparts⟩ := exists_cutsParts hcut
  obtain ⟨rfl, rfl, hpart⟩ := id hparts
  obtain ⟨hread, hunread⟩ := List.forall_mem_append.mp hwritten
  have htakes (entry : WrittenEntry) (hentry : entry ∈ read) (before : Dictionary) :
      Takes (dictionary before (some entry.key) :: outer) entry.lexemes entry.value :=
    takes_of_written (hread entry hentry) hdepth
  have hrun {rest : List Lexeme} (hrest : Settled rest) :
      run (dictionary ∅ none :: outer) (join (read.flatMap WrittenEntry.text ++ rest)) =
        run (dictionary ⟨Entries.ofList (read.map WrittenEntry.pair)⟩ none :: outer) (join rest) :=
    run_entries htakes [] hrest
  rw [List.append_assoc]
  cases part with
  | nil =>
    obtain ⟨key?, hend⟩ := run_end ⟨Entries.ofList (read.map WrittenEntry.pair)⟩ outer hstub
    refine ⟨read, unread, [], [], _, hparts, ?_, .inl ⟨rfl, key?, rfl⟩⟩
    rw [List.nil_append, hrun (settled_end hstub), hend, List.nil_append]
  | cons l inside =>
    obtain hnil | ⟨entry, rest, more, rfl, hentry⟩ := hpart
    · cases hnil
    · rw [WrittenEntry.text, List.cons_append] at hentry
      obtain ⟨rfl, hlexemes⟩ := List.cons.inj hentry
      obtain ⟨left, last, hfollows, hvalue⟩ := h entry
        (List.mem_append_right _ List.mem_cons_self)
        ⟨Entries.ofList (read.map WrittenEntry.pair)⟩ inside more hlexemes
      refine ⟨read, entry :: rest, _, left, last, hparts, ?_, .inr ⟨entry, rest, rfl, hfollows⟩⟩
      rw [List.cons_append, hrun (settled_cons rfl _), run_key, hvalue]

/-- **A value that is read in part leaves the containers open** that are open in front of it. -/
theorem leavesOpen_of_written {depth : Nat} {o : Object} {ls : List Lexeme}
    (h : o.Written depth ls) {inner : OpenObject} {outer : List OpenObject}
    (hawaits : awaits (inner :: outer) = true) (hdepth : outer.length + 1 + depth ≤ maxOpen)
    {front behind : List Lexeme} (hcut : ls = front ++ next :: behind) (hstub : IsEnd next stub?) :
    LeavesOpen inner outer (front ++ stub?.toList) := by
  induction h generalizing inner outer front behind with
  | name text =>
    cases front with
    | nil => exact leavesOpen_end inner outer hstub
    | cons l front => cases front <;> cases hcut
  | @array depth items hwritten ih =>
    have hinside : (inner :: outer).length + 1 + depth ≤ maxOpen := by
      rw [List.length_cons]
      omega
    refine opens_array.leavesOpen hawaits (by omega) hcut hstub fun inside hbody => ?_
    refine leavesOpen_items hinside hwritten hstub ?_ hbody
    exact fun item hitem before front behind hpart => ih item hitem rfl hinside hpart
  | @dictionary depth entries hwritten ih =>
    have hinside : (inner :: outer).length + 1 + depth ≤ maxOpen := by
      rw [List.length_cons]
      omega
    refine opens_dictionary.leavesOpen hawaits (by omega) hcut hstub fun inside hbody => ?_
    obtain ⟨-, -, -, left, last, -, hrun, -⟩ := run_cutEntries hinside hwritten hstub
      (fun entry hentry before front behind hpart => ih entry hentry rfl hinside hpart) hbody
    exact ⟨left, last, nofun, hrun⟩
  | _ => exact leavesOpen_of_all inner outer rfl hcut hstub

/-! ## The dictionary that is cut off -/

/-- What is open at the end of the text closes, and makes a value of the key that awaits one. -/
theorem close_of_follows {left : List OpenObject} {last : OpenObject} {entries : Dictionary}
    {key : String} (h : last.Follows (dictionary entries (some key))) :
    ∃ held, close (left ++ [last]) = some (.dictionary held.entries) ∧ entries.Adds key held := by
  cases left with
  | nil =>
    obtain rfl | ⟨after, rfl, hadds⟩ := h entries key rfl
    · exact ⟨entries, rfl, .inl rfl⟩
    · exact ⟨after, rfl, hadds⟩
  | cons inner left =>
    have hclose : ∃ v, close (inner :: left ++ [last]) = some (last.put v).value := by
      rw [List.cons_append, close, List.foldl_append]
      exact ⟨_, rfl⟩
    obtain ⟨v, hclose⟩ := hclose
    rw [hclose]
    obtain rfl | ⟨after, rfl, hadds⟩ := h entries key rfl
    · exact ⟨entries.insert key v, rfl, .inr ⟨v, rfl⟩⟩
    · exact ⟨after, rfl, hadds⟩

/-- The dictionary of entries that are cut off: it has those that are read, and at most one more,
whose key is the first one that is not read. -/
theorem run_cut {entries : List WrittenEntry} (hkeys : (entries.map WrittenEntry.key).Nodup)
    (hwritten : ∀ entry ∈ entries, entry.value.Written 127 entry.lexemes)
    (hstub : IsEnd next stub?) {closing : Lexeme} {front behind : List Lexeme}
    (hcut : entries.flatMap WrittenEntry.text ++ [closing] = front ++ next :: behind) :
    ∃ read unread part more, CutsParts WrittenEntry.text entries front next read unread part ∧
      run [dictionary ∅ none] (join (front ++ stub?.toList)) =
        some (.dictionary (read.map WrittenEntry.pair ++ more)) ∧
      more.map (·.1) <+: unread.map WrittenEntry.key := by
  have hdepth : ([] : List OpenObject).length + 1 + 127 ≤ maxOpen := Nat.le_refl _
  obtain ⟨read, unread, part, left, last, hparts, hrun, hlast⟩ :=
    run_cutEntries hdepth hwritten hstub
      (fun entry hentry before front behind hpart =>
        leavesOpen_of_written (hwritten entry hentry) rfl hdepth hpart hstub) hcut
  refine ⟨read, unread, part, ?_⟩
  rw [hparts.items_eq, List.map_append] at hkeys
  obtain ⟨hread, -, hdiffer⟩ := List.nodup_append.mp hkeys
  rw [← WrittenEntry.map_pair] at hread hdiffer
  rw [Entries.ofList_of_nodup hread] at hlast
  rw [hrun]
  obtain ⟨rfl, key?, rfl⟩ | ⟨entry, rest, rfl, hfollows⟩ := hlast
  · exact ⟨[], hparts, by rw [List.append_nil]; rfl, List.nil_prefix⟩
  · obtain ⟨held, hclose, rfl | ⟨value, rfl⟩⟩ := close_of_follows hfollows
    · exact ⟨[], hparts, by rw [List.append_nil]; exact hclose, List.nil_prefix⟩
    · have hfresh : entry.key ∉ (read.map WrittenEntry.pair).map (·.1) :=
        fun hmem => hdiffer _ hmem _ List.mem_cons_self rfl
      refine ⟨[(entry.key, value)], hparts, ?_, ⟨rest.map WrittenEntry.key, rfl⟩⟩
      rw [hclose, Dictionary.insert, Entries.insert_of_fresh value hfresh]

end OpenObject

end PdfDisplay
