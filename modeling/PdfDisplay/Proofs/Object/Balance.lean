import PdfDisplay.Proofs.Object.Damage
import PdfDisplay.Proofs.Object.Nesting

/-!
# Values in which brackets match

A value is read from its lexemes alone if its brackets match (`TokenTree`), if it fits in the
containers that may be open, and if each container in it stands where a value may begin
(`TokenTree.isPlaced`): where a key is awaited, a bracket that opens a container is passed over, and
the one that closes it is not. Under these conditions a value leaves the containers around it as
they are (`OpenObject.run_tree`), by induction on the tree.

A container that does not fit is read as null, but its contents are read all the same, and the
bracket that closes it closes a container around it. What this leaves of a dictionary is said in
`Dictionary.parse?_balanced`.
-/

namespace PdfDisplay

open Lexeme OpenObject

namespace Token

/-- The value that a token is on its own, if it is one. -/
def value? (token : Token) : Option Object :=
  match begin [] token with
  | .done value => some value
  | .opened _ => none

/-- The key that a token is where a key is awaited. -/
def key? : Token → Option String
  | lexeme (.name key) => some key
  | _ => none

end Token

/-! ## Trees of tokens -/

/-- Tokens in which brackets match: a token that is no bracket, or what stands between two brackets
that match. -/
inductive TokenTree where
  /-- A token that is no bracket. -/
  | flat (token : Token) (h : token.IsFlat)
  /-- The brackets of an array. -/
  | array (body : List TokenTree)
  /-- The brackets of a dictionary. -/
  | dictionary (body : List TokenTree)

/-- Where something stands in a container. -/
inductive Place where
  /-- Among the items of an array. -/
  | item
  /-- Where a key is awaited. -/
  | key
  /-- Where the value of a key is awaited. -/
  | value
  deriving DecidableEq

/-- The place behind something. -/
def Place.next (place : Place) (key? : Option String) : Place :=
  match place with
  | item => item
  | key => if key?.isSome then value else key
  | value => key

/-- The place that comes next in an open container. -/
def OpenObject.place : OpenObject → Place
  | array _ => .item
  | dictionary _ none => .key
  | dictionary _ (some _) => .value

/-- The container behind something that is a key, where a key is awaited, or a value. -/
def OpenObject.take (key? : Option String) (value? : Option Object) : OpenObject → OpenObject
  | dictionary entries none => dictionary entries key?
  | inner => value?.elim inner.drop inner.put

namespace TokenTree

mutual

/-- The tokens of a tree. -/
def tokens : TokenTree → List Token
  | flat token _ => [token]
  | array body => .lexeme .arrayStart :: (bodyTokens body ++ [.lexeme .arrayEnd])
  | dictionary body => .lexeme .dictionaryStart :: (bodyTokens body ++ [.lexeme .dictionaryEnd])

/-- The tokens between two brackets. -/
def bodyTokens : List TokenTree → List Token
  | [] => []
  | tree :: rest => tree.tokens ++ bodyTokens rest

end

mutual

/-- How deep brackets nest in a tree. -/
def nesting : TokenTree → Nat
  | flat _ _ => 0
  | array body => bodyNesting body + 1
  | dictionary body => bodyNesting body + 1

/-- How deep brackets nest between two brackets. -/
def bodyNesting : List TokenTree → Nat
  | [] => 0
  | tree :: rest => max tree.nesting (bodyNesting rest)

end

/-- Whether a tree is a single token. -/
def isFlat : TokenTree → Bool
  | flat _ _ => true
  | _ => false

/-- The key that a tree is where a key is awaited. -/
def key? : TokenTree → Option String
  | flat token _ => token.key?
  | _ => none

mutual

/-- Whether no container in a tree stands where a key is awaited. -/
def isPlaced : TokenTree → Bool
  | flat _ _ => true
  | array body => bodyIsPlaced .item body
  | dictionary body => bodyIsPlaced .key body

/-- Whether no container between two brackets, from the place on, stands where a key is awaited. -/
def bodyIsPlaced (place : Place) : List TokenTree → Bool
  | [] => true
  | tree :: rest =>
    (tree.isFlat || place != .key) && tree.isPlaced && bodyIsPlaced (place.next tree.key?) rest

end

mutual

/-- The value of a tree, if it is one. -/
def value? : TokenTree → Option Object
  | flat token _ => token.value?
  | array body => some (fill (.array []) body).value
  | dictionary body => some (fill (.dictionary ∅ none) body).value

/-- What becomes of an open container. -/
def fill (inner : OpenObject) : List TokenTree → OpenObject
  | [] => inner
  | tree :: rest => fill (inner.take tree.key? tree.value?) rest

end

end TokenTree

namespace OpenObject

open Token

/-- Hands over a value, or passes over what is none. -/
def offer (value? : Option Object) (stack : List OpenObject) : Step :=
  value?.elim (dropIn stack) (putIn · stack)

theorem place_take (inner : OpenObject) (key? : Option String) (value? : Option Object) :
    (inner.take key? value?).place = inner.place.next key? := by
  match inner with
  | array items => cases value? <;> rfl
  | dictionary entries none => cases key? <;> rfl
  | dictionary entries (some key) => cases value? <;> rfl

theorem offer_of_awaits {inner : OpenObject} {outer : List OpenObject}
    (h : awaits (inner :: outer) = true) (key? : Option String) (value? : Option Object) :
    offer value? (inner :: outer) = .opened (inner.take key? value? :: outer) := by
  match inner with
  | array items => cases value? <;> rfl
  | dictionary entries none => cases h
  | dictionary entries (some key) => cases value? <;> rfl

theorem begin_eq_offer {token : Token} (h : token.IsFlat) (stack : List OpenObject) :
    begin stack token = offer token.value? stack := by
  rw [Token.value?]
  fun_cases begin stack token
  all_goals first
    | rfl
    | cases h _ rfl
    | simp_all [begin, offer, dropIn]

/-- What is no bracket is a key, where a key is awaited, or a value. -/
theorem feed_eq_take {token : Token} (h : token.IsFlat) (inner : OpenObject)
    (outer : List OpenObject) :
    feed (inner :: outer) token = .opened (inner.take token.key? token.value? :: outer) := by
  by_cases hawaits : awaits (inner :: outer) = true
  case pos =>
    rw [feed_of_awaits hawaits (closes_of_isFlat h), begin_eq_offer h,
      offer_of_awaits hawaits token.key?]
  -- only a dictionary that awaits a key takes no values, and it passes over all but names
  case neg =>
    match inner with
    | array items => exact absurd rfl hawaits
    | dictionary entries (some key) => exact absurd rfl hawaits
    | dictionary entries none =>
      cases token with
      | reference target? => rfl
      | lexeme l =>
        cases l with
        | arrayStart | arrayEnd | dictionaryStart | dictionaryEnd => cases h _ rfl
        | _ => rfl

/-! ## Reading a tree -/

open TokenTree

theorem exists_fill_array (items : List Object) (body : List TokenTree) :
    ∃ items', fill (array items) body = array items' := by
  induction body generalizing items with
  | nil => exact ⟨items, rfl⟩
  | cons tree body ih =>
    rw [fill]
    cases tree.value? with
    | none => exact ih items
    | some v => exact ih (v :: items)

theorem feed_dictionaryEnd (inner : OpenObject) (outer : List OpenObject) :
    feed (inner :: outer) (.lexeme .dictionaryEnd) = putIn inner.value outer := by
  match inner with
  | array _ | dictionary _ none | dictionary _ (some _) => rfl

mutual

/-- **A tree hands over its value**, in every container with enough room: it closes none of those
that are open, and opens none that it does not close. -/
theorem run_tree (tree : TokenTree) {stack : List OpenObject} (hstack : awaits stack = true)
    (hplaced : tree.isPlaced = true) (hdepth : stack.length + tree.nesting ≤ maxOpen)
    (rest : List Token) :
    run stack (tree.tokens ++ rest) = goOn (offer tree.value? stack) rest := by
  -- by induction over the tree, together with the lemma about what stands inside of one
  match tree with
  | .flat token h =>
    rw [tokens, List.singleton_append, run_cons, feed_of_awaits hstack (closes_of_isFlat h),
      begin_eq_offer h, TokenTree.value?]
  | .array body =>
    rw [TokenTree.nesting] at hdepth
    rw [tokens, List.cons_append, List.append_assoc, List.singleton_append, run_cons,
      feed_of_awaits hstack rfl, opens_array.begins stack (by omega), goOn,
      run_body body (.array []) hplaced (by omega), run_cons]
    obtain ⟨items, hitems⟩ := exists_fill_array [] body
    rw [hitems, TokenTree.value?, hitems]
    rfl
  | .dictionary body =>
    rw [TokenTree.nesting] at hdepth
    rw [tokens, List.cons_append, List.append_assoc, List.singleton_append, run_cons,
      feed_of_awaits hstack rfl, opens_dictionary.begins stack (by omega), goOn,
      run_body body (.dictionary ∅ none) hplaced (by omega), run_cons, feed_dictionaryEnd]
    rfl

/-- Trees in a container with enough room change this container alone. -/
theorem run_body (body : List TokenTree) (inner : OpenObject) {outer : List OpenObject}
    (hplaced : bodyIsPlaced inner.place body = true)
    (hdepth : outer.length + 1 + bodyNesting body ≤ maxOpen) (rest : List Token) :
    run (inner :: outer) (bodyTokens body ++ rest) = run (fill inner body :: outer) rest := by
  match body with
  | [] => rfl
  | tree :: body =>
    rw [bodyIsPlaced, Bool.and_eq_true, Bool.and_eq_true] at hplaced
    obtain ⟨⟨hplace, htree⟩, hbody⟩ := hplaced
    rw [bodyNesting] at hdepth
    rw [bodyTokens, List.append_assoc, fill, ← run_body body _ (by rwa [place_take]) (by omega)]
    by_cases hawaits : awaits (inner :: outer) = true
    case pos =>
      have hroom : (inner :: outer).length + tree.nesting ≤ maxOpen := by
        rw [List.length_cons]
        omega
      rw [run_tree tree hawaits htree hroom, offer_of_awaits hawaits tree.key?, goOn]
    case neg =>
      -- where a key is awaited, only a single token may stand
      match inner, tree with
      | dictionary entries none, .flat token h =>
        rw [tokens, List.singleton_append, run_cons, feed_eq_take h, goOn]
        rfl
      | dictionary entries none, .array _ | dictionary entries none, .dictionary _ => cases hplace
      | array items, _ | dictionary entries (some key), _ => exact absurd rfl hawaits

end

theorem exists_tokens_cons (tree : TokenTree) :
    ∃ token tokens, tree.tokens = token :: tokens ∧ closes token = false := by
  match tree with
  | .flat token h => exact ⟨token, [], rfl, closes_of_isFlat h⟩
  | .array body | .dictionary body => exact ⟨_, _, rfl, rfl⟩

/-- **A balanced tree is taken for its value wherever there is room for its nesting**, by induction
over the tree. -/
theorem takes_of_tree {tree : TokenTree} {value : Object} (hvalue : tree.value? = some value)
    {stack : List OpenObject} (hstack : awaits stack = true) (hplaced : tree.isPlaced = true)
    (hdepth : stack.length + tree.nesting ≤ maxOpen) {ls : List Lexeme}
    (hjoin : join ls = tree.tokens) : Takes stack ls value := by
  intro rest hrest
  obtain ⟨token, tokens, htokens, htoken⟩ := exists_tokens_cons tree
  refine ⟨token, tokens ++ join rest, ?_, htoken, ?_⟩
  · rw [join_append hrest, hjoin, htokens, List.cons_append]
  · rw [← feed_of_awaits hstack htoken, ← run_cons, ← List.cons_append, ← htokens,
      run_tree tree hstack hplaced hdepth, hvalue]
    rfl

/-! ## In front of a value that does not fit -/

theorem Opens.run_awaiting {opening : Lexeme} {opened : OpenObject} (h : Opens opening opened)
    (d : Dictionary) (key : String) (tokens : List Token) :
    ∃ (v : Object) (after : Dictionary),
      run [dictionary d (some key)] (.lexeme opening :: tokens) =
        some (.dictionary after.entries) ∧ (d.insert key v).keys <+: after.keys := by
  have hroom : [dictionary d (some key)].length < maxOpen := show 1 < 128 by decide
  rw [run_cons, feed_of_awaits rfl h.closes, h.begins _ hroom, goOn]
  obtain ⟨v, rest, -, hrun⟩ := exists_run_put tokens opened [] (dictionary d (some key)) []
  obtain ⟨after, hafter, hkeys⟩ := run_dictionary (d.insert key v) none rest
  exact ⟨v, after, hrun.trans hafter, hkeys⟩

/-- A value sets its key, even if it does not fit. -/
theorem run_awaiting {tree : TokenTree} (htree : tree.value?.isSome) (d : Dictionary)
    (key : String) (tokens : List Token) :
    ∃ (v : Object) (after : Dictionary),
      run [dictionary d (some key)] (tree.tokens ++ tokens) = some (.dictionary after.entries) ∧
        (d.insert key v).keys <+: after.keys := by
  match tree with
  | .flat token h =>
    obtain ⟨v, hv⟩ := Option.isSome_iff_exists.mp htree
    rw [TokenTree.value?] at hv
    obtain ⟨after, hafter, hkeys⟩ := run_dictionary (d.insert key v) none tokens
    refine ⟨v, after, ?_, hkeys⟩
    rw [TokenTree.tokens, List.singleton_append, run_cons, feed_eq_take h, hv]
    exact hafter
  | .array body => exact opens_array.run_awaiting d key _
  | .dictionary body => exact opens_dictionary.run_awaiting d key _

end OpenObject

/-! ## Entries of a dictionary -/

/-- A key with lexemes of a value in which brackets match. -/
structure BalancedEntry where
  /-- The key. -/
  key : String
  /-- The lexemes of the value. -/
  lexemes : List Lexeme
  /-- The value, as brackets and what stands between them. -/
  tree : TokenTree
  /-- The tree has the tokens that the lexemes are joined into. -/
  join_lexemes : Token.join lexemes = tree.tokens
  /-- The tree is a value. -/
  isSome_value? : tree.value?.isSome

namespace BalancedEntry

open Token

/-- The key with the value on its own. -/
def written (entry : BalancedEntry) : WrittenEntry :=
  ⟨entry.key, entry.tree.value?.get entry.isSome_value?, entry.lexemes⟩

/-- The key with the value on its own, as an entry. -/
def pair (entry : BalancedEntry) : String × Object := entry.written.pair

/-- The lexemes of the key and the value. -/
def text (entry : BalancedEntry) : List Lexeme := .name entry.key :: entry.lexemes

/-- Whether a dictionary has room for the value, and each container in it stands where a value may
begin. -/
def Fits (entry : BalancedEntry) : Prop := entry.tree.isPlaced = true ∧ entry.tree.nesting ≤ 127

theorem value?_tree (entry : BalancedEntry) : entry.tree.value? = some entry.written.value :=
  (Option.some_get entry.isSome_value?).symm

theorem map_pair (entries : List BalancedEntry) :
    (entries.map pair).map (·.1) = entries.map key := by
  rw [List.map_map]
  rfl

theorem takes {entry : BalancedEntry} (h : entry.Fits) (before : Dictionary) :
    Takes [dictionary before (some entry.key)] entry.lexemes entry.written.value := by
  refine takes_of_tree entry.value?_tree rfl h.1 ?_ entry.join_lexemes
  exact Nat.add_le_add_left h.2 1

/-- A value is no header of an object. -/
theorem withoutHeader_lexemes (entry : BalancedEntry) :
    withoutHeader entry.lexemes = entry.lexemes := by
  have hjoin := entry.join_lexemes
  revert hjoin
  fun_cases withoutHeader entry.lexemes with
  | case1 number generation rest =>
    intro hjoin
    have hsettled : Settled (.integer generation :: .keyword "obj" :: rest) :=
      ⟨by simp, fun _ behind hbehind => by simp [← (List.cons.inj hbehind).2]⟩
    have hword : Settled (.keyword "obj" :: rest) := ⟨by simp, by simp⟩
    rw [join_cons fun _ _ => hsettled, join_cons fun _ _ => hword] at hjoin
    cases htree : entry.tree <;> rw [htree] at hjoin <;> cases hjoin
  | case2 | case3 => exact fun _ => rfl

/-- A value that fits is read on its own as in a dictionary. -/
theorem parse?_alone {entry : BalancedEntry} (h : entry.Fits) {alone : Bytes}
    (halone : Token.lexemes alone = entry.lexemes) :
    Object.parse? alone = some entry.written.value := by
  have hdepth : ([] : List OpenObject).length + entry.tree.nesting ≤ maxOpen :=
    Nat.le_trans (Nat.le_of_eq (Nat.zero_add _)) (Nat.le_succ_of_le h.2)
  refine Object.parse?_of_lexemes halone ?_
  rw [entry.withoutHeader_lexemes, entry.join_lexemes, ← List.append_nil entry.tree.tokens,
    run_tree entry.tree rfl h.1 hdepth, entry.value?_tree]
  rfl

/-- What stands behind entries that fit is read behind them. -/
theorem run_fits {entries : List BalancedEntry} (h : ∀ entry ∈ entries, entry.Fits)
    (hkeys : (entries.map key).Nodup) {rest : List Lexeme} (hrest : Settled rest) :
    run [dictionary ∅ none] (join (entries.flatMap text ++ rest)) =
      run [dictionary ⟨entries.map pair⟩ none] (join rest) := by
  have htakes : ∀ entry ∈ entries.map written, ∀ before,
      Takes [dictionary before (some entry.key)] entry.lexemes entry.value :=
    List.forall_mem_map.mpr fun entry hentry => takes (h entry hentry)
  have hset : Entries.setAll [] (entries.map pair) = entries.map pair :=
    Entries.setAll_of_nodup [] (by rwa [List.nil_append, map_pair])
  have hrun := run_entries htakes [] hrest
  rw [List.flatMap_map, List.map_map] at hrun
  exact hrun.trans (congrArg (fun pairs => run [dictionary ⟨pairs⟩ none] (join rest)) hset)

/-- Behind entries that fit, a value sets its key, even if it does not fit. -/
theorem run_keys {read : List BalancedEntry} {entry : BalancedEntry}
    (hread : ∀ other ∈ read, other.Fits) (hkeys : (read.map key ++ [entry.key]).Nodup)
    {rest : List Lexeme} (hrest : Settled rest) :
    ∃ after : Dictionary, run [dictionary ∅ none]
        (join (read.flatMap text ++ .name entry.key :: (entry.lexemes ++ rest))) =
          some (.dictionary after.entries) ∧ read.map key ++ [entry.key] <+: after.keys := by
  obtain ⟨hreadKeys, -, hdiffer⟩ := List.nodup_append.mp hkeys
  rw [run_fits hread hreadKeys (settled_cons rfl _), run_key, join_append hrest,
    entry.join_lexemes]
  obtain ⟨v, after, hrun, hafter⟩ :=
    run_awaiting entry.isSome_value? ⟨read.map pair⟩ entry.key (join rest)
  refine ⟨after, hrun, ?_⟩
  have hfresh : entry.key ∉ (read.map pair).map (·.1) :=
    fun hmem => hdiffer _ (map_pair read ▸ hmem) _ List.mem_cons_self rfl
  rwa [Dictionary.keys, Dictionary.insert, Entries.insert_of_fresh v hfresh, List.map_append,
    map_pair] at hafter

theorem settled_text (entries : List BalancedEntry) (rest : List Lexeme) :
    Settled (entries.flatMap text ++ .dictionaryEnd :: rest) := by
  have hsettled :=
    settled_entries (entries.map written) (settled_cons (l := .dictionaryEnd) rfl rest)
  rw [List.flatMap_map] at hsettled
  exact hsettled

end BalancedEntry

namespace Dictionary

open Token

/-- **What becomes of a dictionary text whose keys differ and in whose values brackets match.** It
is read as a dictionary, in which no value nests deeper than 127 containers. The keys begin with
those of the text, as far as the first value that does not fit, and its own. If all values fit, the
keys are those of the text, and each value is what it is on its own. -/
theorem parse?_balanced {text last : Bytes} {entries : List BalancedEntry}
    (h : Scans text (.dictionaryStart :: (entries.flatMap BalancedEntry.text ++ [.dictionaryEnd]))
      last)
    (hkeys : (entries.map BalancedEntry.key).Nodup) :
    ∃ d, parse? text = some d ∧ (∀ entry ∈ d.entries, entry.2.nesting ≤ 127) ∧
      (∀ read entry, read ++ [entry] <+: entries → (∀ other ∈ read, other.Fits) →
        read.map BalancedEntry.key ++ [entry.key] <+: d.keys) ∧
      ((∀ entry ∈ entries, entry.Fits) → d.keys = entries.map BalancedEntry.key ∧
        ∀ entry ∈ entries, ∃ value, d.get? entry.key = some value ∧
          ∀ alone, Token.lexemes alone = entry.lexemes → Object.parse? alone = some value) := by
  have hlexemes := Token.lexemes_of_scans h
  rw [List.cons_append, List.append_assoc, List.singleton_append] at hlexemes
  -- behind the opening bracket any tokens at all make a dictionary, which is what the reader is
  -- known for
  obtain ⟨d, hrun, -⟩ := run_dictionary ∅ none
    (join (entries.flatMap BalancedEntry.text ++ .dictionaryEnd :: Token.lexemes last))
  have hparse : parse? text = some d := parse?_of_run hlexemes hrun
  refine ⟨d, hparse, fun entry hentry => ?_, ?_, fun hfits => ?_⟩
  · exact Nat.le_of_lt_succ (nesting_lt_of_parse? hparse entry hentry)
  · rintro read entry ⟨unread, rfl⟩ hread
    rw [List.map_append, List.map_append] at hkeys
    rw [List.flatMap_append, List.flatMap_append, List.flatMap_singleton, List.append_assoc,
      List.append_assoc, BalancedEntry.text, List.cons_append] at hrun
    -- the same run, cut behind an entry of which all before it fit
    obtain ⟨after, hafter, hprefix⟩ := BalancedEntry.run_keys hread (List.nodup_append.mp hkeys).1
      (BalancedEntry.settled_text unread (Token.lexemes last))
    obtain rfl : d = after :=
      congrArg Dictionary.mk (Object.dictionary.inj (Option.some.inj (hrun.symm.trans hafter)))
    exact hprefix
  -- where all entries fit, the run closes the dictionary at its own bracket
  · have hall := BalancedEntry.run_fits hfits hkeys
      (settled_cons (l := .dictionaryEnd) rfl (Token.lexemes last))
    rw [join_cons_of_standsAlone .dictionaryEnd rfl, run_cons, feed_dictionaryEnd] at hall
    have hentries : d.entries = entries.map BalancedEntry.pair :=
      Object.dictionary.inj (Option.some.inj (hrun.symm.trans hall))
    have hdkeys : d.keys = entries.map BalancedEntry.key := by
      rw [keys, hentries, BalancedEntry.map_pair]
    refine ⟨hdkeys, fun entry hentry => ⟨entry.written.value, ?_, fun alone halone => ?_⟩⟩
    · refine get?_of_mem (hdkeys ▸ hkeys) ?_
      rw [hentries]
      exact List.mem_map_of_mem (f := BalancedEntry.pair) hentry
    · exact BalancedEntry.parse?_alone (hfits entry hentry) halone

/-- An array with a word that is no value, a dictionary with a key that has no value, and a
reference. -/
def mixedEntries : List BalancedEntry :=
  [⟨"A", [.arrayStart, .arrayStart, .integer 1, .integer 2, .integer 0, .keyword "R", .arrayEnd,
        .keyword "x", .arrayEnd],
      .array [.array [.flat (.lexeme (.integer 1)) (isFlat_lexeme rfl),
          .flat (.reference (some ⟨2, 0⟩)) nofun],
        .flat (.lexeme (.keyword "x")) (isFlat_lexeme rfl)],
      by decide, rfl⟩,
    ⟨"B", [.dictionaryStart, .name "X", .literalString [0x61], .name "Y", .dictionaryEnd],
      .dictionary [.flat (.lexeme (.name "X")) (isFlat_lexeme rfl),
        .flat (.lexeme (.literalString [0x61])) (isFlat_lexeme rfl),
        .flat (.lexeme (.name "Y")) (isFlat_lexeme rfl)],
      by decide, rfl⟩,
    ⟨"C", [.integer 3, .integer 0, .keyword "R"],
      .flat (.reference (some ⟨3, 0⟩)) nofun, by decide, rfl⟩]

theorem fits_mixedEntries : ∀ entry ∈ mixedEntries, entry.Fits := by
  simp only [mixedEntries, List.forall_mem_cons]
  exact ⟨⟨by decide, by decide⟩, ⟨by decide, by decide⟩, ⟨by decide, by decide⟩,
    List.forall_mem_nil _⟩

/-- The array is read in the dictionary as on its own. -/
theorem parse?_balanced_mixed :
    ∃ d, parse? (Utf8.encode "<</A[[1 2 0 R]x]/B<</X(a)/Y>>/C 3 0 R>>") = some d ∧
      d.keys = ["A", "B", "C"] ∧ ∃ value, d.get? "A" = some value ∧
        Object.parse? (Utf8.encode "[[1 2 0 R]x]") = some value := by
  have hscans : Scans (Utf8.encode "<</A[[1 2 0 R]x]/B<</X(a)/Y>>/C 3 0 R>>")
      (.dictionaryStart :: (mixedEntries.flatMap BalancedEntry.text ++ [.dictionaryEnd])) [] := by
    decide +kernel
  obtain ⟨d, hparse, -, -, hall⟩ := parse?_balanced hscans (by decide)
  obtain ⟨hkeys, hvalues⟩ := hall fits_mixedEntries
  obtain ⟨value, hget, halone⟩ := hvalues _ List.mem_cons_self
  have harray : Scans (Utf8.encode "[[1 2 0 R]x]")
      [.arrayStart, .arrayStart, .integer 1, .integer 2, .integer 0, .keyword "R", .arrayEnd,
        .keyword "x", .arrayEnd] [] := by
    decide +kernel
  have hnil : Token.lexemes [] = [] := Token.lexemes_of_end nofun
  have hlexemes := Token.lexemes_of_scans harray
  rw [hnil, List.append_nil] at hlexemes
  exact ⟨d, hparse, hkeys, value, hget, halone _ hlexemes⟩

/-- An array with an array in it, and so on. -/
def nestedArrays : Nat → TokenTree
  | 0 => .array []
  | depth + 1 => .array [nestedArrays depth]

/-- A value that does not fit, and one behind it. -/
def deepEntries : List BalancedEntry :=
  [⟨"A", List.replicate 128 .arrayStart ++ List.replicate 128 .arrayEnd, nestedArrays 127,
      by decide +kernel, rfl⟩,
    ⟨"B", [.integer 2], .flat (.lexeme (.integer 2)) (isFlat_lexeme rfl), rfl, rfl⟩]

/-- Of 128 arrays in each other the last does not fit, so the brackets that close them close the
dictionary as well. -/
theorem not_parse?_balanced :
    ¬∀ (text last : Bytes) (entries : List BalancedEntry),
      Scans text (.dictionaryStart :: (entries.flatMap BalancedEntry.text ++ [.dictionaryEnd]))
        last →
      (entries.map BalancedEntry.key).Nodup →
      ∃ d, parse? text = some d ∧ d.keys = entries.map BalancedEntry.key := by
  intro h
  have hscans : Scans (Utf8.encode "<</A" ++ List.replicate 128 (Byte.of '[') ++
        List.replicate 128 (Byte.of ']') ++ Utf8.encode "/B 2>>")
      (.dictionaryStart :: (deepEntries.flatMap BalancedEntry.text ++ [.dictionaryEnd])) [] := by
    decide +kernel
  obtain ⟨d, hparse, hkeys⟩ := h _ _ deepEntries hscans (by decide)
  have hnil : Token.lexemes [] = [] := Token.lexemes_of_end nofun
  have hlexemes := Token.lexemes_of_scans hscans
  rw [hnil, List.append_nil] at hlexemes
  obtain ⟨d', hrun, -⟩ := run_dictionary ∅ none
    (join (deepEntries.flatMap BalancedEntry.text ++ [.dictionaryEnd]))
  obtain rfl : d = d' := Option.some.inj (hparse.symm.trans (parse?_of_run hlexemes hrun))
  -- at depth 128 the bracket is read as null, and what it would have enclosed ends the dictionary
  have hread : (run [dictionary ∅ none] (join (deepEntries.flatMap BalancedEntry.text ++
      [.dictionaryEnd]))).map (fun o => o.dictionary?.map keys) = some (some ["A"]) := by
    decide +kernel
  rw [hrun] at hread
  have hend : d.keys = ["A"] := Option.some.inj (Option.some.inj hread)
  exact absurd (hend.symm.trans hkeys) (by decide)

end Dictionary

end PdfDisplay
