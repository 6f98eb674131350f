import PdfDisplay.Proofs.Object.Dictionaries

/-!
# How deep objects nest

Where `OpenObject.maxOpen` containers are open, a further one is read as null. So no object nests
deeper, whatever its text is (`Object.nesting_le_of_parse?`), and no value of a dictionary nests as
deep (`Dictionary.nesting_lt_of_parse?`).

What a token does to the open containers is said once, in `OpenObject.feed_cases`. Two invariants
rest on it. The one is that the containers that are open leave room for each other
(`OpenObject.Shallow`). The other is about what is open in a dictionary: it is a value of the
dictionary in the end (`OpenObject.exists_run_put`), so what is read is a dictionary again, which
keeps its first keys (`OpenObject.run_dictionary`).
-/

namespace PdfDisplay

/-! ## Nesting -/

namespace Object

mutual

/-- How deep containers nest in an object; one that is no container has depth zero. -/
def nesting : Object → Nat
  | .array items => itemNesting items + 1
  | .dictionary entries => entryNesting entries + 1
  | _ => 0

/-- How deep containers nest in the items of an array. -/
def itemNesting : List Object → Nat
  | [] => 0
  | item :: rest => max item.nesting (itemNesting rest)

/-- How deep containers nest in the entries of a dictionary. -/
def entryNesting : List (String × Object) → Nat
  | [] => 0
  | (_, value) :: rest => max value.nesting (entryNesting rest)

end

theorem itemNesting_le_iff {items : List Object} {depth : Nat} :
    itemNesting items ≤ depth ↔ ∀ item ∈ items, item.nesting ≤ depth := by
  induction items with
  | nil => simp [itemNesting]
  | cons item items ih => rw [itemNesting, Nat.max_le, ih, List.forall_mem_cons]

theorem entryNesting_le_iff {entries : List (String × Object)} {depth : Nat} :
    entryNesting entries ≤ depth ↔ ∀ entry ∈ entries, entry.2.nesting ≤ depth := by
  induction entries with
  | nil => simp [entryNesting]
  | cons entry entries ih => rw [entryNesting, Nat.max_le, ih, List.forall_mem_cons]

theorem IsScalar.nesting {v : Object} (h : v.IsScalar) : v.nesting = 0 := by
  cases v with
  | array items => cases h.1
  | dictionary entries => cases h.2
  | _ => rfl

end Object

namespace Entries

variable {κ ν : Type} [DecidableEq κ]

theorem eq_or_mem_of_mem_insert {key : κ} {value : ν} {entries : List (κ × ν)} {entry : κ × ν}
    (h : entry ∈ insert key value entries) : entry = (key, value) ∨ entry ∈ entries := by
  induction entries with
  | nil => exact .inl (List.mem_singleton.mp h)
  | cons first entries ih =>
    rw [insert] at h
    split at h
    all_goals obtain rfl | h := List.mem_cons.mp h
    · exact .inl rfl
    · exact .inr (List.mem_cons_of_mem _ h)
    · exact .inr List.mem_cons_self
    · exact (ih h).imp_right (List.mem_cons_of_mem _)

/-- Setting a key leaves the keys that are there in front. -/
theorem keys_prefix_insert (key : κ) (value : ν) (entries : List (κ × ν)) :
    entries.map (·.1) <+: (insert key value entries).map (·.1) := by
  induction entries with
  | nil => exact List.nil_prefix
  | cons entry entries ih =>
    rw [insert]
    split
    case isTrue hkey => exact List.cons_prefix_cons.mpr ⟨hkey, List.prefix_rfl⟩
    case isFalse => exact List.cons_prefix_cons.mpr ⟨rfl, ih⟩

end Entries

namespace OpenObject

open Token

/-! ## What one token does -/

theorem IsNew.nesting {opened : OpenObject} (h : opened.IsNew) : opened.value.nesting = 1 := by
  obtain rfl | rfl := h <;> rfl

theorem value_drop (inner : OpenObject) : inner.drop.value = inner.value := by
  cases inner <;> rfl

/-- **What a token does to the containers that are open**: it adds nothing to the innermost one, or
a value that is no container, or it opens a container in it if there is room, or closes it. -/
theorem feed_cases (inner : OpenObject) (outer : List OpenObject) (token : Token) :
    (∃ inner', inner'.value = inner.value ∧
        feed (inner :: outer) token = .opened (inner' :: outer)) ∨
      (∃ v : Object, v.IsScalar ∧ feed (inner :: outer) token = .opened (inner.put v :: outer)) ∨
      ((inner :: outer).length < maxOpen ∧ ∃ opened, IsNew opened ∧
        feed (inner :: outer) token = .opened (opened :: inner :: outer)) ∨
      feed (inner :: outer) token = putIn inner.value outer := by
  generalize hstack : inner :: outer = stack
  fun_cases feed stack token with
  | case1 | case2 | case3 | case4 =>
    obtain ⟨rfl, rfl⟩ := List.cons.inj hstack
    exact .inr (.inr (.inr rfl))
  | case5 entries _ key =>
    obtain ⟨rfl, rfl⟩ := List.cons.inj hstack
    exact .inl ⟨dictionary entries (some key), rfl, rfl⟩
  | case6 _ entries =>
    obtain ⟨rfl, rfl⟩ := List.cons.inj hstack
    exact .inl ⟨dictionary entries none, rfl, rfl⟩
  | case7 =>
    subst hstack
    obtain hbegin | ⟨v, hv, hbegin⟩ | ⟨-, hroom, opened, hopened, hbegin⟩ :=
      begin_cases (inner :: outer) token
    · exact .inl ⟨inner.drop, value_drop inner, hbegin⟩
    · exact .inr (.inl ⟨v, hv, hbegin⟩)
    · exact .inr (.inr (.inl ⟨hroom, opened, hopened, hbegin⟩))

/-! ## Room for containers -/

/-- Whether each of the open containers nests no deeper than those around it leave room for. -/
def Shallow : List OpenObject → Prop
  | [] => True
  | inner :: outer =>
    outer.length < maxOpen ∧ inner.value.nesting ≤ maxOpen - outer.length ∧ Shallow outer

/-- Whether the containers that are open are shallow, or the value nests as deep as allowed. -/
def Step.Shallow : Step → Prop
  | .opened stack => OpenObject.Shallow stack
  | .done value => value.nesting ≤ maxOpen

theorem nesting_put_le {inner : OpenObject} {v : Object} {depth : Nat}
    (hinner : inner.value.nesting ≤ depth) (hv : v.nesting < depth) :
    (inner.put v).value.nesting ≤ depth := by
  obtain ⟨depth, rfl⟩ := Nat.exists_eq_add_one_of_ne_zero (Nat.ne_zero_of_lt hv)
  have hv : v.nesting ≤ depth := Nat.le_of_lt_succ hv
  cases inner with
  | array items =>
    rw [value, Object.nesting, Nat.add_le_add_iff_right, Object.itemNesting_le_iff] at hinner
    rw [put, value, Object.nesting, Nat.add_le_add_iff_right, Object.itemNesting_le_iff,
      List.reverse_cons, List.forall_mem_append, List.forall_mem_singleton]
    exact ⟨hinner, hv⟩
  | dictionary entries key? =>
    cases key? with
    | none => exact hinner
    | some key =>
      rw [value, Object.nesting, Nat.add_le_add_iff_right, Object.entryNesting_le_iff] at hinner
      rw [put, value, Object.nesting, Nat.add_le_add_iff_right, Object.entryNesting_le_iff]
      intro entry hentry
      obtain rfl | hentry := Entries.eq_or_mem_of_mem_insert hentry
      · exact hv
      · exact hinner entry hentry

section Shallow

variable {stack outer : List OpenObject} {inner : OpenObject} {v value : Object}

theorem Shallow.putIn (h : Shallow stack) (hv : v.nesting ≤ maxOpen - stack.length) :
    (putIn v stack).Shallow := by
  cases stack with
  | nil => exact hv
  | cons inner outer =>
    obtain ⟨hlength, hinner, houter⟩ := h
    rw [List.length_cons] at hv
    exact ⟨hlength, nesting_put_le hinner (by omega), houter⟩

theorem Shallow.dropIn (h : Shallow stack) : (dropIn stack).Shallow := by
  cases stack with
  | nil => exact h
  | cons inner outer => exact ⟨h.1, value_drop inner ▸ h.2.1, h.2.2⟩

theorem Shallow.cons (h : Shallow stack) (hstack : stack.length < maxOpen)
    (hinner : inner.value.nesting = 1) : Shallow (inner :: stack) :=
  ⟨hstack, by omega, h⟩

/-- **Every token keeps the open objects shallow**, since what it opens is checked against the
limit. -/
theorem Shallow.feed (h : Shallow stack) (token : Token) : (feed stack token).Shallow := by
  cases stack with
  | nil =>
    change (begin [] token).Shallow
    obtain hbegin | ⟨v, hv, hbegin⟩ | ⟨-, hroom, opened, hopened, hbegin⟩ := begin_cases [] token
    · exact hbegin ▸ h.dropIn
    · exact hbegin ▸ h.putIn (hv.nesting ▸ Nat.zero_le _)
    · exact hbegin ▸ h.cons hroom hopened.nesting
  | cons inner outer =>
    obtain ⟨inner', hinner', hfeed⟩ | ⟨v, hv, hfeed⟩ | ⟨hroom, opened, hopened, hfeed⟩ | hfeed :=
      feed_cases inner outer token
    · exact hfeed ▸ ⟨h.1, hinner' ▸ h.2.1, h.2.2⟩
    · exact hfeed ▸ h.putIn (hv.nesting ▸ Nat.zero_le _)
    · exact hfeed ▸ h.cons hroom hopened.nesting
    · exact hfeed ▸ h.2.2.putIn h.2.1

/-- A value that is handed on from container to container. -/
theorem Shallow.foldl (h : Shallow outer) (hv : v.nesting ≤ maxOpen - outer.length) :
    (outer.foldl (fun v o => (o.put v).value) v).nesting ≤ maxOpen := by
  induction outer generalizing v with
  | nil => exact hv
  | cons inner outer ih =>
    obtain ⟨-, hput, houter⟩ := h.putIn hv
    exact ih houter hput

theorem Shallow.close (h : Shallow stack) (hclose : close stack = some value) :
    value.nesting ≤ maxOpen := by
  cases stack with
  | nil => cases hclose
  | cons inner outer =>
    obtain rfl := Option.some.inj hclose
    exact h.2.2.foldl h.2.1

theorem Shallow.run {tokens : List Token} (h : Shallow stack)
    (hrun : run stack tokens = some value) : value.nesting ≤ maxOpen :=
  run_invariant OpenObject.Shallow (·.nesting ≤ maxOpen)
    (fun _ token _ h hfeed => (hfeed ▸ h.feed token : Step.Shallow (.opened _)))
    (fun _ token _ h hfeed => (hfeed ▸ h.feed token : Step.Shallow (.done _)))
    (fun _ _ h hclose => h.close hclose) h hrun

end Shallow

/-! ## Inside a container -/

/-- **What is open in a container becomes a value of it**, when it is closed or when the text
ends. -/
theorem exists_run_put (tokens : List Token) (first : OpenObject) (left : List OpenObject)
    (inner : OpenObject) (outer : List OpenObject) :
    ∃ v rest, rest.length ≤ tokens.length ∧
      run (first :: (left ++ inner :: outer)) tokens = run (inner.put v :: outer) rest := by
  induction tokens generalizing first left with
  | nil =>
    refine ⟨left.foldl (fun v o => (o.put v).value) first.value, [], Nat.le_refl 0, ?_⟩
    rw [run, close, List.foldl_append, List.foldl_cons]
    rfl
  | cons token tokens ih =>
    have hnext (first : OpenObject) (left : List OpenObject) :
        ∃ v rest, rest.length ≤ (token :: tokens).length ∧
          goOn (.opened (first :: (left ++ inner :: outer))) tokens =
            run (inner.put v :: outer) rest := by
      obtain ⟨v, rest, hlength, hrun⟩ := ih first left
      exact ⟨v, rest, Nat.le_succ_of_le hlength, hrun⟩
    rw [run_cons]
    obtain ⟨first', -, hfeed⟩ | ⟨v, -, hfeed⟩ | ⟨-, opened, -, hfeed⟩ | hfeed :=
      feed_cases first (left ++ inner :: outer) token
    · exact hfeed ▸ hnext first' left
    · exact hfeed ▸ hnext (first.put v) left
    · exact hfeed ▸ hnext opened (first :: left)
    · rw [hfeed]
      cases left with
      | nil => exact ⟨first.value, tokens, Nat.le_succ _, rfl⟩
      | cons second left => exact hnext (second.put first.value) left

theorem eq_dictionary_of_value {inner : OpenObject} {d : Dictionary}
    (h : inner.value = .dictionary d.entries) : ∃ key?, inner = dictionary d key? := by
  cases inner with
  | array items => cases h
  | dictionary d' key? =>
    obtain rfl : d' = d := congrArg Dictionary.mk (Object.dictionary.inj h)
    exact ⟨key?, rfl⟩

theorem put_dictionary (d : Dictionary) (key? : Option String) (v : Object) :
    ∃ d', (dictionary d key?).put v = dictionary d' none ∧ d.keys <+: d'.keys := by
  cases key? with
  | none => exact ⟨d, rfl, List.prefix_rfl⟩
  | some key => exact ⟨d.insert key v, rfl, Entries.keys_prefix_insert key v d.entries⟩

/-- **A dictionary is read as a dictionary, and keeps the keys that it has** in front of those that
are set later. -/
theorem run_dictionary (d : Dictionary) (key? : Option String) (tokens : List Token) :
    ∃ after : Dictionary, run [dictionary d key?] tokens = some (.dictionary after.entries) ∧
      d.keys <+: after.keys := by
  -- the tokens of a container in it are read at once
  induction hlength : tokens.length using Nat.strongRecOn generalizing d key? tokens with
  | ind n ih =>
    subst hlength
    cases tokens with
    | nil => exact ⟨d, rfl, List.prefix_rfl⟩
    | cons token tokens =>
      have hput (v : Object) (rest : List Token) (hrest : rest.length ≤ tokens.length) :
          ∃ after : Dictionary,
            run [(dictionary d key?).put v] rest = some (.dictionary after.entries) ∧
              d.keys <+: after.keys := by
        obtain ⟨d', hd', hkeys⟩ := put_dictionary d key? v
        obtain ⟨after, hrun, hafter⟩ := ih rest.length (Nat.lt_succ_of_le hrest) d' none rest rfl
        exact ⟨after, hd' ▸ hrun, hkeys.trans hafter⟩
      rw [run_cons]
      obtain ⟨inner, hinner, hfeed⟩ | ⟨v, -, hfeed⟩ | ⟨-, opened, -, hfeed⟩ | hfeed :=
        feed_cases (dictionary d key?) [] token
      · obtain ⟨key?', rfl⟩ := eq_dictionary_of_value hinner
        exact hfeed ▸ ih tokens.length (Nat.lt_succ_self _) d key?' tokens rfl
      · exact hfeed ▸ hput v tokens (Nat.le_refl _)
      · obtain ⟨v, rest, hrest, hrun⟩ := exists_run_put tokens opened [] (dictionary d key?) []
        have hrun : goOn (.opened [opened, dictionary d key?]) tokens = _ := hrun
        rw [hfeed, hrun]
        exact hput v rest hrest
      · exact ⟨d, by rw [hfeed]; rfl, List.prefix_rfl⟩

end OpenObject

/-! ## Whole texts -/

/-- **No object nests deeper than containers may be open**, whatever text it was parsed from. -/
theorem Object.nesting_le_of_parse? {text : Bytes} {o : Object} (h : parse? text = some o) :
    o.nesting ≤ OpenObject.maxOpen := by
  have hnone : OpenObject.Shallow [] := trivial
  exact hnone.run h

namespace Dictionary

open OpenObject Token

theorem exists_run_of_parse? {text : Bytes} {d : Dictionary} (h : parse? text = some d) :
    ∃ tokens, run [dictionary ∅ none] tokens = some (.dictionary d.entries) := by
  rw [parse?] at h
  split at h
  case h_1 => cases h
  case h_2 =>
    obtain ⟨value, hrun, hvalue⟩ := Option.bind_eq_some_iff.mp h
    cases value with
    | dictionary entries =>
      obtain rfl := Option.some.inj hvalue
      exact ⟨_, hrun⟩
    | _ => cases hvalue

/-- **No value of a dictionary nests as deep as containers may be open.** -/
theorem nesting_lt_of_parse? {text : Bytes} {d : Dictionary} (h : parse? text = some d) :
    ∀ entry ∈ d.entries, entry.2.nesting < maxOpen := by
  obtain ⟨tokens, hrun⟩ := exists_run_of_parse? h
  have hempty : Shallow [dictionary ∅ none] := ⟨by decide, by decide, trivial⟩
  have hentries := Object.entryNesting_le_iff.mp (Nat.le_of_succ_le_succ (hempty.run hrun))
  exact fun entry hentry => Nat.lt_succ_of_le (hentries entry hentry)

end Dictionary

end PdfDisplay
