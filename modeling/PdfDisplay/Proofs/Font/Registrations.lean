import Mathlib.Algebra.Group.Nat.Defs
import Mathlib.Data.Finset.Card
import Mathlib.Data.Nat.Find
import PdfDisplay.Font.Registry
import Std.Data.String.ToInt

/-!
# Registering over any history

A program is kept under the name of its family or under a numbered alias. The names are tried one
after another, and `FontRegistry.EndsAt` says at which place of their sequence the search ends. It
ends within as many places as there are programs, and one more, since the names are all different
(`exists_endsAt`).

No registration takes a name away or gives it another program (`keeps_registerAll`). So a place
where a search has ended stays the one where it ends, and whatever is registered once is found again
later (`registerAll_history`), also where the name of a family looks like an alias of another one.

The numbers of the aliases have 32 bits and a sign, and are not checked. So this is said of a
registry with fewer than 2^31 - 1 programs: when the names of a family are taken up to the number
2^31 - 1, the next alias has the least number instead (`not_registerAll_history`).
-/

namespace PdfDisplay.FontRegistry

variable {registry registry' : FontRegistry} {family : String} {program : FontProgram} {place : Nat}

/-! ## Names -/

/-- A name with a suffix is longer than the family, so it is not the family's own. -/
theorem numbered_ne_self (family : String) (suffix : Int32) : numbered family suffix ≠ family := by
  intro h
  have hlength := congrArg String.length h
  have hmark : ("#" : String).length = 1 := rfl
  rw [numbered, String.length_append, String.length_append, hmark] at hlength
  omega

/-- Different suffixes make different names, as the text of a number determines the number. -/
theorem numbered_inj {first second : Int32} :
    numbered family first = numbered family second ↔ first = second := by
  refine ⟨fun h => ?_, congrArg _⟩
  have hnumber : toString first.toInt = toString second.toInt := (String.append_right_inj _).mp h
  exact Int32.toInt_inj.mp (Int.repr_injective hnumber)

/-- The number of a place in the sequence of names. The first name has the number one, and does not
show it. -/
def suffixAt (place : Nat) : Int32 := .ofNat (place + 1)

/-- The name in a place of the sequence, counted from zero. -/
def candidate (family : String) (place : Nat) : String :=
  if place = 0 then family else numbered family (suffixAt place)

/-- The suffix of the next place is one more, and where 32 bits end it goes on with the least
number. -/
theorem suffixAt_succ (place : Nat) : suffixAt place + 1 = suffixAt (place + 1) := by
  rw [suffixAt, suffixAt, Int32.ofNat_add (place + 1)]
  rfl

theorem candidate_succ (family : String) (place : Nat) :
    candidate family (place + 1) = numbered family (suffixAt place + 1) := by
  rw [candidate, if_neg (Nat.succ_ne_zero place), suffixAt_succ]

/-- Two places with one number are 2^32 places from each other. -/
theorem mod_eq_of_suffixAt_eq {first second : Nat} (h : suffixAt first = suffixAt second) :
    (first + 1) % 2 ^ 32 = (second + 1) % 2 ^ 32 := by
  have hbits := congrArg (fun suffix => suffix.toUInt32.toNat) h
  simpa only [suffixAt, Int32.toUInt32_ofNat', UInt32.toNat_ofNat'] using hbits

theorem suffixAt_eq_one_iff (h : place < 2 ^ 32) : suffixAt place = 1 ↔ place = 0 := by
  constructor
  · intro hone
    have hmod : (place + 1) % 2 ^ 32 = (0 + 1) % 2 ^ 32 := mod_eq_of_suffixAt_eq hone
    omega
  · rintro rfl
    rfl

/-- The first 2^32 + 1 names of a sequence are all different. -/
theorem candidate_inj {first second : Nat} (hfirst : first ≤ 2 ^ 32) (hsecond : second ≤ 2 ^ 32) :
    candidate family first = candidate family second ↔ first = second := by
  refine ⟨fun h => ?_, congrArg _⟩
  rw [candidate, candidate] at h
  split at h <;> split at h
  case isTrue.isTrue hzero hzero' => rw [hzero, hzero']
  case isTrue.isFalse => exact (numbered_ne_self _ _ h.symm).elim
  case isFalse.isTrue => exact (numbered_ne_self _ _ h).elim
  case isFalse.isFalse =>
    have hmod := mod_eq_of_suffixAt_eq (numbered_inj.mp h)
    omega

/-- Whether a name is that of a family or an alias of it, with a number from two on. -/
def IsNameOf (family name : String) : Prop :=
  name = family ∨ ∃ number, 2 ≤ number ∧ name = family ++ "#" ++ toString number

/-- Up to the greatest number of 31 bits an alias shows its place. -/
theorem candidate_eq_append (hfirst : place ≠ 0) (hlast : place + 1 < 2 ^ 31) :
    candidate family place = family ++ "#" ++ toString (place + 1) := by
  have hnumber : (suffixAt place).toInt = (place + 1 : Nat) := by
    rw [suffixAt, ← Int32.ofInt_eq_ofNat, Int32.toInt_ofInt_of_le (by omega) (by omega)]
  have htext : toString (suffixAt place) = toString (place + 1) := congrArg toString hnumber
  rw [candidate, if_neg hfirst, numbered, htext]

/-- As long as the suffixes have not passed the greatest one, the candidates are the family and its
aliases with the numbers from two on. -/
theorem isNameOf_candidate (family : String) (hlast : place + 1 < 2 ^ 31) :
    IsNameOf family (candidate family place) := by
  by_cases h : place = 0
  · exact .inl (if_pos h)
  · exact .inr ⟨place + 1, by omega, candidate_eq_append h hlast⟩

/-! ## Programs under their names -/

/-- Entering a program changes what is found under its name and under no other. -/
theorem get?_insert (name other : String) :
    (registry.insert name program).get? other =
      if name = other then some program else registry.get? other := by
  rw [get?, insert, Std.TreeMap.getElem?_insert]
  simp [get?]

/-- Whether a registry has, besides the programs of another one, a program under a name that is
free there, and no others. -/
structure Adds (registry : FontRegistry) (name : String) (program : FontProgram)
    (registry' : FontRegistry) : Prop where
  /-- The name is free. -/
  free : registry.get? name = none
  /-- The program has the name. -/
  kept : registry'.get? name = some program
  /-- All other names are as they were. -/
  others : ∀ other, other ≠ name → registry'.get? other = registry.get? other
  /-- There is one name more. -/
  size : registry'.size = registry.size + 1

theorem adds_insert {name : String} (h : registry.get? name = none) :
    registry.Adds name program (registry.insert name program) where
  free := h
  kept := by rw [get?_insert, if_pos rfl]
  others other hother := by rw [get?_insert, if_neg (Ne.symm hother)]
  size := by
    have hfree : registry.programs.contains name = false := by
      rw [Std.TreeMap.contains_eq_isSome_getElem?]
      exact congrArg Option.isSome h
    rw [size, insert, Std.TreeMap.size_insert, hfree]
    rfl

/-- Whether a registry has all programs of another one under the same names. -/
structure Keeps (registry registry' : FontRegistry) : Prop where
  /-- Every program has its name. -/
  names : ∀ name kept, registry.get? name = some kept → registry'.get? name = some kept
  /-- There are no fewer programs. -/
  size : registry.size ≤ registry'.size

theorem Keeps.refl (registry : FontRegistry) : Keeps registry registry :=
  ⟨fun _ _ => id, Nat.le_refl _⟩

theorem Keeps.trans {registry'' : FontRegistry} (h : Keeps registry registry')
    (h' : Keeps registry' registry'') : Keeps registry registry'' where
  names name kept hkept := h'.names name kept (h.names name kept hkept)
  size := h.size.trans h'.size

/-- Adding a name that was free keeps every name that is taken. -/
theorem Adds.keeps {name : String} (h : registry.Adds name program registry') :
    Keeps registry registry' where
  names other kept hkept := by
    have hother : other ≠ name := by
      rintro rfl
      cases h.free.symm.trans hkept
    rw [h.others other hother, hkept]
  size := h.size ▸ Nat.le_succ _

/-- **A registration keeps all programs**, wherever its search begins and wherever it stops. -/
theorem keeps_registerFrom (registry : FontRegistry) (family : String) (program : FontProgram)
    (name : String) (suffix : Int32) (tries : Nat) :
    Keeps registry (registry.registerFrom family program name suffix tries).1 := by
  induction tries generalizing name suffix with
  | zero => exact .refl registry
  | succ tries ih =>
    rw [registerFrom]
    cases hname : registry.get? name with
    | none => exact (adds_insert hname).keeps
    | some kept =>
      dsimp only
      split
      case isTrue => exact .refl registry
      case isFalse => exact ih _ _

/-- **No registration takes a name away** or puts another program under it. -/
theorem keeps_register (registry : FontRegistry) (family : String) (program : FontProgram) :
    Keeps registry (registry.register family program).1 :=
  keeps_registerFrom registry family program family 1 _

/-! ## The search for a name -/

/-- Whether the search for a name ends at a place: the names before it are those of other programs,
and the name there is free or is that of the program. -/
structure EndsAt (registry : FontRegistry) (family : String) (program : FontProgram)
    (place : Nat) : Prop where
  /-- The names before are taken. -/
  taken : ∀ earlier < place, ∃ kept, registry.get? (candidate family earlier) = some kept ∧
    kept ≠ program
  /-- The name is not. -/
  stops : registry.get? (candidate family place) = none ∨
    registry.get? (candidate family place) = some program

/-- The search ends at one place only, since every place before it is taken. -/
theorem EndsAt.unique {other : Nat} (h : registry.EndsAt family program place)
    (hother : registry.EndsAt family program other) : place = other := by
  have hle {first second : Nat} (hfirst : registry.EndsAt family program first)
      (hsecond : registry.EndsAt family program second) : ¬ first < second := by
    intro hless
    obtain ⟨kept, hkept, hne⟩ := hsecond.taken first hless
    obtain hnone | hsome := hfirst.stops
    · cases hnone.symm.trans hkept
    · exact hne (Option.some.inj (hkept.symm.trans hsome))
  have := hle h hother
  have := hle hother h
  omega

/-- Of the first `n + 1` names of a family, where `n` is the number of programs, one is free: they
are all different, so not all of them can be taken. -/
theorem exists_free (hsize : registry.size ≤ 2 ^ 32) (family : String) :
    ∃ place ≤ registry.size, registry.get? (candidate family place) = none := by
  by_contra hall
  push Not at hall
  -- otherwise the first `n + 1` names of the family are among the `n` names that are taken
  have hsubset : (Finset.range (registry.size + 1)).image (candidate family) ⊆
      registry.programs.keys.toFinset := by
    intro name hname
    obtain ⟨place, hplace, rfl⟩ := Finset.mem_image.mp hname
    have htaken := hall place (Nat.le_of_lt_succ (Finset.mem_range.mp hplace))
    rw [List.mem_toFinset, Std.TreeMap.mem_keys]
    by_contra hfree
    exact htaken (Std.TreeMap.getElem?_eq_none hfree)
  have hinj : Set.InjOn (candidate family) (Finset.range (registry.size + 1)) := by
    intro first hfirst second hsecond h
    rw [Finset.mem_coe, Finset.mem_range] at hfirst hsecond
    exact (candidate_inj (by omega) (by omega)).mp h
  have hcard := Finset.card_le_card hsubset
  rw [Finset.card_image_of_injOn hinj, Finset.card_range] at hcard
  have hkeys := hcard.trans (List.toFinset_card_le _)
  rw [Std.TreeMap.length_keys] at hkeys
  exact Nat.not_succ_le_self _ hkeys

/-- **The search ends** at one of the first `n + 1` places, where `n` is the number of programs: at
the first of them whose name is free or has the program. -/
theorem exists_endsAt (hsize : registry.size ≤ 2 ^ 32) (family : String) (program : FontProgram) :
    ∃ place ≤ registry.size, registry.EndsAt family program place := by
  classical
  obtain ⟨last, hlast, hfree⟩ := exists_free hsize family
  let stops (place : Nat) : Prop := registry.get? (candidate family place) = none ∨
    registry.get? (candidate family place) = some program
  have hexists : ∃ place, stops place := ⟨last, .inl hfree⟩
  refine ⟨Nat.find hexists, (Nat.find_min' hexists (.inl hfree)).trans hlast, ?_,
    Nat.find_spec hexists⟩
  intro earlier hearlier
  have hnot : ¬ stops earlier := Nat.find_min hexists hearlier
  rw [not_or] at hnot
  obtain ⟨kept, hkept⟩ := Option.ne_none_iff_exists'.mp hnot.1
  refine ⟨kept, hkept, ?_⟩
  rintro rfl
  exact hnot.2 hkept

/-- What registering does where the search ends: the program is there, or it is put there. -/
def settle (registry : FontRegistry) (family : String) (program : FontProgram) (place : Nat) :
    FontRegistry × Registration :=
  if registry.get? (candidate family place) = none then
    (registry.insert (candidate family place) program,
      if suffixAt place = 1 then .registered else .renamed (candidate family place))
  else (registry, .duplicate)

/-- However many names may still be looked at, the search goes on to the place where it ends. -/
theorem registerFrom_of_endsAt (h : registry.EndsAt family program place) {first tries : Nat}
    (hfirst : first ≤ place) (htries : place < first + tries) :
    registerFrom registry family program (candidate family first) (suffixAt first) tries =
      registry.settle family program place := by
  -- the place where the search ends stays among those that may still be looked at
  induction tries generalizing first with
  | zero => omega
  | succ tries ih =>
    rw [registerFrom]
    obtain rfl | hless := Nat.eq_or_lt_of_le hfirst
    · rw [settle]
      obtain hnone | hsome := h.stops
      · rw [hnone]
        rfl
      · rw [hsome]
        simp
    · obtain ⟨kept, hkept, hne⟩ := h.taken first hless
      rw [hkept]
      dsimp only
      rw [if_neg hne, ← candidate_succ, suffixAt_succ]
      exact ih hless (by omega)

/-- The search begins with the name of the family, in the first place. -/
theorem registerFrom_first_of_endsAt (h : registry.EndsAt family program place) {tries : Nat}
    (htries : place < tries) :
    registerFrom registry family program family 1 tries = registry.settle family program place := by
  rw [← registerFrom_of_endsAt h (Nat.zero_le place) (htries.trans_eq (Nat.zero_add tries).symm)]
  rfl

/-- **Where the search ends, the program is settled**, if that place lies within the tries that the
size of the registry allows. -/
theorem register_of_endsAt (h : registry.EndsAt family program place)
    (hplace : place ≤ registry.size) :
    registry.register family program = registry.settle family program place :=
  registerFrom_first_of_endsAt h (Nat.lt_succ_of_le hplace)

/-! ## One registration -/

/-- What the outcome of a registration says of the registries before and behind it. -/
inductive Becomes (registry : FontRegistry) (family : String) (program : FontProgram) :
    FontRegistry × Registration → Prop where
  /-- The program is added under the name of its family. -/
  | registered {registry' : FontRegistry} (h : registry.Adds family program registry') :
    Becomes registry family program (registry', .registered)
  /-- It is added under an alias. -/
  | renamed {registry' : FontRegistry} {number : Nat} (hnumber : 2 ≤ number)
    (h : registry.Adds (family ++ "#" ++ toString number) program registry') :
    Becomes registry family program (registry', .renamed (family ++ "#" ++ toString number))
  /-- It is under one of these names, and nothing changes. -/
  | duplicate {name : String} (hname : IsNameOf family name)
    (h : registry.get? name = some program) : Becomes registry family program (registry, .duplicate)

/-- **A registration ends with a name for the program**, the family's or a numbered one, as long as
fewer names are taken than there are positive suffixes. -/
theorem becomes_register (hsize : registry.size < 2 ^ 31 - 1) (family : String)
    (program : FontProgram) :
    registry.Becomes family program (registry.register family program) := by
  have hnames : registry.size ≤ 2 ^ 32 := by omega
  obtain ⟨place, hplace, hends⟩ := exists_endsAt hnames family program
  -- fewer names than suffixes are taken, so the search ends before the suffixes turn negative
  have hlast : place + 1 < 2 ^ 31 := by omega
  rw [register_of_endsAt hends hplace, settle]
  split
  case isTrue hfree =>
    have hadds : registry.Adds _ program _ := adds_insert hfree
    by_cases hzero : place = 0
    · subst hzero
      exact .registered hadds
    · rw [if_neg (mt (suffixAt_eq_one_iff (by omega)).mp hzero)]
      rw [candidate_eq_append hzero hlast] at hadds ⊢
      exact .renamed (by omega) hadds
  case isFalse hkept =>
    exact .duplicate (isNameOf_candidate family hlast) (hends.stops.resolve_left hkept)

/-- A program that is renamed has a numbered name of its family, with a number of at least two. -/
theorem Becomes.exists_number {name : String}
    (h : registry.Becomes family program (registry', .renamed name)) :
    ∃ number, 2 ≤ number ∧ name = family ++ "#" ++ toString number := by
  cases h with
  | renamed hnumber _ => exact ⟨_, hnumber, rfl⟩

/-- Whether the search for a name ends at a place with the program. -/
structure FindsAt (registry : FontRegistry) (family : String) (program : FontProgram)
    (place : Nat) : Prop extends registry.EndsAt family program place where
  /-- The program has the name. -/
  found : registry.get? (candidate family place) = some program

/-- The search still ends where it has ended, and finds the program, in a registry that keeps the
names and has the program there. -/
theorem EndsAt.findsAt (h : registry.EndsAt family program place)
    (hkeeps : Keeps registry registry')
    (hfound : registry'.get? (candidate family place) = some program) :
    registry'.FindsAt family program place where
  taken earlier hearlier := by
    obtain ⟨kept, hkept, hne⟩ := h.taken earlier hearlier
    exact ⟨kept, hkeeps.names _ kept hkept, hne⟩
  stops := .inr hfound
  found := hfound

/-- Where a search has found a program it finds the program again. -/
theorem FindsAt.keeps (h : registry.FindsAt family program place)
    (hkeeps : Keeps registry registry') : registry'.FindsAt family program place :=
  h.toEndsAt.findsAt hkeeps (hkeeps.names _ program h.found)

/-- A program that is found among the names of its family is a duplicate, and nothing is entered. -/
theorem FindsAt.register (h : registry.FindsAt family program place)
    (hplace : place ≤ registry.size) :
    registry.register family program = (registry, .duplicate) := by
  rw [register_of_endsAt h.toEndsAt hplace, settle, h.found]
  rfl

/-- Behind a registration the search finds the program where it has ended. -/
theorem EndsAt.findsAt_register (h : registry.EndsAt family program place)
    (hplace : place ≤ registry.size) :
    (registry.register family program).1.FindsAt family program place := by
  refine h.findsAt (keeps_register registry family program) ?_
  rw [register_of_endsAt h hplace, settle]
  split
  case isTrue => rw [get?_insert, if_pos rfl]
  case isFalse hkept => exact h.stops.resolve_left hkept

/-! ## Histories -/

/-- The registry after some registrations. -/
def registerAll (registry : FontRegistry) (calls : List (String × FontProgram)) : FontRegistry :=
  calls.foldl (fun registry (family, program) => (registry.register family program).1) registry

/-- **No registration takes a name away** or gives it another program. -/
theorem keeps_registerAll (registry : FontRegistry) (calls : List (String × FontProgram)) :
    Keeps registry (registry.registerAll calls) := by
  induction calls generalizing registry with
  | nil => exact .refl registry
  | cons call calls ih => exact (keeps_register registry call.1 call.2).trans (ih _)

/-- What registering a program does, now and with regard to any later registrations. -/
structure Registers (registry : FontRegistry) (family : String) (program : FontProgram)
    (later : List (String × FontProgram)) : Prop where
  /-- The search for a name ends among the first `n + 1` names, where `n` is the number of programs
  kept, and is not cut short there. -/
  ends : ∃ place ≤ registry.size, registry.EndsAt family program place ∧
    ∀ tries > place, registry.registerFrom family program family 1 tries =
      registry.register family program
  /-- The program is added under a name of its family that was free, or it has one already and
  nothing changes. -/
  becomes : registry.Becomes family program (registry.register family program)
  /-- It is kept under a name of its family. -/
  named : ∃ name, IsNameOf family name ∧
    (registry.register family program).1.get? name = some program
  /-- The names from before have the same programs later. -/
  keeps : ∀ name kept, registry.get? name = some kept →
    ((registry.register family program).1.registerAll later).get? name = some kept
  /-- The program is a duplicate when it is registered again later. -/
  duplicate : ((registry.register family program).1.registerAll later).register family program =
    ((registry.register family program).1.registerAll later, .duplicate)

/-- **Registering, over any history**, while fewer than 2^31 - 1 programs are kept. Whatever has
been registered earlier in an empty registry, a registration is as `Registers` says. -/
theorem registerAll_history (earlier later : List (String × FontProgram)) (family : String)
    (program : FontProgram) (hsize : (registerAll ∅ earlier).size < 2 ^ 31 - 1) :
    (registerAll ∅ earlier).Registers family program later := by
  have hlater := keeps_registerAll ((registerAll ∅ earlier).register family program).1 later
  have hkeeps := (keeps_register (registerAll ∅ earlier) family program).trans hlater
  have hnames : (registerAll ∅ earlier).size ≤ 2 ^ 32 := by omega
  obtain ⟨place, hplace, hends⟩ := exists_endsAt hnames family program
  have hfinds := hends.findsAt_register hplace
  refine ⟨⟨place, hplace, hends, fun tries htries => ?_⟩, becomes_register hsize family program,
    ⟨_, isNameOf_candidate family (by omega), hfinds.found⟩, hkeeps.names,
    (hfinds.keeps hlater).register (hplace.trans hkeeps.size)⟩
  rw [register_of_endsAt hends hplace, registerFrom_first_of_endsAt hends htries]

/-- A family whose name looks like an alias: its program is found under that name, and another one
goes on to the next alias. -/
theorem registerAll_history_alias :
    let registry := registerAll ∅ [("A", ⟨[1], .trueType⟩), ("A#2", ⟨[2], .type1⟩)]
    registry.size < 2 ^ 31 - 1 ∧ registry.Registers "A" ⟨[2], .binary⟩ [("A", ⟨[3], .type1⟩)] ∧
      (registry.register "A" ⟨[2], .type1⟩).2 = .duplicate ∧
      (registry.register "A" ⟨[2], .binary⟩).2 = .renamed "A#3" := by
  intro registry
  have hsize : registry.size < 2 ^ 31 - 1 := by decide +kernel
  refine ⟨hsize, registerAll_history _ _ _ _ hsize, ?_⟩
  decide +kernel

/-! ## Where the numbers start over -/

/-- Registrations of one program under the first names of a family, each name as a family of its
own. -/
def fillings (family : String) (program : FontProgram) (count : Nat) :
    List (String × FontProgram) :=
  (List.range count).map fun place => (candidate family place, program)

/-- A family that is free is the name of its program. -/
theorem adds_register {name : String} (h : registry.get? name = none) (program : FontProgram) :
    registry.Adds name program (registry.register name program).1 := by
  have hends : registry.EndsAt name program 0 :=
    ⟨fun earlier hearlier => absurd hearlier (Nat.not_lt_zero _), .inl h⟩
  have hsettle : registry.settle name program 0 = (registry.insert name program, .registered) :=
    if_pos h
  rw [register_of_endsAt hends (Nat.zero_le _), hsettle]
  exact adds_insert h

/-- The registry after a family's first names have been filled. -/
structure IsFilled (registry : FontRegistry) (family : String) (program : FontProgram)
    (count : Nat) : Prop where
  /-- Each of these names has the program. -/
  taken : ∀ place < count, registry.get? (candidate family place) = some program
  /-- All other names are free. -/
  free : ∀ name, (∀ place < count, name ≠ candidate family place) → registry.get? name = none
  /-- There is one program for each of the names. -/
  size : registry.size = count

/-- The history fills the places of a family one after another, by induction over their number, up
to as many as there are suffixes. -/
theorem isFilled_registerAll (family : String) (program : FontProgram) {count : Nat}
    (h : count ≤ 2 ^ 32) :
    (registerAll ∅ (fillings family program count)).IsFilled family program count := by
  induction count with
  | zero =>
    refine ⟨fun place hplace => absurd hplace (Nat.not_lt_zero _), fun name _ => ?_, rfl⟩
    exact Std.TreeMap.getElem?_emptyc
  | succ count ih =>
    have hbefore := ih (by omega)
    have hall : registerAll ∅ (fillings family program (count + 1)) =
        ((registerAll ∅ (fillings family program count)).register (candidate family count)
          program).1 := by
      rw [registerAll, fillings, List.range_succ, List.map_append, List.foldl_append]
      rfl
    -- the next candidate differs from those before, as long as the suffixes have not come round
    have hnew : ∀ place < count, candidate family count ≠ candidate family place := by
      intro place hplace heq
      exact (Nat.ne_of_lt hplace) ((candidate_inj (by omega) (by omega)).mp heq).symm
    have hadds := hall ▸ adds_register (hbefore.free _ hnew) program
    refine ⟨fun place hplace => ?_, fun name hname => ?_, by rw [hadds.size, hbefore.size]⟩
    · obtain hless | rfl := Nat.lt_succ_iff_lt_or_eq.mp hplace
      · exact hadds.keeps.names _ _ (hbefore.taken place hless)
      · exact hadds.kept
    · rw [hadds.others name (hname count (Nat.lt_succ_self count))]
      exact hbefore.free name fun place hplace => hname place (Nat.lt_succ_of_lt hplace)

/-- **The numbers of aliases are not checked**: with the names of a family taken up to the number
2^31 - 1, the next program has an alias with a number below zero. -/
theorem not_registerAll_history :
    ¬ ∀ (earlier later : List (String × FontProgram)) (family : String) (program : FontProgram),
      (registerAll ∅ earlier).Registers family program later := by
  intro h
  let kept : FontProgram := ⟨[], .trueType⟩
  let program : FontProgram := ⟨[], .binary⟩
  -- the history fills the family's own name and all positive suffixes
  let last := 2 ^ 31 - 1
  have hfilled := isFilled_registerAll "f" kept (show last ≤ 2 ^ 32 by decide)
  have hfree := hfilled.free (candidate "f" last) fun place hplace heq =>
    (Nat.ne_of_lt hplace) ((candidate_inj (by omega) (by omega)).mp heq).symm
  have hends : (registerAll ∅ (fillings "f" kept last)).EndsAt "f" program last :=
    ⟨fun place hplace => ⟨kept, hfilled.taken place hplace, by decide⟩, .inl hfree⟩
  have hbecomes := (h (fillings "f" kept last) [] "f" program).becomes
  rw [register_of_endsAt hends hfilled.size.ge, settle, if_pos hfree,
    if_neg (by decide : suffixAt last ≠ 1)] at hbecomes
  obtain ⟨number, -, hname⟩ := hbecomes.exists_number
  have htext : toString (suffixAt last).toInt = toString (number : Int) :=
    (String.append_right_inj _).mp hname
  have hnumber : (suffixAt last).toInt = number := Int.repr_injective htext
  -- the next suffix is the least number of 32 bits
  have hbelow : (suffixAt last).toInt < 0 := by decide
  omega

end PdfDisplay.FontRegistry
