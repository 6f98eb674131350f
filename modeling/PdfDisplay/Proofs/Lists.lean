import Mathlib.Data.List.Forall2

/-!
# Work on lists

What is said about lists in more than one place: work on items that may fail succeeds if it does
so on each of them (`mapM_eq_ok_iff`), and no piece of a list holds the separator between them
(`notMem_of_mem_splitOn`).
-/

namespace PdfDisplay

/-! ## Work that may fail -/

section Failing

variable {ε α β : Type}

theorem bind_eq_ok_iff {work : Except ε α} {f : α → Except ε β} {b : β} :
    work >>= f = .ok b ↔ ∃ a, work = .ok a ∧ f a = .ok b := by
  cases work with
  | error e => exact iff_of_false nofun fun ⟨_, h, _⟩ => nomatch h
  | ok a => exact ⟨fun h => ⟨a, rfl, h⟩, fun ⟨_, ha, h⟩ => Except.ok.inj ha ▸ h⟩

/-- Work on items succeeds if it does so on each of them, and gives the results in order. -/
theorem mapM_eq_ok_iff {f : α → Except ε β} {items : List α} {results : List β} :
    items.mapM f = .ok results ↔
      List.Forall₂ (fun item result => f item = .ok result) items results := by
  induction items generalizing results with
  | nil =>
    rw [List.forall₂_nil_left_iff]
    exact ⟨fun h => (Except.ok.inj h).symm, fun h => h ▸ rfl⟩
  | cons item items ih =>
    rw [List.mapM_cons, List.forall₂_cons_left_iff, bind_eq_ok_iff]
    simp only [bind_eq_ok_iff, ih]
    constructor
    · rintro ⟨result, hfirst, others, hothers, h⟩
      exact ⟨result, others, hfirst, hothers, (Except.ok.inj h).symm⟩
    · rintro ⟨result, others, hfirst, hothers, rfl⟩
      exact ⟨result, hfirst, others, hothers, rfl⟩

theorem exists_mapM_eq_ok_iff {f : α → Except ε β} {items : List α} :
    (∃ results, items.mapM f = .ok results) ↔ ∀ item ∈ items, ∃ result, f item = .ok result := by
  simp only [mapM_eq_ok_iff]
  induction items with
  | nil => simp
  | cons item items ih =>
    simp only [List.forall₂_cons_left_iff, List.forall_mem_cons, ← ih]
    constructor
    · rintro ⟨_, result, others, hfirst, hothers, rfl⟩
      exact ⟨⟨result, hfirst⟩, others, hothers⟩
    · rintro ⟨⟨result, hfirst⟩, others, hothers⟩
      exact ⟨_, result, others, hfirst, hothers, rfl⟩

theorem mem_of_mapM_eq_ok {f : α → Except ε β} {items : List α} {results : List β}
    (h : items.mapM f = .ok results) {result : β} :
    result ∈ results ↔ ∃ item ∈ items, f item = .ok result := by
  replace h := mapM_eq_ok_iff.mp h
  induction h with
  | nil => simp
  | cons hfirst _ ih => simp [hfirst, ih, eq_comm]

end Failing

/-! ## Lists item by item -/

theorem exists_of_mem_right {α β : Type} {related : α → β → Prop} {items : List α}
    {others : List β} (h : List.Forall₂ related items others) :
    ∀ other ∈ others, ∃ item ∈ items, related item other := by
  induction h with
  | nil => exact nofun
  | cons hfirst _ ih =>
    refine List.forall_mem_cons.mpr ⟨⟨_, List.mem_cons_self, hfirst⟩, fun other hother => ?_⟩
    obtain ⟨item, hitem, hrelated⟩ := ih other hother
    exact ⟨item, List.mem_cons_of_mem _ hitem, hrelated⟩

/-! ## Pieces between separators -/

theorem notMem_of_mem_splitOn {α : Type} [DecidableEq α] {separator : α} {items piece : List α}
    (h : piece ∈ items.splitOn separator) : separator ∉ piece := by
  -- by induction over the list: a separator begins a new piece, anything else goes to the first one
  induction items generalizing piece with
  | nil =>
    rw [List.splitOn_nil, List.mem_singleton] at h
    exact h ▸ List.not_mem_nil
  | cons item items ih =>
    rw [List.splitOn_cons_eq_if_modifyHead] at h
    split at h
    case isTrue =>
      obtain rfl | h := List.mem_cons.mp h
      · exact List.not_mem_nil
      · exact ih h
    case isFalse hne =>
      cases hpieces : items.splitOn separator with
      | nil => exact absurd hpieces (List.splitOn_ne_nil _ _)
      | cons first rest =>
        rw [hpieces] at h ih
        obtain rfl | h := List.mem_cons.mp h
        · rw [List.mem_cons, not_or]
          exact ⟨fun heq => hne (beq_iff_eq.mpr heq.symm), ih List.mem_cons_self⟩
        · exact ih (List.mem_cons_of_mem _ h)

/-- There is one more piece than there are separators. -/
theorem length_splitOn {α : Type} [DecidableEq α] {separator : α} {items : List α} :
    (items.splitOn separator).length = items.count separator + 1 := by
  induction items with
  | nil => rfl
  | cons item items ih =>
    rw [List.splitOn_cons_eq_if_modifyHead, List.count_cons]
    split
    case isTrue => rw [List.length_cons, ih]
    case isFalse => rw [List.length_modifyHead, ih, Nat.add_zero]

end PdfDisplay
