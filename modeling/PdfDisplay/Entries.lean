/-!
# Entries in source order

Keys with their values, in the order in which the keys were first set: setting a key that is
present replaces its value in place, any other key goes to the end.
-/

namespace PdfDisplay.Entries

variable {κ ν : Type} [DecidableEq κ]

/-- Sets a key to a value. -/
def insert (key : κ) (value : ν) : List (κ × ν) → List (κ × ν)
  | [] => [(key, value)]
  | entry :: rest => if entry.1 = key then (key, value) :: rest else entry :: insert key value rest

/-- The value of a key. -/
def get? (key : κ) (entries : List (κ × ν)) : Option ν :=
  (entries.find? fun (k, _) => k = key).map (·.2)

/-- The entries that result from setting keys one after another. -/
def ofList (settings : List (κ × ν)) : List (κ × ν) :=
  settings.foldl (fun entries (key, value) => insert key value entries) []

/-! ## Laws of insertion -/

@[simp] theorem get?_insert_self (key : κ) (value : ν) (entries : List (κ × ν)) :
    get? key (insert key value entries) = some value := by
  induction entries with
  | nil => simp [insert, get?]
  | cons entry rest ih =>
    rw [insert]
    split
    · simp [get?]
    · next h => simpa [get?, List.find?_cons, h] using ih

theorem get?_insert_of_ne {key other : κ} (value : ν) (entries : List (κ × ν))
    (h : key ≠ other) : get? other (insert key value entries) = get? other entries := by
  induction entries with
  | nil => simp [insert, get?, h]
  | cons entry rest ih =>
    rw [insert]
    split
    · next heq => simp [get?, h, heq]
    · by_cases ho : entry.1 = other <;> simp_all [get?]

/-! ## Tables filled in order -/

/-- Where each item goes before what a table holds already, the last of some items counts. -/
theorem lookup_foldl {σ ι β : Type} {step : σ → ι → σ} (lookup : σ → Option β)
    {given : ι → Option β} (h : ∀ s item, lookup (step s item) = (given item).or (lookup s))
    (items : List ι) (s : σ) :
    lookup (items.foldl step s) = (items.reverse.findSome? given).or (lookup s) := by
  induction items generalizing s with
  | nil => rfl
  | cons item items ih =>
    rw [List.foldl_cons, ih, h, List.reverse_cons, List.findSome?_append, Option.or_assoc]
    congr 1
    cases hgiven : given item <;> simp [hgiven]

end PdfDisplay.Entries
