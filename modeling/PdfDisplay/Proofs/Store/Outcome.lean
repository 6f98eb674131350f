/-!
# Outcomes of effectful programs

Programs that ask a store run in the monad of the store, of which nothing is known but its
laws. `Yields p x` says that every value which `x` hands on has the property `p`: `x` factors
through the values with that property. `Possible a x` is the other side of it, `a` has every
property that `x` yields; for a program with a state the value that it hands on is possible
(`possible_run`).
-/

namespace PdfDisplay

variable {m : Type → Type} {α β : Type} {p q : α → Prop}

/-- Whether all values that a program hands on have a property. -/
def Yields [Monad m] (p : α → Prop) (x : m α) : Prop :=
  ∃ y : m {a // p a}, Subtype.val <$> y = x

/-- Whether nothing that is known of all values that a program hands on excludes a value. -/
def Possible [Monad m] (a : α) (x : m α) : Prop := ∀ p : α → Prop, Yields p x → p a

namespace Yields

variable [Monad m] [LawfulMonad m]

theorem pure {a : α} (h : p a) : Yields p (Pure.pure a : m α) :=
  ⟨Pure.pure ⟨a, h⟩, map_pure _ _⟩

theorem mono {x : m α} (hx : Yields p x) (h : ∀ a, p a → q a) : Yields q x := by
  obtain ⟨y, rfl⟩ := hx
  exact ⟨(fun a => ⟨a.1, h a.1 a.2⟩) <$> y, by rw [← comp_map]; rfl⟩

theorem trivial (x : m α) : Yields (fun _ => True) x :=
  ⟨(fun a => ⟨a, True.intro⟩) <$> x, by rw [← comp_map]; exact id_map x⟩

/-- **What work yields can be followed through it**: if what it gives satisfies `p`, and going on
from any such value yields `r`, the whole yields `r`. -/
theorem bind {r : β → Prop} {x : m α} {f : α → m β} (hx : Yields p x)
    (hf : ∀ a, p a → Yields r (f a)) : Yields r (x >>= f) := by
  obtain ⟨y, rfl⟩ := hx
  -- a value that comes with its property says which restricted program follows
  refine ⟨y >>= fun a => (hf a.1 a.2).choose, ?_⟩
  rw [map_bind, bind_map_left]
  exact bind_congr fun a => (hf a.1 a.2).choose_spec

/-- Programs that agree on what is handed on to them agree behind it. -/
theorem bind_eq_bind {x : m α} {f g : α → m β} (hx : Yields p x) (h : ∀ a, p a → f a = g a) :
    x >>= f = x >>= g := by
  obtain ⟨y, rfl⟩ := hx
  rw [bind_map_left, bind_map_left]
  exact bind_congr fun a => h a.1 a.2

end Yields

theorem possible_pure {a : α} : Possible a (Pure.pure a : Id α) := by
  rintro p ⟨y, rfl⟩
  exact y.2

/-- The value that a program with a state hands on is possible. -/
theorem possible_run {σ : Type} (x : StateM σ α) (s : σ) : Possible (x s).1 x := by
  rintro p ⟨y, rfl⟩
  exact (y s).1.2

end PdfDisplay
