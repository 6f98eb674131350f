import PdfDisplay.Proofs.Store.Outcome
import PdfDisplay.Warning

/-!
# Two programs side by side

Where two runs are compared, what they hand on is related, and so is what they do. `Coupled R x y`
says that `x` and `y` do the same and hand on values that are related by `R`: one program hands on
the pairs. `Continues R x y` says that `y` does what `x` does and then goes on, to a value that is
related to the one of `x`. `Silent x` says that `x` does nothing but hand on a value.

`Agrees R x y` is for work that warns: the two are coupled whatever warnings came before, and the
warnings themselves are not compared.

In a monad without effects both say that the two values are related (`Coupled.of_id`,
`Continues.of_id`); in a monad of states, that they are whatever state both begin with
(`Continues.of_state`).
-/

namespace PdfDisplay

variable {m : Type → Type} {α β γ δ : Type}

/-- Whether two programs do the same and hand on related values. -/
def Coupled [Monad m] (R : α → β → Prop) (x : m α) (y : m β) : Prop :=
  ∃ z : m {pair : α × β // R pair.1 pair.2}, (·.1.1) <$> z = x ∧ (·.1.2) <$> z = y

/-- Whether a program does what another does and then goes on, and the values that the two hand on
are related. -/
def Continues [Monad m] (R : α → β → Prop) (x : m α) (y : m β) : Prop :=
  ∃ (γ : Type) (start : m γ) (stop : γ → α) (goOn : γ → m β),
    x = stop <$> start ∧ y = start >>= goOn ∧ ∀ c, Yields (R (stop c)) (goOn c)

/-- Whether a program leaves no trace but its value. -/
def Silent [Monad m] (x : m α) : Prop := (fun _ => ()) <$> x = Pure.pure ()

variable {R : α → β → Prop}

namespace Coupled

variable [Monad m] [LawfulMonad m]

theorem pure {a : α} {b : β} (h : R a b) : Coupled R (Pure.pure a : m α) (Pure.pure b) :=
  ⟨Pure.pure ⟨(a, b), h⟩, map_pure _ _, map_pure _ _⟩

theorem refl (x : m α) : Coupled (· = ·) x x := by
  refine ⟨(fun a => ⟨(a, a), rfl⟩) <$> x, ?_, ?_⟩ <;> rw [← comp_map] <;> exact id_map x

/-- A program beside itself hands on the same, of which is known what is known of it. -/
theorem refl_of_yields {p : α → Prop} {x : m α} (hx : Yields p x) :
    Coupled (fun a b => a = b ∧ p a) x x := by
  obtain ⟨y, rfl⟩ := hx
  refine ⟨(fun a => ⟨(a.1, a.1), rfl, a.2⟩) <$> y, ?_, ?_⟩ <;> rw [← comp_map] <;> rfl

/-- **Coupled works go on coupled**, if what follows on each side is coupled for any two related
results. -/
theorem bind {T : γ → δ → Prop} {x : m α} {y : m β} {f : α → m γ} {g : β → m δ}
    (hxy : Coupled R x y) (hfg : ∀ a b, R a b → Coupled T (f a) (g b)) :
    Coupled T (x >>= f) (y >>= g) := by
  obtain ⟨z, rfl, rfl⟩ := hxy
  refine ⟨z >>= fun p => (hfg p.1.1 p.1.2 p.2).choose, ?_, ?_⟩ <;> rw [map_bind, bind_map_left]
  · exact bind_congr fun p => (hfg p.1.1 p.1.2 p.2).choose_spec.1
  · exact bind_congr fun p => (hfg p.1.1 p.1.2 p.2).choose_spec.2

/-- Related results may be changed on both sides, if the changes keep them related. -/
theorem map {T : γ → δ → Prop} {x : m α} {y : m β} (hxy : Coupled R x y) {f : α → γ} {g : β → δ}
    (h : ∀ a b, R a b → T (f a) (g b)) : Coupled T (f <$> x) (g <$> y) := by
  obtain ⟨z, rfl, rfl⟩ := hxy
  refine ⟨(fun p => ⟨(f p.1.1, g p.1.2), h _ _ p.2⟩) <$> z, ?_, ?_⟩ <;>
    rw [← comp_map, ← comp_map] <;> rfl

theorem mono {T : α → β → Prop} {x : m α} {y : m β} (hxy : Coupled R x y)
    (h : ∀ a b, R a b → T a b) : Coupled T x y := by
  have hmap : Coupled T (id <$> x) (id <$> y) := hxy.map h
  rwa [id_map, id_map] at hmap

/-- Programs that hand on what is equal in a view are equal in that view. -/
theorem map_eq_map {x : m α} {y : m β} (hxy : Coupled R x y) {f : α → γ} {g : β → γ}
    (h : ∀ a b, R a b → f a = g b) : f <$> x = g <$> y := by
  obtain ⟨z, rfl, rfl⟩ := hxy
  rw [← comp_map, ← comp_map]
  exact congrArg (· <$> z) (funext fun p => h _ _ p.2)

theorem of_id {x : Id α} {y : Id β} (h : Coupled R x y) : R x y := by
  obtain ⟨z, rfl, rfl⟩ := h
  exact z.2

end Coupled

/-! ## Work that warns -/

/-- Whether two pieces of work do the same and hand on related values, whatever they warn of. -/
def Agrees [Monad m] (R : α → β → Prop) (x : Diagnosing m α) (y : Diagnosing m β) : Prop :=
  ∀ before before', Coupled (fun r r' => R r.1 r'.1) (x.run before) (y.run before')

namespace Agrees

variable [Monad m] [LawfulMonad m]

theorem pure {a : α} {b : β} (h : R a b) :
    Agrees R (Pure.pure a : Diagnosing m α) (Pure.pure b) := by
  intro before before'
  rw [StateT.run_pure, StateT.run_pure]
  exact .pure h

theorem mono {T : α → β → Prop} {x : Diagnosing m α} {y : Diagnosing m β} (hxy : Agrees R x y)
    (h : ∀ a b, R a b → T a b) : Agrees T x y :=
  fun before before' => (hxy before before').mono fun _ _ => h _ _

theorem bind {T : γ → δ → Prop} {x : Diagnosing m α} {y : Diagnosing m β}
    {f : α → Diagnosing m γ} {g : β → Diagnosing m δ} (hxy : Agrees R x y)
    (hfg : ∀ a b, R a b → Agrees T (f a) (g b)) : Agrees T (x >>= f) (y >>= g) := by
  intro before before'
  rw [StateT.run_bind, StateT.run_bind]
  exact (hxy before before').bind fun r r' hr => hfg _ _ hr _ _

theorem lift {x : m α} {y : m β} (h : Coupled R x y) :
    Agrees R (x : Diagnosing m α) (y : Diagnosing m β) := by
  intro before before'
  change Coupled _ ((monadLift x : StateT (List Warning) m α).run before)
    ((monadLift y : StateT (List Warning) m β).run before')
  rw [StateT.run_monadLift, StateT.run_monadLift]
  exact h.bind fun a b hab => .pure hab

/-- Work that ends with a warning on both sides. -/
theorem warned {w w' : Warning} {a : α} {b : β} (h : R a b) :
    Agrees R (do Diagnosing.warn w; Pure.pure a : Diagnosing m α)
      (do Diagnosing.warn w'; Pure.pure b : Diagnosing m β) := by
  intro before before'
  rw [StateT.run_bind, StateT.run_bind, Diagnosing.warn, Diagnosing.warn]
  change Coupled _ (Pure.pure _ >>= _) (Pure.pure _ >>= _)
  rw [pure_bind, pure_bind]
  exact .pure h

/-- What agrees as work with warnings is coupled once the warnings are collected, their values being
related and the warnings free to differ. -/
theorem collect {x : Diagnosing m α} {y : Diagnosing m β} (h : Agrees R x y) :
    Coupled (fun d d' => R d.value d'.value) x.collect y.collect := by
  rw [Diagnosing.collect, Diagnosing.collect]
  exact (h [] []).bind fun r r' hr => .pure hr

end Agrees

namespace Continues

theorem map [Monad m] [LawfulMonad m] {T : γ → δ → Prop} {x : m α} {y : m β}
    (hxy : Continues R x y) {f : α → γ} {g : β → δ} (h : ∀ a b, R a b → T (f a) (g b)) :
    Continues T (f <$> x) (g <$> y) := by
  obtain ⟨ε, start, stop, goOn, rfl, rfl, hgoOn⟩ := hxy
  refine ⟨ε, start, fun c => f (stop c), fun c => g <$> goOn c, ?_, map_bind _ _ _, fun c => ?_⟩
  · rw [← comp_map]
    rfl
  · dsimp only
    rw [map_eq_pure_bind]
    exact (hgoOn c).bind fun b hb => .pure (h _ b hb)

theorem of_id {x : Id α} {y : Id β} (h : Continues R x y) : R x y := by
  obtain ⟨γ, start, stop, goOn, rfl, rfl, hgoOn⟩ := h
  exact possible_pure _ (hgoOn start)

/-- From any state a work that continues another gives a related result. -/
theorem of_state {σ : Type} {x : StateM σ α} {y : StateM σ β} (h : Continues R x y) (s : σ) :
    R (x s).1 (y s).1 := by
  obtain ⟨γ, start, stop, goOn, rfl, rfl, hgoOn⟩ := h
  exact possible_run _ (start s).2 _ (hgoOn (start s).1)

end Continues

namespace Silent

variable [Monad m] [LawfulMonad m]

theorem pure (a : α) : Silent (Pure.pure a : m α) := map_pure _ _

theorem bind {x : m α} {f : α → m β} (hx : Silent x) (hf : ∀ a, Silent (f a)) :
    Silent (x >>= f) := by
  have hconst : (fun a => (fun _ => ()) <$> f a) = fun _ => Pure.pure () := funext hf
  rw [Silent, map_bind, hconst, bind_pure_comp]
  exact hx

theorem map {x : m α} (hx : Silent x) (f : α → β) : Silent (f <$> x) := by
  rw [map_eq_pure_bind]
  exact hx.bind fun _ => .pure _

/-- A program without a trace may be left out if its value is not used. -/
theorem map_const {x : m α} (hx : Silent x) (b : β) : (fun _ => b) <$> x = Pure.pure b := by
  have hunit : (fun _ : Unit => b) <$> (fun _ => ()) <$> x = Pure.pure b := by
    rw [show (fun _ => ()) <$> x = Pure.pure () from hx, map_pure]
  rw [← hunit, ← comp_map]
  rfl

end Silent

end PdfDisplay
