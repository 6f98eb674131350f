import PdfDisplay.Store.Memo
import PdfDisplay.Warning

/-!
# The same work with another store

Work that asks a store is written for the stores of all monads, so one page may be rendered with
two stores. A `Simulation` relates the programs of two monads so that related ones may be put one
behind the other. Where it relates the answers of two stores (`Simulation.Stores`), it relates
whatever asks them: this is shown function by function, and the lemmas are named `rel_` and the
function.

The simulation that this is for is `Simulation.answering`: work with a state gives a value from all
states that satisfy an invariant. By it a memory in front of a store that is a function of the
requests gives the answers of that store, as long as it holds no others
(`ObjectStore.memoized_answers`).
-/

namespace PdfDisplay

/-- A relation between the programs of two monads that sequencing keeps. Related programs hand on
the same values. -/
structure Simulation (m n : Type → Type) [Monad m] [Monad n] where
  /-- Whether two programs are related. -/
  Rel : {α : Type} → m α → n α → Prop
  /-- A value is related to itself. -/
  pure : ∀ {α : Type} (a : α), Rel (Pure.pure a) (Pure.pure a)
  /-- Related programs may be put behind related ones. -/
  bind : ∀ {α β : Type} {x : m α} {y : n α} {f : α → m β} {g : α → n β},
    Rel x y → (∀ a, Rel (f a) (g a)) → Rel (x >>= f) (y >>= g)

namespace Simulation

section Programs

variable {m n : Type → Type} [Monad m] [Monad n] (R : Simulation m n) {α β : Type}

/-- Changing the results in the same way on both sides keeps works in step. -/
theorem map [LawfulMonad m] [LawfulMonad n] {x : m α} {y : n α} (h : R.Rel x y) (f : α → β) :
    R.Rel (f <$> x) (f <$> y) := by
  rw [map_eq_pure_bind, map_eq_pure_bind]
  exact R.bind h fun a => R.pure (f a)

/-- Work that warns is related if it is, whatever warnings came before. -/
def diagnosing : Simulation (Diagnosing m) (Diagnosing n) where
  Rel x y := ∀ before, R.Rel (x.run before) (y.run before)
  pure a before := R.pure (a, before)
  bind hxy hfg before := R.bind (hxy before) fun done => hfg done.1 done.2

theorem lift {x : m α} {y : n α} (h : R.Rel x y) :
    R.diagnosing.Rel (x : Diagnosing m α) (y : Diagnosing n α) :=
  fun _ => R.bind h fun _ => R.pure _

theorem warn (warning : Warning) :
    R.diagnosing.Rel (Diagnosing.warn warning) (Diagnosing.warn warning) :=
  fun before => R.pure ((), before ++ [warning])

/-- Work that only warns and hands on a value goes in step, as both sides give the same warning. -/
theorem warned (warning : Warning) (a : α) :
    R.diagnosing.Rel (do Diagnosing.warn warning; Pure.pure a)
      (do Diagnosing.warn warning; Pure.pure a) :=
  R.diagnosing.bind (R.warn warning) fun _ => R.diagnosing.pure a

/-- Works that go in step with their warnings go in step when the warnings are collected. -/
theorem collect {x : Diagnosing m α} {y : Diagnosing n α} (h : R.diagnosing.Rel x y) :
    R.Rel x.collect y.collect :=
  R.bind (h []) fun _ => R.pure _

/-- Whether the answers of two stores are related. -/
structure Stores (store : ObjectStore m) (store' : ObjectStore n) : Prop where
  /-- The texts are related. -/
  text : ∀ target, R.Rel (store.text target) (store'.text target)
  /-- The decoded data are related. -/
  decoded : ∀ target, R.Rel (store.decoded target) (store'.decoded target)
  /-- The data as they are are related. -/
  raw : ∀ target, R.Rel (store.raw target) (store'.raw target)

end Programs

/-! ## Work with a state -/

/-- Work with a state gives a value if it hands this value on from every state that satisfies an
invariant, and keeps the invariant. -/
def answering {σ : Type} (Inv : σ → Prop) : Simulation (StateM σ) Id where
  Rel x y := ∀ s, Inv s → (x s).1 = y ∧ Inv (x s).2
  pure _ _ hs := ⟨rfl, hs⟩
  bind {_ _ _ _ _ g} hxy hfg s hs := by
    obtain ⟨hvalue, hkept⟩ := hxy s hs
    obtain ⟨hnext, hlast⟩ := hfg _ _ hkept
    exact ⟨hnext.trans (congrArg g hvalue), hlast⟩

end Simulation

/-! ## Memories -/

/-- Whether the answers that are remembered are those of a store. -/
structure Memo.ConsistentWith (store : ObjectStore Id) (memo : Memo) : Prop where
  /-- The texts are those of the store. -/
  text : ∀ target answer, memo.texts[target]? = some answer → answer = store.text target
  /-- The decoded data are those of the store. -/
  decoded : ∀ target answer, memo.decoded[target]? = some answer → answer = store.decoded target
  /-- The data as they are are those of the store. -/
  raw : ∀ target answer, memo.raw[target]? = some answer → answer = store.raw target

namespace Memo

theorem consistentWith_empty (store : ObjectStore Id) : ConsistentWith store {} := by
  constructor <;> (intro target answer hanswer; simp at hanswer)

/-- A request is answered as without a memory, if this is the only answer that the memory may hold,
and keeps the memory so. -/
theorem rel_answerOnce {Inv : Memo → Prop} {α : Type} {find? : Memo → Option α}
    {keep : Memo → α → Memo} {request : Id α}
    (hfind : ∀ memo answer, Inv memo → find? memo = some answer → answer = request)
    (hkeep : ∀ memo, Inv memo → Inv (keep memo request)) :
    (Simulation.answering Inv).Rel (answerOnce find? keep request) request := by
  intro memo hmemo
  cases hfound : find? memo with
  | some answer =>
    -- a hit: nothing is asked, and the memory stays as it is
    have hrun : answerOnce find? keep request memo = (answer, memo) :=
      run_answerOnce_of_some hfound
    rw [hrun]
    exact ⟨hfind memo answer hmemo hfound, hmemo⟩
  | none =>
    have hrun : answerOnce find? keep request memo = (request, keep memo request) :=
      run_answerOnce_of_none hfound
    rw [hrun]
    exact ⟨rfl, hkeep memo hmemo⟩

/-- The answer of a store may be added to the answers of the store. -/
theorem eq_of_getElem?_insert {α : Type} {answers : Std.HashMap ObjectRef α}
    {source : ObjectRef → α}
    (h : ∀ target answer, answers[target]? = some answer → answer = source target)
    (added target : ObjectRef) (answer : α)
    (hanswer : (answers.insert added (source added))[target]? = some answer) :
    answer = source target := by
  rw [Std.HashMap.getElem?_insert] at hanswer
  split at hanswer
  case isTrue hadded =>
    obtain rfl := eq_of_beq hadded
    exact (Option.some.inj hanswer).symm
  case isFalse => exact h target answer hanswer

end Memo

/-- **A memory in front of a store gives the answers of the store**, from whatever answers of the
store it holds. -/
theorem ObjectStore.memoized_answers (store : ObjectStore Id) :
    (Simulation.answering (Memo.ConsistentWith store)).Stores store.memoized store where
  text target := Memo.rel_answerOnce (fun _ answer hmemo => hmemo.text target answer)
    fun _ hmemo => ⟨Memo.eq_of_getElem?_insert hmemo.text target, hmemo.decoded, hmemo.raw⟩
  decoded target := Memo.rel_answerOnce (fun _ answer hmemo => hmemo.decoded target answer)
    fun _ hmemo => ⟨hmemo.text, Memo.eq_of_getElem?_insert hmemo.decoded target, hmemo.raw⟩
  raw target := Memo.rel_answerOnce (fun _ answer hmemo => hmemo.raw target answer)
    fun _ hmemo => ⟨hmemo.text, hmemo.decoded, Memo.eq_of_getElem?_insert hmemo.raw target⟩

end PdfDisplay
