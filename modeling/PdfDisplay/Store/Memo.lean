import PdfDisplay.Store.Basic

/-!
# Remembering answers

A store in front of another one that passes each request on once and remembers the answer,
failures included. The three kinds of requests are remembered apart. `ObjectStore.counting`
counts the requests that reach a store.
-/

namespace PdfDisplay

/-- The answers that have been given. -/
structure Memo where
  /-- The texts. -/
  texts : Std.HashMap ObjectRef (Except StoreError String) := ∅
  /-- The decoded data. -/
  decoded : Std.HashMap ObjectRef (Except StoreError Bytes) := ∅
  /-- The data as they are. -/
  raw : Std.HashMap ObjectRef (Except StoreError Bytes) := ∅

namespace Memo

/-- The number of objects whose decoded data were asked for. -/
def decodedSize (memo : Memo) : Nat := memo.decoded.size

section Recalling

variable {m : Type → Type} [Monad m] {α : Type} (find? : Memo → Option α)
  (keep : Memo → α → Memo) (request : m α)

/-- The answer that is remembered; without one the request is made, and its answer is kept. -/
def answerOnce : StateT Memo m α := do
  match find? (← get) with
  | some answer => return answer
  | none =>
    let answer ← request
    modify (keep · answer)
    return answer

variable [LawfulMonad m] {find? keep request} {memo : Memo}

theorem run_answerOnce_of_some {answer : α} (h : find? memo = some answer) :
    (answerOnce find? keep request).run memo = pure (answer, memo) := by
  rw [answerOnce, StateT.run_bind, StateT.run_get, pure_bind]
  dsimp only
  rw [h, StateT.run_pure]

theorem run_answerOnce_of_none (h : find? memo = none) :
    (answerOnce find? keep request).run memo =
      (fun answer => (answer, keep memo answer)) <$> request := by
  rw [answerOnce, StateT.run_bind, StateT.run_get, pure_bind]
  dsimp only
  rw [h]
  simp [StateT.run_bind]

end Recalling

end Memo

namespace ObjectStore

variable {m : Type → Type} [Monad m]

/-- The store that passes each request on once and remembers the answer. -/
def memoized (inner : ObjectStore m) : ObjectStore (StateT Memo m) where
  text target :=
    Memo.answerOnce (·.texts[target]?)
      (fun memo answer => { memo with texts := memo.texts.insert target answer })
      (inner.text target)
  decoded target :=
    Memo.answerOnce (·.decoded[target]?)
      (fun memo answer => { memo with decoded := memo.decoded.insert target answer })
      (inner.decoded target)
  raw target :=
    Memo.answerOnce (·.raw[target]?)
      (fun memo answer => { memo with raw := memo.raw.insert target answer })
      (inner.raw target)

end ObjectStore

/-- How many requests of each kind have been made. -/
structure RequestCounts where
  /-- Requests for texts. -/
  texts : Nat := 0
  /-- Requests for decoded data. -/
  decoded : Nat := 0
  /-- Requests for data as they are. -/
  raw : Nat := 0
  deriving DecidableEq, Repr

namespace ObjectStore

variable {m : Type → Type} [Monad m]

/-- The store that counts the requests made to it. -/
def counting (inner : ObjectStore m) : ObjectStore (StateT RequestCounts m) where
  text target := do
    modify fun counts => { counts with texts := counts.texts + 1 }
    inner.text target
  decoded target := do
    modify fun counts => { counts with decoded := counts.decoded + 1 }
    inner.decoded target
  raw target := do
    modify fun counts => { counts with raw := counts.raw + 1 }
    inner.raw target

end ObjectStore

end PdfDisplay
