import Mathlib.Data.Finset.Card
import PdfDisplay.Proofs.Store.Comparison
import PdfDisplay.Store.Memo

/-!
# Remembered answers

A store that remembers answers does with any requests what the store behind it does with the first
ones of each kind for each object, and gives their answers (`ObjectStore.askAll_memoized`). This is
an equation of programs, and so holds for stores whose answers change from request to request.

The proof follows what is remembered: `Memo.Holds` says that it is what a record of requests and
answers holds.
-/

namespace PdfDisplay

/-! ## Requests -/

/-- A request to a store. -/
inductive StoreRequest where
  /-- For the text of an object. -/
  | text (target : ObjectRef)
  /-- For the data of a stream, filters removed. -/
  | decoded (target : ObjectRef)
  /-- For the data of a stream as they are. -/
  | raw (target : ObjectRef)
  deriving DecidableEq

/-- The object whose decoded data a request is for. -/
def StoreRequest.decodedTarget? : StoreRequest → Option ObjectRef
  | decoded target => some target
  | _ => none

/-- A target is among those decoded exactly if it was requested decoded; the requests of other kinds
do not count. -/
theorem StoreRequest.mem_decodedTargets_iff {requests : List StoreRequest} {target : ObjectRef} :
    target ∈ requests.filterMap decodedTarget? ↔ decoded target ∈ requests := by
  rw [List.mem_filterMap]
  constructor
  · rintro ⟨request, hrequest, htarget⟩
    cases request <;> cases htarget
    exact hrequest
  · exact fun h => ⟨decoded target, h, rfl⟩

/-- The answer to a request. -/
inductive StoreAnswer where
  /-- To a request for a text. -/
  | text (result : Except StoreError String)
  /-- To a request for data. -/
  | data (result : Except StoreError Bytes)

/-- Requests with the answers that they were given. -/
abbrev StoreRecord : Type := List (StoreRequest × StoreAnswer)

namespace ObjectStore

variable {m : Type → Type} [Monad m]

/-- Makes a request. -/
def ask (store : ObjectStore m) : StoreRequest → m StoreAnswer
  | .text target => .text <$> store.text target
  | .decoded target => .data <$> store.decoded target
  | .raw target => .data <$> store.raw target

/-- Makes requests one after another. -/
def askAll (store : ObjectStore m) : List StoreRequest → m StoreRecord
  | [] => return []
  | request :: rest => do
    let answer ← store.ask request
    let record ← askAll store rest
    return (request, answer) :: record

end ObjectStore

/-! ## What is remembered -/

namespace Memo

/-- The answer that is remembered. -/
def find? (memo : Memo) : StoreRequest → Option StoreAnswer
  | .text target => memo.texts[target]?.map .text
  | .decoded target => memo.decoded[target]?.map .data
  | .raw target => memo.raw[target]?.map .data

/-- Whether the answers that are remembered are those of a record. -/
def Holds (memo : Memo) (record : StoreRecord) : Prop :=
  ∀ request, memo.find? request = record.lookup request

theorem holds_empty : Holds {} [] := by
  intro request
  cases request <;> simp [find?]

/-- **A memo that keeps one answer more holds one request more**, if it finds for every other
request what it found before. -/
theorem Holds.concat {memo memo' : Memo} {record : StoreRecord} {request : StoreRequest}
    {answer : StoreAnswer} (h : memo.Holds record) (hnew : record.lookup request = none)
    (hfind : ∀ other,
      memo'.find? other = if request = other then some answer else memo.find? other) :
    memo'.Holds (record ++ [(request, answer)]) := by
  intro other
  rw [hfind, List.lookup_append, List.lookup_cons, List.lookup_nil]
  by_cases hother : request = other
  · rw [if_pos hother, ← hother, hnew, beq_self_eq_true, Option.none_or]
  · rw [if_neg hother, h other, beq_eq_false_iff_ne.mpr (Ne.symm hother), Option.or_none]

/-- A record knows the answer to a request exactly if the request is in it. -/
theorem isSome_lookup_iff {record : StoreRecord} {request : StoreRequest} :
    (record.lookup request).isSome ↔ request ∈ record.map (·.1) := by
  rw [Option.isSome_iff_ne_none, Ne, List.lookup_eq_none_iff]
  simp

/-- Decoded data are remembered of as many objects as are recorded. -/
theorem Holds.decodedSize_eq {memo : Memo} {record : StoreRecord} (h : memo.Holds record) :
    memo.decodedSize =
      ((record.map (·.1)).filterMap StoreRequest.decodedTarget?).toFinset.card := by
  have hkeys : memo.decoded.keys.toFinset =
      ((record.map (·.1)).filterMap StoreRequest.decodedTarget?).toFinset := by
    ext target
    have hfind : (memo.decoded[target]?.map StoreAnswer.data).isSome =
        (record.lookup (.decoded target)).isSome := congrArg _ (h (.decoded target))
    rw [List.mem_toFinset, List.mem_toFinset, StoreRequest.mem_decodedTargets_iff,
      ← isSome_lookup_iff, ← hfind, Option.isSome_map, Std.HashMap.mem_keys,
      Std.HashMap.mem_iff_isSome_getElem?]
  rw [← hkeys, List.toFinset_card_of_nodup Std.HashMap.nodup_keys, Std.HashMap.length_keys]
  rfl

end Memo

/-! ## Requests that are passed on -/

namespace ObjectStore

open Memo

variable {m : Type → Type} [Monad m] [LawfulMonad m]

/-- Whether an answer is given as in front of the memory, and remembered behind a record. -/
def Remembers (record : StoreRecord) (request : StoreRequest) (given : StoreAnswer × Memo)
    (answer : StoreAnswer) : Prop :=
  given.1 = answer ∧ given.2.Holds (record ++ [(request, answer)])

/-- **A request without an answer is passed on**, and the answer is kept: the work is that of the
inner store, and the memo holds one request more behind it. -/
theorem coupled_answerOnce {α : Type} {find? : Memo → Option α} {keep : Memo → α → Memo}
    {source : m α} {memo : Memo} {record : StoreRecord} {request : StoreRequest}
    {answer : α → StoreAnswer}
    (hnew : find? memo = none)
    (hkeep : ∀ result, (keep memo result).Holds (record ++ [(request, answer result)])) :
    Coupled (Remembers record request)
      ((answer <$> answerOnce find? keep source).run memo) (answer <$> source) := by
  rw [StateT.run_map, run_answerOnce_of_none hnew, ← comp_map]
  refine (Coupled.refl source).map ?_
  rintro result _ rfl
  exact ⟨rfl, hkeep result⟩

variable (inner : ObjectStore m) {memo : Memo} {record : StoreRecord} {request : StoreRequest}

/-- A request that has been made is not passed on. -/
theorem run_ask_memoized_of_some {answer : StoreAnswer} (h : memo.find? request = some answer) :
    (inner.memoized.ask request).run memo = pure (answer, memo) := by
  cases request <;> (
    obtain ⟨result, hresult, rfl⟩ := Option.map_eq_some_iff.mp h
    rw [ask, StateT.run_map, memoized, run_answerOnce_of_some hresult, map_pure])

/-- **A request that has not been made is passed on**, and its answer is given and remembered. -/
theorem coupled_ask_memoized (hholds : memo.Holds record) (hnew : record.lookup request = none) :
    Coupled (Remembers record request) ((inner.memoized.ask request).run memo)
      (inner.ask request) := by
  have hfind := (hholds request).trans hnew
  -- each kind of request has a table of its own, so a new entry changes no other kind's
  cases request with
  | text target =>
    refine coupled_answerOnce (Option.map_eq_none_iff.mp hfind) fun result =>
      hholds.concat hnew fun other => ?_
    cases other with
    | text other => by_cases h : target = other <;> simp [find?, Std.HashMap.getElem?_insert, h]
    | _ => rfl
  | decoded target =>
    refine coupled_answerOnce (Option.map_eq_none_iff.mp hfind) fun result =>
      hholds.concat hnew fun other => ?_
    cases other with
    | decoded other => by_cases h : target = other <;> simp [find?, Std.HashMap.getElem?_insert, h]
    | _ => rfl
  | raw target =>
    refine coupled_answerOnce (Option.map_eq_none_iff.mp hfind) fun result =>
      hholds.concat hnew fun other => ?_
    cases other with
    | raw other => by_cases h : target = other <;> simp [find?, Std.HashMap.getElem?_insert, h]
    | _ => rfl

/-- The requests that are not in a record, each once, in the order in which they come first. -/
def newRequests (record : StoreRecord) (requests : List StoreRequest) : List StoreRequest :=
  (requests.filter fun request => (record.lookup request).isNone).eraseDups

theorem newRequests_of_some {answer : StoreAnswer} (h : record.lookup request = some answer)
    (rest : List StoreRequest) :
    newRequests record (request :: rest) = newRequests record rest := by
  rw [newRequests, List.filter_cons_of_neg (by simp [h])]
  rfl

/-- A request that is not answered yet is new, and once its answer is known it is new no longer. -/
theorem newRequests_of_none (h : record.lookup request = none) (rest : List StoreRequest) :
    ∃ others, newRequests record (request :: rest) = request :: others ∧
      ∀ answer, newRequests (record ++ [(request, answer)]) rest = others := by
  refine ⟨(rest.filter fun other => !other == request && (record.lookup other).isNone).eraseDups,
    ?_, fun answer => ?_⟩
  · rw [newRequests, List.filter_cons_of_pos (by simp [h]), List.eraseDups_cons, List.filter_filter]
  · rw [newRequests]
    congr 1
    refine List.filter_congr fun other _ => ?_
    rw [List.lookup_append, List.lookup_cons, List.lookup_nil]
    cases other == request <;> simp

/-- Whether requests are given the answers of a record. -/
def Answered (requests : List StoreRequest) (record given : StoreRecord) : Prop :=
  given.map (fun entry => (entry.1, some entry.2)) =
    requests.map fun request => (request, record.lookup request)

/-- An answer that the record gives can stand in front of those given before. -/
theorem Answered.cons {requests : List StoreRequest} {given : StoreRecord}
    (h : Answered requests record given) {answer : StoreAnswer}
    (hanswer : record.lookup request = some answer) :
    Answered (request :: requests) record ((request, answer) :: given) := by
  rw [Answered, List.map_cons, List.map_cons, hanswer, h]

/-- Whether requests, made through a memory that holds a record, are answered by the record and by
requests made behind the memory. -/
structure PassesOn (requests : List StoreRequest) (record : StoreRecord)
    (given : StoreRecord × Memo) (made : StoreRecord) : Prop where
  /-- The answers are those recorded and made. -/
  answered : Answered requests (record ++ made) given.1
  /-- They are remembered. -/
  holds : given.2.Holds (record ++ made)
  /-- What is made is new. -/
  made : made.map (·.1) = newRequests record requests

/-- **A list of requests asks the inner store for the new ones only**, by induction over the list
with the record of what was answered so far. -/
theorem coupled_askAll_memoized (requests : List StoreRequest) (hholds : memo.Holds record) :
    Coupled (PassesOn requests record)
      ((inner.memoized.askAll requests).run memo) (inner.askAll (newRequests record requests)) := by
  induction requests generalizing memo record with
  | nil =>
    refine .pure ⟨rfl, ?_, rfl⟩
    rwa [List.append_nil]
  | cons request rest ih =>
    rw [askAll, StateT.run_bind]
    -- a request already on record is answered from the memo and passes nothing on
    cases hlookup : record.lookup request with
    | some answer =>
      rw [run_ask_memoized_of_some inner ((hholds request).trans hlookup), pure_bind,
        newRequests_of_some hlookup, StateT.run_bind, ← bind_pure (inner.askAll _)]
      refine (ih hholds).bind fun given made h => .pure ⟨h.answered.cons ?_, h.holds, ?_⟩
      · rw [List.lookup_append, hlookup, Option.some_or]
      · rw [h.made, newRequests_of_some hlookup]
    | none =>
      obtain ⟨others, hnew, hothers⟩ := newRequests_of_none hlookup rest
      rw [hnew, askAll]
      refine (coupled_ask_memoized inner hholds hlookup).bind fun given answer ⟨hgiven, hheld⟩ => ?_
      rw [StateT.run_bind, ← hothers answer, hgiven]
      refine (ih hheld).bind fun given made h => .pure ?_
      have hanswered := h.answered
      have hholds := h.holds
      rw [List.append_assoc] at hanswered hholds
      refine ⟨hanswered.cons ?_, hholds, ?_⟩
      · rw [List.lookup_append, hlookup, Option.none_or]
        exact List.lookup_cons_self
      · rw [List.map_cons, h.made, hothers answer, hnew]

/-- **Answers are remembered, and every request is passed on once.** With a store that remembers
answers, any requests do what the first requests of each kind for each object do with the store
behind it, each made once, in their order; they are all given the answers to these. Decoded data are
remembered of as many objects as they were asked for. -/
theorem askAll_memoized (inner : ObjectStore m) (requests : List StoreRequest) :
    (fun given => (given.1.map fun entry => (entry.1, some entry.2), given.2.decodedSize)) <$>
        (inner.memoized.askAll requests).run {} =
      (fun made => (requests.map fun request => (request, made.lookup request),
          (requests.filterMap StoreRequest.decodedTarget?).toFinset.card)) <$>
        inner.askAll requests.eraseDups := by
  have hnew : newRequests [] requests = requests.eraseDups := by
    rw [newRequests]
    congr 1
    exact List.filter_eq_self.mpr fun _ _ => rfl
  have hcoupled := coupled_askAll_memoized inner requests holds_empty
  rw [hnew] at hcoupled
  refine hcoupled.map_eq_map fun given made h => ?_
  have htargets : (requests.eraseDups.filterMap StoreRequest.decodedTarget?).toFinset =
      (requests.filterMap StoreRequest.decodedTarget?).toFinset := by
    ext target
    simp only [List.mem_toFinset, StoreRequest.mem_decodedTargets_iff, List.mem_eraseDups]
  have hanswered : Answered requests made given.1 := h.answered
  have hholds : given.2.Holds made := h.holds
  rw [hanswered, hholds.decodedSize_eq, h.made, hnew, htargets]

/-- A store that answers with the number of requests made before: of three requests, two of which
are the same, two are passed on. -/
theorem askAll_memoized_numbering :
    let numbering : ObjectStore (StateM Nat) :=
      { text := fun _ => modifyGet fun n => (.ok (toString n), n + 1)
        decoded := fun _ => modifyGet fun n => (.ok [n.toUInt8], n + 1)
        raw := fun _ => modifyGet fun n => (.ok [n.toUInt8], n + 1) }
    let requests : List StoreRequest := [.text ⟨1, 0⟩, .decoded ⟨1, 0⟩, .text ⟨1, 0⟩]
    ((fun given => (given.1.map fun entry => (entry.1, some entry.2), given.2.decodedSize)) <$>
        (numbering.memoized.askAll requests).run {}).run 0 =
      (([(.text ⟨1, 0⟩, some (.text (.ok "0"))), (.decoded ⟨1, 0⟩, some (.data (.ok [1]))),
        (.text ⟨1, 0⟩, some (.text (.ok "0")))], 1), 2) := by
  intro numbering requests
  rw [askAll_memoized numbering requests]
  rfl

end ObjectStore

end PdfDisplay
