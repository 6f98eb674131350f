import PdfDisplay.Proofs.CommandLine.Printing
import PdfDisplay.Proofs.Page.Simulation

/-!
# Pages behind one memory

A command renders all its pages behind one memory of what its document has answered, so the requests
of one page are not made again for the next. What comes out is nevertheless, page for page, what the
document itself gives (`CommandLine.run_render`): the memory holds answers of the document only, and
no page depends on the ones in front of it.
-/

namespace PdfDisplay.CommandLine

/-- The page with an index, with its number, from the answers of the document itself. -/
def documentPage (d : PagedDocument) (options : RenderOptions) (index : Nat) :
    Except String (Nat × RenderedPage) :=
  match d.page index with
  | .ok input => .ok (index + 1, (input.render d.document.store options).run.value)
  | .error e => .error ("Error reading page " ++ toString (index + 1) ++ ": " ++ e.detail)

/-- The indices of the pages that a request selects, if it selects pages of the document. -/
def documentPages (d : PagedDocument) (request : Request) : Except String (List Nat) :=
  match request.pages? with
  | none => .ok (List.range d.pageCount)
  | some selection =>
    match PageSelection.parse selection d.pageCount with
    | .ok indices => .ok indices
    | .error e => .error ("Error: " ++ e.message)

/-- What is to be printed of the pages that a request selects. -/
def documentOutput (d : PagedDocument) (request : Request) (options : RenderOptions) :
    Except String Output := do
  let pages ← (← documentPages d request).mapM (documentPage d options)
  return match request.format with
    | .text => .lines (pages.flatMap fun (number, page) => page.lines number)
    | .json => .json (.ofList (fun (number, page) => page.summary number) pages)

namespace Job

/-- Work gives a result, or fails with a message, if it does so whatever messages have been given
and whatever answers of the document are remembered, and remembers no others. -/
def answering (d : PagedDocument) : Simulation Job (Except String) where
  Rel x y := ∀ messages memo, Memo.ConsistentWith d.document.store memo →
    (ExceptT.run x messages memo).1.1 = y ∧
      Memo.ConsistentWith d.document.store (ExceptT.run x messages memo).2
  pure _ _ _ hmemo := ⟨rfl, hmemo⟩
  bind {_ _ x y f g} hxy hfg messages memo hmemo := by
    obtain ⟨hresult, hkept⟩ := hxy messages memo hmemo
    let after := ExceptT.run x messages memo
    have hbind : ExceptT.run (x >>= f) messages memo =
        ExceptT.bindCont f after.1.1 after.1.2 after.2 := rfl
    rw [hbind, hresult]
    cases y with
    | ok a => exact hfg a _ _ hkept
    | error message => exact ⟨rfl, hkept⟩

variable (d : PagedDocument)

/-- Reporting a message changes the diagnostics only, which the answers of a job leave out. -/
theorem rel_report (message : String) : (answering d).Rel (report message) (pure ()) :=
  fun _ _ hmemo => ⟨rfl, hmemo⟩

/-- A request to the document's store is answered as the document says, and the memo stays
consistent with it. -/
theorem rel_ask {α : Type} {request : StateM Memo α} {answer : Id α}
    (h : (Simulation.answering (Memo.ConsistentWith d.document.store)).Rel request answer) :
    (answering d).Rel (ask request) (.ok answer) :=
  fun _ memo hmemo => ⟨congrArg Except.ok (h memo hmemo).1, (h memo hmemo).2⟩

theorem rel_throw {α : Type} (message : String) :
    (answering d).Rel (throw message : Job α) (.error message) :=
  fun _ _ hmemo => ⟨rfl, hmemo⟩

/-- Work that is done for every item of a list. -/
theorem rel_mapM {α β : Type} {work : α → Job β} {result : α → Except String β}
    (h : ∀ a, (answering d).Rel (work a) (result a)) (items : List α) :
    (answering d).Rel (items.mapM work) (items.mapM result) := by
  induction items with
  | nil => exact (answering d).pure _
  | cons a rest ih =>
    rw [List.mapM_cons, List.mapM_cons]
    exact (answering d).bind (h a) fun _ => (answering d).bind ih fun _ => (answering d).pure _

end Job

variable (d : PagedDocument) (request : Request)

/-- The pages that are selected depend on the request and the page count, which is asked of the
document. -/
theorem rel_selectedPages :
    (Job.answering d).Rel (selectedPages d request) (documentPages d request) := by
  unfold selectedPages documentPages
  cases request.pages? with
  | none => exact (Job.answering d).pure _
  | some selection =>
    dsimp only
    cases PageSelection.parse selection d.pageCount with
    | ok indices => exact (Job.answering d).pure _
    | error e => exact Job.rel_throw d _

/-- Warnings are reported one by one, by induction over them, and the outcome does not depend on
any. -/
theorem rel_reportWarnings (index : Nat) (warnings : List Warning) :
    (Job.answering d).Rel (reportWarnings request index warnings) (pure ()) := by
  unfold reportWarnings
  split
  case isFalse => exact (Job.answering d).pure _
  case isTrue =>
    induction warnings with
    | nil => exact (Job.answering d).pure _
    | cons w rest ih => exact (Job.answering d).bind (Job.rel_report d _) fun _ => ih

/-- **A page behind the memory is the page of the document.** -/
theorem rel_renderPage (options : RenderOptions) (index : Nat) :
    (Job.answering d).Rel (renderPage d request options index) (documentPage d options index) := by
  unfold renderPage pageInput documentPage
  cases d.page index with
  | error e => exact Job.rel_throw d _
  | ok input =>
    let page (rendered : Diagnosed RenderedPage) : Except String (Nat × RenderedPage) :=
      .ok (index + 1, rendered.value)
    have hrender := Job.rel_ask d
      (PageInput.rel_render d.document.store.memoized_answers options input)
    exact (Job.answering d).bind (g := page) hrender fun rendered =>
      (Job.answering d).bind (g := fun _ => page rendered)
        (rel_reportWarnings d request index rendered.warnings) fun _ => (Job.answering d).pure _

theorem rel_render (options : RenderOptions) :
    (Job.answering d).Rel (render d request options) (documentOutput d request options) :=
  (Job.answering d).bind (rel_selectedPages d request) fun indices =>
    (Job.answering d).bind (Job.rel_mapM d (rel_renderPage d request options) indices) fun _ =>
      (Job.answering d).pure _

/-- **A command prints the pages of its document.** The pages that are selected are printed in their
order, each as the document itself gives it; if there is no such page, or one cannot be read,
nothing is printed, and the last message says why. What is remembered from the pages in front of
one makes no difference to it. -/
theorem run_render (options : RenderOptions) :
    let outcome := (Command.render request options).run (.ok d)
    (∀ output, documentOutput d request options = .ok output →
        outcome.exitCode = 0 ∧ outcome.output = output) ∧
      ∀ message, documentOutput d request options = .error message →
        outcome.exitCode = 1 ∧ outcome.output = .lines [] ∧
          outcome.messages.getLast? = some message := by
  have hwork := (rel_render d request options [] {} (Memo.consistentWith_empty _)).1
  intro outcome
  have houtcome : outcome = Job.run (render d request options) := rfl
  rw [houtcome, Job.run]
  rcases hrun : Id.run (((ExceptT.run (render d request options)).run []).run {}) with
    ⟨⟨result, messages⟩, memo⟩
  obtain rfl : result = documentOutput d request options :=
    (congrArg (fun done => done.1.1) hrun).symm.trans hwork
  refine ⟨fun output houtput => ?_, fun message hmessage => ?_⟩
  · rw [houtput]
    exact ⟨rfl, rfl⟩
  · rw [hmessage]
    exact ⟨rfl, rfl, List.getLast?_concat⟩

/-- In the text form the pages stand one below the other, each as it is printed by itself. -/
theorem text_run_render (options : RenderOptions) (hformat : request.format = .text)
    {pages : List (Nat × RenderedPage)}
    (hpages : ((documentPages d request).bind fun indices =>
      indices.mapM (documentPage d options)) = .ok pages) :
    ((Command.render request options).run (.ok d)).output.text =
      String.join (pages.map fun (number, page) => page.printed number) := by
  have houtput : documentOutput d request options =
      .ok (.lines (pages.flatMap fun (number, page) => page.lines number)) := by
    rw [documentOutput, hformat]
    cases hindices : documentPages d request with
    | error e => rw [hindices] at hpages; cases hpages
    | ok indices =>
      rw [hindices] at hpages
      have hmap : indices.mapM (documentPage d options) = .ok pages := hpages
      simp only [bind, Except.bind, hmap]
      rfl
  rw [((run_render d request options).1 _ houtput).2]
  exact RenderedPage.text_pages pages

end PdfDisplay.CommandLine
