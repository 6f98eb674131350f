import PdfDisplay.Page.Rendering
import PdfDisplay.Proofs.Graphics.Simulation

/-!
# Pages from related stores

A page is rendered alike from stores that give related answers (`PageInput.rel_render`): its
resources are read alike, its fonts resolved alike and its contents executed alike. So a page that
is rendered behind a memory is the page that the store behind the memory gives, whatever answers of
this store the memory holds from pages before (`PageInput.render_memoized`). What is proved of the
pages of stores that are functions of the requests holds of pages behind a memory, too.
-/

namespace PdfDisplay

variable {m n : Type → Type} [Monad m] [Monad n] {R : Simulation m n}

namespace PageResources

section Resources

variable {store : ObjectStore m} {store' : ObjectStore n} (hstore : R.Stores store store')

/-- Tables are filled alike by readers that read entries alike. -/
theorem rel_tabulate {α : Type} {read : String → Object → Diagnosing m (Option α)}
    {read' : String → Object → Diagnosing n (Option α)}
    (hread : ∀ key value, R.diagnosing.Rel (read key value) (read' key value))
    (table : Std.TreeMap String α) (entries : List (String × Object)) :
    R.diagnosing.Rel (tabulate read table entries) (tabulate read' table entries) := by
  induction entries generalizing table with
  | nil => exact R.diagnosing.pure _
  | cons entry rest ih =>
    refine R.diagnosing.bind (hread entry.1 entry.2) fun value? => ?_
    cases value? with
    | some value => exact ih _
    | none => exact ih _

theorem rel_fontEntry (R : Simulation m n) (tag : String) (value : Object) :
    R.diagnosing.Rel (fontEntry tag value) (fontEntry tag value) := by
  cases value with
  | reference target => exact R.diagnosing.pure _
  | dictionary entries => exact R.diagnosing.pure _
  | _ => exact R.warned _ _

theorem rel_drawableEntry (R : Simulation m n) (name : String) (value : Object) :
    R.diagnosing.Rel (drawableEntry name value) (drawableEntry name value) := by
  cases value with
  | reference target => exact R.diagnosing.pure _
  | _ => exact R.warned _ _

include hstore

theorem rel_dictionary (key : String) (value : Object) :
    R.diagnosing.Rel (dictionary store key value) (dictionary store' key value) := by
  cases value with
  | dictionary entries => exact R.diagnosing.pure _
  | reference target =>
    refine R.diagnosing.bind (R.lift (hstore.text target)) fun text => ?_
    cases text with
    | error e => exact R.warned _ _
    | ok text =>
      dsimp only
      cases Dictionary.parse? (Utf8.encode text) with
      | some d => exact R.diagnosing.pure _
      | none => exact R.warned _ _
  | _ => exact R.warned _ _

theorem rel_category (d : Dictionary) (key : String) :
    R.diagnosing.Rel (category store d key) (category store' d key) := by
  unfold category
  cases d.get? key with
  | none => exact R.diagnosing.pure _
  | some value =>
    refine R.diagnosing.bind (rel_dictionary hstore key value) fun entries? => ?_
    cases entries? <;> exact R.diagnosing.pure _

theorem rel_ofDictionary (d : Dictionary) :
    R.diagnosing.Rel (ofDictionary store d) (ofDictionary store' d) := by
  refine R.diagnosing.bind (rel_category hstore d _) fun entries => ?_
  refine R.diagnosing.bind (rel_tabulate (rel_fontEntry R) ∅ entries) fun fonts => ?_
  refine R.diagnosing.bind (rel_category hstore d _) fun entries => ?_
  refine R.diagnosing.bind (rel_tabulate (rel_drawableEntry R) ∅ entries) fun drawable => ?_
  refine R.diagnosing.bind (rel_category hstore d _) fun entries => ?_
  refine R.diagnosing.bind (rel_tabulate (rel_dictionary hstore) ∅ entries) fun parameters => ?_
  exact R.diagnosing.pure _

/-- **Resources are read alike** from stores that give related answers. -/
theorem rel_parse (text : String) : R.Rel (parse store text) (parse store' text) := by
  refine R.collect ?_
  split
  case isTrue => exact R.diagnosing.pure _
  case isFalse =>
    cases Dictionary.parse? (Utf8.encode text) with
    | some d => exact rel_ofDictionary hstore d
    | none => exact R.warned _ _

end Resources

end PageResources

namespace Content

variable (page : PageContext m) {store : ObjectStore n} (hstore : R.Stores page.store store)
  (fonts : FontCache)

include hstore

theorem rel_finalMachine (reading : Operator.Reading) :
    R.Rel (finalMachine page fonts reading) (finalMachine (page.over store) fonts reading) :=
  Machine.rel_executeAll hstore 0 _ _

/-- **Contents are executed alike** on a page with a store that gives related answers. -/
theorem rel_run (content : Bytes) :
    R.Rel (run page fonts content) (run (page.over store) fonts content) :=
  R.bind (rel_finalMachine page hstore fonts _) fun _ => R.pure _

omit hstore in
/-- **Contents behind a memory show what they show without it**, with the same warnings, and leave
the same fonts. -/
theorem run_memoized (page : PageContext Id) (fonts : FontCache) (content : Bytes) {memo : Memo}
    (hmemo : memo.ConsistentWith page.store) :
    (run (page.over page.store.memoized) fonts content memo).1 = run page fonts content :=
  (rel_run (page.over page.store.memoized) page.store.memoized_answers fonts content memo hmemo).1

end Content

namespace PageInput

/-- **A page is rendered alike** from stores that give related answers. -/
theorem rel_render {store : ObjectStore m} {store' : ObjectStore n}
    (hstore : R.Stores store store') (options : RenderOptions) (page : PageInput) :
    R.Rel (page.render store options) (page.render store' options) := by
  refine R.bind (PageResources.rel_parse hstore page.resources) fun resources => ?_
  refine R.bind (FontCache.rel_preload hstore ∅ resources.value.fonts) fun fonts => ?_
  exact R.bind (Content.rel_run ⟨store, page.height, resources.value, options⟩ hstore fonts.value _)
    fun _ => R.pure _

/-- **A page behind a memory is the page without it.** Whatever answers of a store a memory holds,
behind it a page is rendered as from the store itself, with the same warnings; the answers that the
memory holds then are those of the store again, so that this goes on from page to page. -/
theorem render_memoized (store : ObjectStore Id) (options : RenderOptions) (page : PageInput)
    {memo : Memo} (hmemo : memo.ConsistentWith store) :
    (page.render store.memoized options memo).1 = page.render store options ∧
      (page.render store.memoized options memo).2.ConsistentWith store :=
  rel_render store.memoized_answers options page memo hmemo

end PageInput

end PdfDisplay
