import PdfDisplay.Page.Content
import PdfDisplay.Proofs.Graphics.Growing
import PdfDisplay.Proofs.Text.Boundaries

/-!
# Runs of text in display lists

A run of text is drawn with the text of its segments, but normalization goes over the whole text and
over each segment on its own. `Content.yields_run_texts` says what this leaves: the text is the
normalized text of the segments as they were drawn, and it is the text of the normalized segments
wherever these begin at boundaries. Where one does not, as a mark that is shown on its own, the two
differ (`Content.not_run_joined`).
-/

namespace PdfDisplay

/-- Whether a run of text is what normalization makes of segments with the given texts. -/
structure TextItem.IsNormalized (form : NormalForm) (raw : List String) (item : TextItem) :
    Prop where
  /-- Every segment is normalized on its own. -/
  segments : item.segments.map (·.text) = raw.map form.apply
  /-- The whole text is normalized. -/
  text : item.text = form.apply (String.join raw)

theorem TextItem.isNormalized_normalized (form : NormalForm) {item : TextItem}
    (h : item.text = String.join (item.segments.map (·.text))) :
    (item.normalized form).IsNormalized form (item.segments.map (·.text)) := by
  constructor
  · rw [normalized, List.map_map, List.map_map]
    rfl
  · rw [← h]
    rfl

theorem DisplayList.mem_texts_iff {items : DisplayList} {item : TextItem} :
    item ∈ items.texts ↔ .text item ∈ items := by
  rw [texts, List.mem_filterMap]
  constructor
  · rintro ⟨drawn, hdrawn, htext⟩
    cases drawn <;> cases htext
    exact hdrawn
  · exact fun h => ⟨.text item, h, rfl⟩

/-- The runs of text in a normalized list come from joined ones. -/
theorem DisplayList.isNormalized_of_mem {form : NormalForm} {items : DisplayList}
    (hjoined : ∀ item ∈ items, item.Joined) {item : TextItem}
    (h : item ∈ (items.normalized form).texts) : ∃ raw, item.IsNormalized form raw := by
  rw [mem_texts_iff, normalized] at h
  split at h
  case isTrue hform =>
    subst hform
    refine ⟨item.segments.map (·.text), (List.map_id _).symm, ?_⟩
    exact hjoined _ h item rfl
  case isFalse =>
    obtain ⟨drawn, hdrawn, hnormalized⟩ := List.mem_map.mp h
    cases drawn with
    | text drawn =>
      cases hnormalized
      exact ⟨_, drawn.isNormalized_normalized form (hjoined _ hdrawn drawn rfl)⟩
    | path => cases hnormalized
    | image => cases hnormalized

namespace Content

variable {m : Type → Type} [Monad m] [LawfulMonad m]

/-- **What normalization leaves of runs of text.** Every run that page contents show has the
normalized text of its segments as they were drawn. The text is still that of the segments if every
segment but the first begins at a boundary of the form. -/
theorem yields_run_texts (page : PageContext m) (fonts : FontCache) (content : Bytes) :
    Yields (fun run => ∀ item ∈ DisplayList.texts run.items,
        ∃ raw, item.IsNormalized page.options.normalForm raw ∧
          ((∀ text ∈ raw.tail, page.options.normalForm.Begins text) →
            item.text = String.join (item.segments.map (·.text))))
      (run page fonts content) := by
  refine .bind (Machine.yields_executeAll_grows page 0 { fonts } _) fun machine hgrows => .pure ?_
  intro item hitem
  have hjoined : ∀ item ∈ machine.items, item.Joined := by
    obtain ⟨items, hitems, hjoined⟩ := hgrows.drawn
    intro drawn hdrawn
    rw [Machine.items, hitems, List.append_nil, List.mem_reverse] at hdrawn
    exact hjoined drawn hdrawn
  obtain ⟨raw, hnormalized⟩ := DisplayList.isNormalized_of_mem hjoined hitem
  refine ⟨raw, hnormalized, fun hbegins => ?_⟩
  rw [hnormalized.text, hnormalized.segments, NormalForm.apply_join hbegins]

/-- Two letters that are shown one by one, the second of which begins at a boundary. -/
theorem run_texts_letters :
    let page (form : NormalForm) : PageContext Id :=
      ⟨ObjectTable.empty.store, 100, ∅, { normalForm := form }⟩
    let items (form : NormalForm) :=
      DisplayList.texts (run (page form) ∅ (Utf8.encode "BT /F 1 Tf [(A) (B)] TJ ET")).items
    (∀ form ∈ [NormalForm.none, .nfc], (items form).map (·.text) = ["AB"]) ∧
      NormalForm.nfc.Begins "B" ∧
      (∀ item ∈ items .nfc, ∃ raw, item.IsNormalized .nfc raw ∧
        ((∀ text ∈ raw.tail, NormalForm.nfc.Begins text) →
          item.text = String.join (item.segments.map (·.text)))) ∧
      ∀ item ∈ items .none, item.text = String.join (item.segments.map (·.text)) := by
  refine ⟨by decide +kernel, ?_, possible_pure _ (yields_run_texts _ ∅ _), fun item hitem => ?_⟩
  · intro c hc
    cases hc
    exact NormalForm.isBoundary_of_ascii _ (by decide)
  · obtain ⟨raw, -, hjoin⟩ := possible_pure _ (yields_run_texts _ ∅ _) item hitem
    -- Without a form, every place is a boundary.
    exact hjoin fun _ _ _ _ => True.intro

/-- A mark that is shown on its own composes with the letter in front of it in the text, but not in
the segments. -/
theorem not_run_joined :
    ¬ ∀ (page : PageContext Id) (fonts : FontCache) (content : Bytes),
        ∀ item ∈ DisplayList.texts (run page fonts content).items,
          item.text = String.join (item.segments.map (·.text)) := by
  intro h
  let resources := PageResources.parse ObjectTable.empty.store
    "<< /Font << /F << /Encoding << /Differences [65 /e 66 /uni0301] >> >> >> >>"
  let page : PageContext Id :=
    ⟨ObjectTable.empty.store, 100, Diagnosed.value resources, { normalForm := .nfc }⟩
  have hjoined := h page ∅ (Utf8.encode "BT /F 1 Tf [(A) (B)] TJ ET")
  revert hjoined
  decide +kernel

end Content

end PdfDisplay
