import PdfDisplay.Proofs.Graphics.Reporting
import PdfDisplay.Proofs.Graphics.Showing

/-!
# Warnings of page contents

Warnings come in the order of the operators that they belong to, and each has the index of its
operator (`Machine.yields_executeAll_ordered`). Only the last one can be about the end of the
contents, behind all operators that were read. What cuts contents short is told in any case:
`PageInput.tells_truncation` says when a page is complete, and that every other page has a warning
about it.
-/

namespace PdfDisplay

/-! ## Warnings in order -/

namespace Warning

/-- Whether a warning does not belong to an operator behind that of another one. -/
def NotAfter (w other : Warning) : Prop :=
  ∀ i j, w.operatorIndex? = some i → other.operatorIndex? = some j → i ≤ j

/-- Whether warnings, the latest first, belong to operators in front of one, in the order of the
operators, and none is about the end of the contents. -/
structure Ordered (next : Nat) (warnings : List Warning) : Prop where
  /-- The operators are those in front. -/
  below : ∀ w ∈ warnings, w.code ≠ .truncatedContent ∧ ∃ i < next, w.operatorIndex? = some i
  /-- Later warnings belong to later operators. -/
  sorted : warnings.Pairwise fun later earlier => earlier.NotAfter later

theorem ordered_nil (next : Nat) : Ordered next [] := ⟨List.forall_mem_nil _, .nil⟩

/-- The warnings of a further operator keep the order, if they name that operator and the others
name earlier ones. -/
theorem Ordered.append {next : Nat} {warnings given : List Warning} (h : Ordered next warnings)
    (hgiven : ∀ w ∈ given, w.operatorIndex? = some next ∧ w.code ≠ .truncatedContent) :
    Ordered (next + 1) (given ++ warnings) := by
  refine ⟨List.forall_mem_append.mpr ⟨fun w hw => ?_, fun w hw => ?_⟩,
    List.pairwise_append.mpr ⟨?_, h.sorted, fun later hlater earlier hearlier i j hi hj => ?_⟩⟩
  · exact ⟨(hgiven w hw).2, next, Nat.lt_succ_self next, (hgiven w hw).1⟩
  · obtain ⟨hcode, i, hi, hindex⟩ := h.below w hw
    exact ⟨hcode, i, Nat.lt_succ_of_lt hi, hindex⟩
  · refine List.pairwise_of_forall_mem_list fun later hlater earlier hearlier i j hi hj => ?_
    rw [(hgiven earlier hearlier).1, Option.some.injEq] at hi
    rw [(hgiven later hlater).1, Option.some.injEq] at hj
    exact Nat.le_of_eq (hi.symm.trans hj)
  · obtain ⟨-, k, hk, hindex⟩ := h.below earlier hearlier
    rw [hindex, Option.some.injEq] at hi
    rw [(hgiven later hlater).1, Option.some.injEq] at hj
    exact hi ▸ hj ▸ Nat.le_of_lt hk

end Warning

namespace Machine

variable {m : Type → Type} [Monad m] [LawfulMonad m] (page : PageContext m)

theorem yields_execute_ordered (index : Nat) {machine : Machine}
    (h : Warning.Ordered index machine.warnings) (operator : Operator) :
    Yields (fun after => Warning.Ordered (index + 1) after.warnings)
      (machine.execute page index operator) := by
  have hresolve (tag : String) (declared? : Option FontEntry) :
      Yields (fun font => ∀ w ∈ font.warnings, w.IsAbout tag)
        (FontCache.resolveEntry page.store tag declared?) :=
    (FontCache.yields_resolveEntry_isAbout page.store tag declared?).mono fun _ => And.left
  refine (yields_execute_tells page index machine hresolve operator).mono ?_
  rintro after ⟨htells, -⟩
  generalize operator.selectedTag? machine.context = selected? at htells
  cases htells with
  | beside hbeside =>
    obtain ⟨given, hwarnings, hgiven⟩ := hbeside.warnings
    rw [hwarnings]
    exact h.append fun w hw => ⟨(hgiven w hw).1, (hgiven w hw).2.2⟩
  | found hget hfonts hwarnings =>
    rw [hwarnings]
    have hnone : Warning.Ordered (index + 1) ([] ++ machine.warnings) :=
      h.append (List.forall_mem_nil _)
    exact hnone
  | resolved hget houtcome hfonts hwarnings =>
    rw [hwarnings]
    refine h.append fun w hw => ?_
    obtain ⟨given, hgiven, rfl⟩ := List.mem_map.mp (List.mem_reverse.mp hw)
    exact ⟨rfl, (houtcome given hgiven).code⟩

/-- **The warnings of a run are in the order of its operators.** -/
theorem yields_executeAll_ordered (index : Nat) {machine : Machine}
    (h : Warning.Ordered index machine.warnings) (operators : List Operator) :
    Yields (fun after => Warning.Ordered (index + operators.length) after.warnings)
      (machine.executeAll page index operators) := by
  induction operators generalizing index machine with
  | nil => exact .pure h
  | cons operator rest ih =>
    refine (yields_execute_ordered page index h operator).bind fun after hafter => ?_
    rw [List.length_cons, Nat.add_comm rest.length, ← Nat.add_assoc]
    exact ih (index + 1) hafter

end Machine

/-! ## Contents -/

namespace Content

/-- What is known of the warnings of contents with some operators, and of why they stop early. -/
structure Reported (reading : Operator.Reading) (limit : Nat) (run : Run) : Prop where
  /-- Each warning belongs to an operator that was read, but for one about the end of the contents,
  which has the number of operators. -/
  numbered : ∀ w ∈ run.warnings, ∃ i, w.operatorIndex? = some i ∧
    if w.code = .truncatedContent then i = reading.operators.length
    else i < reading.operators.length
  /-- The warnings come in the order of the operators. -/
  sorted : run.warnings.Pairwise Warning.NotAfter
  /-- Execution stops early if there are too many operators or contents that cannot be read. -/
  stopped : run.stopped?.isSome ↔ limit < reading.operators.length ∨ reading.stopped?.isSome
  /-- There is a warning about the reason. -/
  told : ∀ reason, run.stopped? = some reason → ∃ w ∈ run.warnings, w.code = reason.code

theorem stop?_isSome_iff (reading : Operator.Reading) (limit : Nat) :
    (stop? reading limit).isSome ↔
      limit < reading.operators.length ∨ reading.stopped?.isSome := by
  rw [stop?]
  split
  case isTrue h => exact iff_of_true rfl (.inl h)
  case isFalse h => rw [Option.isSome_map, or_iff_right h]

/-- Where execution stops, and why: at the limit if there are more operators, else at what could not
be read. -/
theorem stop?_eq_some {reading : Operator.Reading} {limit : Nat} {reason : Truncation}
    {index : Nat} (h : stop? reading limit = some (reason, index)) :
    (reason.code = .resourceLimitReached ∧ index = limit ∧ limit < reading.operators.length) ∨
      (reason.code = .truncatedContent ∧ index = reading.operators.length ∧
        reading.operators.length ≤ limit) := by
  rw [stop?] at h
  split at h
  case isTrue hlimit =>
    cases h
    exact .inl ⟨rfl, rfl, hlimit⟩
  case isFalse hlimit =>
    obtain ⟨e, -, he⟩ := Option.map_eq_some_iff.mp h
    cases he
    exact .inr ⟨rfl, rfl, Nat.le_of_not_lt hlimit⟩

variable {m : Type → Type} [Monad m] [LawfulMonad m]

/-- **Contents report in order**, and why they stop: the warnings of operators by their places, and
the one about the end behind them. -/
theorem yields_run_reported (page : PageContext m) (fonts : FontCache) (content : Bytes) :
    Yields (Reported (Operator.readAll content) page.options.maxOperators)
      (run page fonts content) := by
  have hnone : Warning.Ordered 0 ({ fonts } : Machine).warnings := Warning.ordered_nil 0
  have hmachine := Machine.yields_executeAll_ordered page 0 hnone
    ((Operator.readAll content).operators.take page.options.maxOperators)
  generalize hreading : Operator.readAll content = reading at hmachine
  rw [run, hreading, finalMachine]
  refine hmachine.bind fun machine hordered => .pure ?_
  rw [Nat.zero_add, List.length_take] at hordered
  have hstopped := stop?_isSome_iff reading page.options.maxOperators
  have hbelow : ∀ w ∈ machine.warnings, ∃ i, w.operatorIndex? = some i ∧
      if w.code = .truncatedContent then i = reading.operators.length
      else i < reading.operators.length := by
    intro w hw
    obtain ⟨hcode, i, hi, hindex⟩ := hordered.below w hw
    exact ⟨i, hindex, by rw [if_neg hcode]; exact (Nat.lt_min.mp hi).2⟩
  cases hstop : stop? reading page.options.maxOperators with
  | none =>
    rw [hstop] at hstopped
    exact {
      numbered := fun w hw => hbelow w (List.mem_reverse.mp hw)
      sorted := List.pairwise_reverse.mpr hordered.sorted
      stopped := hstopped
      told := fun _ h => (Option.some_ne_none _ h.symm).elim }
  | some stop =>
    obtain ⟨reason, index⟩ := stop
    rw [hstop] at hstopped
    have hreason := stop?_eq_some hstop
    exact {
      numbered := by
        refine fun w hw => (List.mem_cons.mp (List.mem_reverse.mp hw)).elim ?_ (hbelow w)
        rintro rfl
        refine ⟨index, rfl, ?_⟩
        obtain ⟨hcode, rfl, hlimit⟩ | ⟨hcode, rfl, -⟩ := hreason
        · refine (if_neg ?_).mpr hlimit
          simp [Warning.atOperator, Truncation.warning, hcode]
        · exact (if_pos hcode).mpr rfl
      sorted := by
        refine List.pairwise_reverse.mpr (List.pairwise_cons.mpr ⟨?_, hordered.sorted⟩)
        rintro earlier hearlier i j hi ⟨⟩
        -- the warnings of the operators executed are in front of where execution stops
        obtain ⟨-, k, hk, hindex⟩ := hordered.below earlier hearlier
        rw [hindex, Option.some.injEq] at hi
        obtain ⟨hlimit, hlength⟩ := Nat.lt_min.mp hk
        obtain ⟨-, rfl, -⟩ | ⟨-, rfl, -⟩ := hreason <;> omega
      stopped := hstopped
      told := by
        rintro _ ⟨⟩
        exact ⟨reason.warning.atOperator index,
          List.mem_reverse.mpr List.mem_cons_self, rfl⟩ }

end Content

/-! ## Pages -/

namespace PageInput

variable {m : Type → Type} [Monad m] [LawfulMonad m]

/-- **Warnings come in the order of the operators, and nothing is left out without one.** What is
known of the warnings of any contents is `Content.Reported`. A page is reported as complete exactly
if its contents are within the byte limit, can be read, and have no more operators than are
executed; then all of its operators are executed. A page that is not complete has a warning about
it. -/
theorem tells_truncation (store : ObjectStore m) {options : RenderOptions}
    (hcollect : options.collectWarnings) (page : PageInput) :
    let reading := Operator.readAll page.content
    (∀ (context : PageContext m) (fonts : FontCache) (content : Bytes),
      Yields (Content.Reported (Operator.readAll content) context.options.maxOperators)
        (Content.run context fonts content)) ∧
    Yields (fun rendered =>
        (rendered.value.truncated? = none ↔
          page.content.length ≤ options.maxStreamBytes ∧ reading.stopped? = none ∧
            reading.operators.length ≤ options.maxOperators) ∧
        (rendered.value.truncated? = none →
          ∀ (context : PageContext m) (fonts : FontCache), context.options = options →
            Content.finalMachine context fonts
                (Operator.readAll (page.content.take options.maxStreamBytes)) =
              Machine.executeAll context 0 { fonts } reading.operators) ∧
        (rendered.value.truncated? ≠ none → ∃ w ∈ rendered.warnings,
          w.code = .resourceLimitReached ∨ w.code = .truncatedContent))
      (page.render store options) := by
  intro reading
  refine ⟨Content.yields_run_reported, ?_⟩
  rw [render]
  refine .bind (.trivial _) fun resources _ => .bind (.trivial _) fun fonts _ => ?_
  refine (Content.yields_run_reported _ fonts.value _).bind fun run hrun => .pure ?_
  dsimp only
  rw [if_pos hcollect]
  by_cases hlength : page.content.length ≤ options.maxStreamBytes
  · -- nothing is cut off, so it depends on the run
    have hcut : page.cut? options.maxStreamBytes = none := if_neg (Nat.not_lt.mpr hlength)
    have htake : page.content.take options.maxStreamBytes = page.content :=
      List.take_of_length_le hlength
    rw [htake] at hrun ⊢
    have hcomplete : run.stopped? = none ↔
        reading.stopped? = none ∧ reading.operators.length ≤ options.maxOperators := by
      have hstopped := not_congr hrun.stopped
      rw [Option.not_isSome_iff_eq_none, not_or, Nat.not_lt, Option.not_isSome_iff_eq_none,
        and_comm] at hstopped
      exact hstopped
    rw [hcut]
    refine ⟨hcomplete.trans (and_iff_right hlength).symm, fun hnone context fonts hoptions => ?_,
      fun hsome => ?_⟩
    · rw [Content.finalMachine, hoptions, List.take_of_length_le (hcomplete.mp hnone).2]
    · obtain ⟨reason, hreason⟩ := Option.ne_none_iff_exists'.mp hsome
      obtain ⟨w, hw, hcode⟩ := hrun.told reason hreason
      refine ⟨w, List.mem_append_right _ hw, ?_⟩
      rw [hcode]
      cases reason <;> simp [Truncation.code]
  · have hcut : page.cut? options.maxStreamBytes =
        some (.byteLimit page.content.length options.maxStreamBytes) :=
      if_pos (Nat.lt_of_not_le hlength)
    rw [hcut]
    refine ⟨iff_of_false (Option.some_ne_none _) fun h => hlength h.1,
      fun hnone => (Option.some_ne_none _ hnone).elim, fun _ => ?_⟩
    refine ⟨Truncation.warning (.byteLimit page.content.length options.maxStreamBytes), ?_,
      .inl rfl⟩
    exact List.mem_append_left _ (List.mem_append_right _ List.mem_cons_self)

/-- Contents that name an object which is not there and end within a string. -/
theorem tells_truncation_string :
    let store := ObjectTable.empty.store
    let page : PageInput := ⟨100, "", Utf8.encode "/X Do q (a"⟩
    let context : PageContext Id := ⟨store, 100, ∅, {}⟩
    let run := (Content.run context ∅ page.content).run
    let rendered := (page.render store {}).run
    ({} : RenderOptions).collectWarnings ∧
      run.warnings.map (fun w => (w.code, w.operatorIndex?)) =
        [(.missingReference, some 0), (.truncatedContent, some 2)] ∧
      Content.Reported (Operator.readAll page.content) context.options.maxOperators run ∧
      rendered.value.truncated? ≠ none ∧
      ∃ w ∈ rendered.warnings, w.code = .resourceLimitReached ∨ w.code = .truncatedContent := by
  intro store page context run rendered
  have hcollect : ({} : RenderOptions).collectWarnings = true := rfl
  obtain ⟨hrun, hrendered⟩ := tells_truncation store hcollect page
  have htruncated : rendered.value.truncated? ≠ none := by decide +kernel
  refine ⟨hcollect, by decide +kernel, possible_pure _ (hrun context ∅ page.content), htruncated,
    ?_⟩
  exact (possible_pure (a := rendered) _ hrendered).2.2 htruncated

end PageInput

end PdfDisplay
