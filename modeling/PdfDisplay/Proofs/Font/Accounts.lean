import Mathlib.Data.List.Nodup
import Mathlib.Data.List.Perm.Basic
import PdfDisplay.Proofs.Graphics.Reporting

/-!
# Accounts of resolved fonts

An account lists the outcomes of the resolutions by which a cache was filled: no two are of one tag,
the fonts are those that the cache keeps, and of all warnings given on the way, those of the
outcomes are there once, beside others that are about no font (`FontCache.Accounts`). It goes along
with every font that is asked for, whether it has been resolved before or not, and so with the
fonts that are resolved in front of page contents (`FontCache.yields_preload_accounted`). In the end
it can be put in the order of the tags, which is that of the fonts (`FontCache.Accounts.sort`).

What `outcome` says of an outcome is left open: it may be anything that is known of all resolutions.
-/

namespace PdfDisplay

/-- The warning without the operator that it belongs to. -/
def Warning.unnumbered (w : Warning) : Warning := { w with operatorIndex? := none }

/-- What came of resolutions, each with the tag that was resolved. -/
abbrev FontOutcomes : Type := List (String × Diagnosed Font)

/-- The warnings of all resolutions. -/
def FontOutcomes.warnings (outcomes : FontOutcomes) : List Warning :=
  outcomes.flatMap fun resolved => resolved.2.warnings

namespace FontCache

/-- Whether a cache and the warnings so far are those of some outcomes of resolutions, for the tags
that were asked for. -/
structure Accounts (entries : Std.TreeMap String FontEntry)
    (outcome : String → Option FontEntry → Diagnosed Font → Prop) (tags : List String)
    (cache : FontCache) (warnings others : List Warning) (outcomes : FontOutcomes) : Prop where
  /-- No tag is resolved twice. -/
  nodup : (outcomes.map (·.1)).Nodup
  /-- The tags resolved are those that were asked for. -/
  mem_tags : ∀ tag, tag ∈ outcomes.map (·.1) ↔ tag ∈ tags
  /-- Each is an outcome of the entry with its tag. -/
  outcome : ∀ resolved ∈ outcomes, outcome resolved.1 entries[resolved.1]? resolved.2
  /-- The fonts are kept. -/
  get?_eq : ∀ tag font, cache.get? tag = some font ↔
    (tag, font) ∈ outcomes.map fun resolved => (resolved.1, resolved.2.value)
  /-- The warnings are those of the outcomes and the others. -/
  warnings : (warnings.map (·.unnumbered)).Perm ((others ++ outcomes.warnings).map (·.unnumbered))
  /-- The others are about no font. -/
  others : ∀ w ∈ others, w.fontName? = none

/-- Whether there is an account of a cache and the warnings so far. -/
def Accounted (entries : Std.TreeMap String FontEntry)
    (outcome : String → Option FontEntry → Diagnosed Font → Prop) (tags : List String)
    (cache : FontCache) (warnings : List Warning) : Prop :=
  ∃ others outcomes, Accounts entries outcome tags cache warnings others outcomes

variable {entries : Std.TreeMap String FontEntry}
  {outcome : String → Option FontEntry → Diagnosed Font → Prop} {tags : List String}
  {cache : FontCache} {warnings others : List Warning} {outcomes : FontOutcomes}

theorem accounts_empty : Accounts entries outcome [] ∅ [] [] [] where
  nodup := .nil
  mem_tags _ := Iff.rfl
  outcome := List.forall_mem_nil _
  get?_eq tag font := by
    rw [get?, show (∅ : FontCache).byTag = ∅ from rfl, Std.TreeMap.getElem?_emptyc]
    exact iff_of_false (Option.some_ne_none _).symm List.not_mem_nil
  warnings := .nil
  others := List.forall_mem_nil _

namespace Accounts

variable (h : Accounts entries outcome tags cache warnings others outcomes)

include h

/-- Warnings that are about no font. -/
theorem beside {given : List Warning} (hgiven : ∀ w ∈ given, w.fontName? = none) :
    Accounts entries outcome tags cache (given ++ warnings) (given ++ others) outcomes where
  nodup := h.nodup
  mem_tags := h.mem_tags
  outcome := h.outcome
  get?_eq := h.get?_eq
  warnings := by
    rw [List.append_assoc, List.map_append, List.map_append]
    exact h.warnings.append_left _
  others := List.forall_mem_append.mpr ⟨hgiven, h.others⟩

/-- The warnings in another order. -/
theorem permuteWarnings {warnings' : List Warning} (hperm : warnings'.Perm warnings) :
    Accounts entries outcome tags cache warnings' others outcomes :=
  { h with warnings := (hperm.map _).trans h.warnings }

/-- The outcomes in another order. -/
theorem permuteOutcomes {outcomes' : FontOutcomes} (hperm : outcomes'.Perm outcomes) :
    Accounts entries outcome tags cache warnings others outcomes' where
  nodup := (hperm.map _).nodup_iff.mpr h.nodup
  mem_tags tag := (hperm.map _).mem_iff.trans (h.mem_tags tag)
  outcome resolved hmem := h.outcome resolved (hperm.mem_iff.mp hmem)
  get?_eq tag font := (h.get?_eq tag font).trans (hperm.map _).mem_iff.symm
  warnings := h.warnings.trans (((hperm.flatMap_right _).symm.append_left _).map _)
  others := h.others

/-- A font that has been resolved is asked for again. -/
theorem found {tag : String} {font : Font} (hget : cache.get? tag = some font) :
    Accounts entries outcome (tags ++ [tag]) cache warnings others outcomes where
  nodup := h.nodup
  mem_tags other := by
    have htag : tag ∈ outcomes.map (·.1) := by
      have hmem := List.mem_map_of_mem (f := Prod.fst) ((h.get?_eq tag font).mp hget)
      rwa [List.map_map] at hmem
    rw [h.mem_tags, List.mem_append, List.mem_singleton]
    refine ⟨.inl, fun hother => hother.elim id ?_⟩
    rintro rfl
    exact (h.mem_tags _).mp htag
  outcome := h.outcome
  get?_eq := h.get?_eq
  warnings := h.warnings
  others := h.others

/-- A font is resolved. -/
theorem resolved {tag : String} {font : Diagnosed Font} {given : List Warning}
    (hget : cache.get? tag = none) (houtcome : outcome tag entries[tag]? font)
    (hgiven : (given.map (·.unnumbered)).Perm (font.warnings.map (·.unnumbered))) :
    Accounts entries outcome (tags ++ [tag]) (cache.insert tag font.value) (given ++ warnings)
      others ((tag, font) :: outcomes) where
  nodup := by
    -- a font that was resolved before would be in the cache already
    refine List.nodup_cons.mpr ⟨fun htag => ?_, h.nodup⟩
    obtain ⟨⟨_, font⟩, hmem, rfl⟩ := List.mem_map.mp htag
    have hkept := (h.get?_eq _ _).mpr (List.mem_map_of_mem hmem)
    rw [hget] at hkept
    cases hkept
  mem_tags other := by
    rw [List.map_cons, List.mem_cons, h.mem_tags, List.mem_append, List.mem_singleton, or_comm]
  outcome := List.forall_mem_cons.mpr ⟨houtcome, h.outcome⟩
  get?_eq other kept := by
    rw [get?_insert, List.map_cons, List.mem_cons, ← h.get?_eq, Prod.mk.injEq]
    split
    case isTrue htag =>
      subst htag
      rw [hget, Option.some.injEq]
      exact ⟨fun heq => .inl ⟨rfl, heq.symm⟩, fun heq => heq.elim (·.2.symm) nofun⟩
    case isFalse htag =>
      exact ⟨.inr, fun heq => heq.elim (fun heq => absurd heq.1.symm htag) id⟩
  warnings := by
    rw [FontOutcomes.warnings, List.flatMap_cons, List.map_append, List.map_append,
      List.map_append, ← List.append_assoc]
    -- the warnings of fonts are gathered in front of those that are not about fonts
    refine (hgiven.append h.warnings).trans ?_
    rw [List.map_append, ← List.append_assoc]
    exact (List.perm_append_comm.append_right _)
  others := h.others

/-- **The fonts are in the order of their tags**, and the outcomes can be put in that order. -/
theorem sort : ∃ sorted : FontOutcomes,
    Accounts entries outcome tags cache warnings others sorted ∧
      (sorted.map (·.1)).Pairwise (· < ·) ∧ cache.fonts = sorted.map (·.2.value) := by
  have hnodup : cache.byTag.toList.Nodup := by
    have hkeys := Std.TreeMap.nodup_keys (t := cache.byTag)
    rw [← Std.TreeMap.map_fst_toList_eq_keys] at hkeys
    exact hkeys.of_map
  have houtcomes : (outcomes.map fun resolved => (resolved.1, resolved.2.value)).Nodup := by
    refine List.Nodup.of_map Prod.fst ?_
    rw [List.map_map]
    exact h.nodup
  have hperm : cache.byTag.toList.Perm
      (outcomes.map fun resolved => (resolved.1, resolved.2.value)) := by
    refine (List.perm_ext_iff_of_nodup hnodup houtcomes).mpr fun (tag, font) => ?_
    rw [← h.get?_eq]
    exact Std.TreeMap.mem_toList_iff_getElem?_eq_some
  -- the outcomes in the order in which the cache lists their fonts
  have hlisted : List.Forall₂ (fun kept resolved => kept = (resolved.1, resolved.2.value))
      (outcomes.map fun resolved => (resolved.1, resolved.2.value)) outcomes :=
    List.forall₂_map_left_iff.mpr (List.forall₂_same.mpr fun _ _ => rfl)
  obtain ⟨sorted, hsorted, hpermuted⟩ := List.perm_comp_forall₂ hperm hlisted
  have hlist : cache.byTag.toList = sorted.map fun resolved => (resolved.1, resolved.2.value) := by
    rw [← List.forall₂_eq_eq_eq, List.forall₂_map_right_iff]
    exact hsorted
  refine ⟨sorted, h.permuteOutcomes hpermuted, ?_, ?_⟩
  · have hkeys := Std.TreeMap.ordered_keys_toList (t := cache.byTag)
    rw [hlist, List.pairwise_map] at hkeys
    exact List.pairwise_map.mpr (hkeys.imp compareOfLessAndEq_eq_lt.mp)
  · have hvalues : cache.fonts = cache.byTag.foldr (fun _ font fonts => font :: fonts) [] := rfl
    rw [hvalues, Std.TreeMap.foldr_eq_foldr_toList, hlist, List.foldr_map]
    exact List.map_eq_foldr.symm

end Accounts

/-! ## Fonts resolved in front of contents -/

variable {m : Type → Type} [Monad m] [LawfulMonad m] (store : ObjectStore m)
  (h : ∀ tag declared?, Yields (outcome tag declared?) (resolveEntry store tag declared?))

include h

theorem yields_preloadFrom_accounted {given : List (String × FontEntry)}
    (hgiven : ∀ entry ∈ given, entries[entry.1]? = some entry.2)
    (haccount : Accounted entries outcome tags cache warnings) :
    Yields (fun preloaded => Accounted entries outcome (tags ++ given.map (·.1)) preloaded.value
        preloaded.warnings)
      (preloadFrom store warnings cache given) := by
  induction given generalizing tags cache warnings with
  | nil =>
    rw [List.map_nil, List.append_nil]
    exact .pure haccount
  | cons entry given ih =>
    obtain ⟨tag, entry⟩ := entry
    obtain ⟨others, outcomes, haccount⟩ := haccount
    obtain ⟨hentry, hgiven⟩ := List.forall_mem_cons.mp hgiven
    rw [List.map_cons, List.append_cons, preloadFrom, getOrResolve]
    split
    -- a tag that was given before is in the cache and is not resolved again
    case h_1 font hget =>
      rw [pure_bind]
      refine ih hgiven ⟨others, outcomes, ?_⟩
      rw [Diagnosed.clean, List.append_nil]
      exact haccount.found hget
    -- a new one is resolved once, and its warnings are added once
    case h_2 hget =>
      rw [bind_assoc]
      refine (h tag (some entry)).bind fun font hfont => ?_
      rw [pure_bind]
      refine ih hgiven ⟨others, (tag, font) :: outcomes, ?_⟩
      rw [← hentry] at hfont
      exact (haccount.resolved hget hfont .rfl).permuteWarnings List.perm_append_comm

/-- **There is an account of the fonts that are resolved in front of the contents.** -/
theorem yields_preload_accounted (entries : Std.TreeMap String FontEntry) :
    Yields (fun preloaded => Accounted entries outcome entries.keys preloaded.value
        preloaded.warnings)
      (preload store ∅ entries) := by
  have hnone : Accounted entries outcome [] ∅ [] := ⟨[], [], accounts_empty⟩
  rw [← Std.TreeMap.map_fst_toList_eq_keys]
  exact yields_preloadFrom_accounted store h
    (fun _ hentry => Std.TreeMap.mem_toList_iff_getElem?_eq_some.mp hentry) hnone

end FontCache

end PdfDisplay
