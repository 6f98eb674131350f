import PdfDisplay.Document.Pages
import PdfDisplay.Proofs.Lists
import PdfDisplay.Proofs.Syntax.Joining
import PdfDisplay.Proofs.Text.Utf8

/-!
# Contents in several streams

A page may have its contents in several streams. `PagedDocument.page_lexes` says that the contents
are then read as if the streams were read one after the other: where one stream ends and the next
begins, no lexeme is cut in two and no two lexemes run together, whatever the first stream ends in
and however many streams are empty.
-/

namespace PdfDisplay

open Lexeme

namespace Document

/-- Whether the contents of a page are an array of references to streams, and which data these
have with their filters removed. -/
structure HasStreams (d : Document) (page : ObjectRef) (streams : List Bytes) : Prop where
  /-- The page has contents, which are references, and each of them leads to data. -/
  exists_targets : ∃ entries contents targets, d.getDictionary page = .ok entries ∧
    entryValue? "Contents" entries = some contents ∧
    d.resolve contents = .array (targets.map .reference) ∧
    List.Forall₂ (fun target data => d.decoded target = .ok data) targets streams

variable {d : Document} {page : ObjectRef} {streams : List Bytes}

/-! ## The data of a page -/

theorem entryValue?_cons_self (key : String) (value : Value) (entries : List (Bytes × Value)) :
    entryValue? key ((Utf8.encode key, value) :: entries) = some value := by
  simp [entryValue?, Entries.get?]

theorem entryValue?_cons_of_ne {key other : String} (h : Utf8.encode key ≠ Utf8.encode other)
    (value : Value) (entries : List (Bytes × Value)) :
    entryValue? other ((Utf8.encode key, value) :: entries) = entryValue? other entries := by
  simp [entryValue?, Entries.get?, h]

theorem contentStreams_of_array {entries : List (Bytes × Value)} {contents : Value}
    {targets : List ObjectRef} (hpage : d.getDictionary page = .ok entries)
    (hcontents : entryValue? "Contents" entries = some contents)
    (harray : d.resolve contents = .array (targets.map .reference)) :
    d.contentStreams page = .ok targets := by
  have hreferences : Value.reference? ∘ Value.reference = some := rfl
  simp only [contentStreams, pageDictionary, hpage, hcontents, harray, bind, Except.bind,
    List.filterMap_map, hreferences, List.filterMap_some]
  rfl

/-- The contents of a page are the data of its streams. -/
theorem pageContent_of_hasStreams (h : d.HasStreams page streams) :
    d.pageContent page = .ok (joined streams) := by
  obtain ⟨entries, contents, targets, hpage, hcontents, harray, hdata⟩ := h.exists_targets
  have htargets := contentStreams_of_array hpage hcontents harray
  simp only [pageContent, htargets, bind, Except.bind]
  rw [mapM_eq_ok_iff.mpr (hdata.imp ?_)]
  · rfl
  · intro target data hdecoded
    rw [hdecoded]

/-! ## Their lexemes -/

/-- Empty streams in front are left out, which have no lexemes. -/
theorem lexes_joined {lexemes : List (List Lexeme)} (h : List.Forall₂ Lexes streams lexemes)
    (hhex : ∀ data ∈ streams, ¬ EndsInHexString data) :
    Lexes (joined streams) lexemes.flatten := by
  induction h with
  | nil => exact lexes_nil
  | @cons data ls streams lexemes hfirst hrest ih =>
    cases data with
    | nil =>
      rw [eq_nil_of_lexes_nil hfirst]
      exact ih (List.forall_mem_cons.mp hhex).2
    | cons b data => exact .intercalate (.cons hfirst hrest) hhex

end Document

namespace PagedDocument

open Document

/-- **Streams are read one after the other.** If all streams of a page can be read to their end,
and none ends inside a string in angle brackets, then the contents of the page have the lexemes of
the streams, in order. -/
theorem page_lexes {d : PagedDocument} {index : Nat} {target : ObjectRef} {streams : List Bytes}
    {lexemes : List (List Lexeme)} (hpage : d.pages[index]? = some target)
    (hstreams : d.document.HasStreams target streams)
    (hlexes : List.Forall₂ Lexes streams lexemes)
    (hhex : ∀ data ∈ streams, ¬ EndsInHexString data) :
    ∃ content, Lexes content lexemes.flatten ∧
      d.page index = (do
        let height ← d.document.pageHeight target
        let resources ← d.document.pageResources target
        return { height, resources, content }) := by
  refine ⟨joined streams, lexes_joined hlexes hhex, ?_⟩
  rw [page, hpage]
  dsimp only
  rw [pageInput, pageContent_of_hasStreams hstreams]
  rfl

/-! ## A page in three streams -/

/-- The values of a page with a stream of nothing, one that ends in a comment, and one that ends
in a word. -/
def threeStreams : List (ObjectRef × Document.Value) := [
  (⟨1, 0⟩, .dictionary [(Utf8.encode "Pages", .reference ⟨2, 0⟩)]),
  (⟨2, 0⟩, .dictionary [(Utf8.encode "Kids", .array [.reference ⟨3, 0⟩])]),
  (⟨3, 0⟩, .dictionary [(Utf8.encode "Contents", .array ([⟨4, 0⟩, ⟨5, 0⟩, ⟨6, 0⟩].map .reference)),
    (Utf8.encode "Type", .name (Utf8.encode "Page"))]),
  (⟨4, 0⟩, .stream [] []),
  (⟨5, 0⟩, .stream [] (Utf8.encode "1 % 2")),
  (⟨6, 0⟩, .stream [] (Utf8.encode "w"))]

/-- The document with these values. -/
def inThreeStreams : Document :=
  ⟨.ofList threeStreams, [(Utf8.encode "Root", .reference ⟨1, 0⟩)]⟩

theorem get_inThreeStreams {target : ObjectRef} {value : Document.Value}
    (h : (target, value) ∈ threeStreams) (hdirect : value.reference? = none) :
    inThreeStreams.get target = .ok value := by
  have hvalue : inThreeStreams.values[target]? = some value :=
    Std.HashMap.getElem?_ofList_of_mem (beq_self_eq_true target) (by decide) h
  rw [Document.get, hvalue]
  cases value with
  | reference target => cases hdirect
  | _ => rfl

theorem getDictionary_inThreeStreams {target : ObjectRef}
    {entries : List (Bytes × Document.Value)} (h : (target, .dictionary entries) ∈ threeStreams) :
    inThreeStreams.getDictionary target = .ok entries := by
  rw [getDictionary, get_inThreeStreams h rfl]
  rfl

theorem decoded_inThreeStreams {target : ObjectRef} {data : Bytes}
    (h : (target, .stream [] data) ∈ threeStreams) :
    inThreeStreams.decoded target = .ok data := by
  rw [decoded, stream, find, get_inThreeStreams h rfl]
  rfl

theorem pages_inThreeStreams : [⟨3, 0⟩] = inThreeStreams.pages := by
  have hsize : inThreeStreams.size = 6 := Std.HashMap.size_ofList (by decide)
  have hcatalog := getDictionary_inThreeStreams (.head _)
  have hgroup := getDictionary_inThreeStreams (.tail _ (.head _))
  have hpage := getDictionary_inThreeStreams (.tail _ (.tail _ (.head _)))
  have hroot : inThreeStreams.pageRoot? = some ⟨2, 0⟩ := by
    rw [pageRoot?, inThreeStreams, entryValue?_cons_self]
    change (inThreeStreams.getDictionary ⟨1, 0⟩).toOption.bind _ = _
    rw [hcatalog]
    change (entryValue? _ _).bind _ = _
    rw [entryValue?_cons_self]
    rfl
  have hkids : inThreeStreams.kids ⟨2, 0⟩ = [.reference ⟨3, 0⟩] := by
    simp only [kids, hgroup, entryValue?_cons_self]
    rfl
  have hnode : inThreeStreams.node (.reference ⟨3, 0⟩) = .page ⟨3, 0⟩ := by
    have hkeys : Utf8.encode "Contents" ≠ Utf8.encode "Type" := by decide +kernel
    simp only [node, hpage, entryValue?_cons_of_ne hkeys, entryValue?_cons_self, Option.bind,
      Document.Value.name?, Option.map, Utf8.decode_encode]
  simp only [Document.pages, hroot, hkids, hsize, List.map_cons, List.map_nil, pagesFrom, hnode]

theorem isEncrypted_inThreeStreams : inThreeStreams.isEncrypted = false := by
  have hkeys : Utf8.encode "Root" ≠ Utf8.encode "Encrypt" := by decide +kernel
  rw [isEncrypted, inThreeStreams, entryValue?_cons_of_ne hkeys]
  rfl

/-- A comment at the end of a stream does not take the word of the next stream with it. -/
theorem page_lexes_comment :
    let streams := [[], Utf8.encode "1 % 2", Utf8.encode "w"]
    let lexemes : List (List Lexeme) := [[], [.integer 1], [.keyword "w"]]
    ∃ d : PagedDocument, d.pages[0]? = some ⟨3, 0⟩ ∧
      d.document.HasStreams ⟨3, 0⟩ streams ∧
      List.Forall₂ Lexes streams lexemes ∧ (∀ data ∈ streams, ¬ EndsInHexString data) ∧
      ∃ content, Lexes content [.integer 1, .keyword "w"] ∧
        d.page 0 = (do
          let height ← d.document.pageHeight ⟨3, 0⟩
          let resources ← d.document.pageResources ⟨3, 0⟩
          return { height, resources, content }) := by
  intro streams lexemes
  have hpage := getDictionary_inThreeStreams (.tail _ (.tail _ (.head _)))
  have hempty := decoded_inThreeStreams (.tail _ (.tail _ (.tail _ (.head _))))
  have hcomment := decoded_inThreeStreams (.tail _ (.tail _ (.tail _ (.tail _ (.head _)))))
  have hword := decoded_inThreeStreams (.tail _ (.tail _ (.tail _ (.tail _ (.tail _ (.head _))))))
  have hstreams : inThreeStreams.HasStreams ⟨3, 0⟩ streams :=
    ⟨_, _, _, hpage, entryValue?_cons_self _ _ _, rfl,
      .cons hempty (.cons hcomment (.cons hword .nil))⟩
  have hlexes : List.Forall₂ Lexes streams lexemes :=
    .cons lexes_nil (.cons ⟨Utf8.encode " % 2", by decide +kernel, by decide +kernel⟩
      (.cons ⟨[], by decide +kernel, rfl⟩ .nil))
  have hhex : ∀ data ∈ streams, ¬ EndsInHexString data := by
    have hfree : ∀ data ∈ streams, Byte.of '<' ∉ data := by decide +kernel
    exact fun data hdata => not_endsInHexString (hfree data hdata)
  let d : PagedDocument :=
    ⟨inThreeStreams, [⟨3, 0⟩], pages_inThreeStreams, isEncrypted_inThreeStreams⟩
  have hfirst : d.pages[0]? = some ⟨3, 0⟩ := rfl
  exact ⟨d, hfirst, hstreams, hlexes, hhex, page_lexes hfirst hstreams hlexes hhex⟩

end PagedDocument

end PdfDisplay
