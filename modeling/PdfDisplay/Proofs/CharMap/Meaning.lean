import PdfDisplay.Proofs.CharMap.Entries
import PdfDisplay.Proofs.Syntax.Scanning

/-!
# What character maps mean

A character map is written as sections between words that are passed over. `CharMap.Splits` cuts
the lexemes of a map into its sections, and `CharMap.Holds` says which entries they hold.
`CharMap.parse_meaning` says that a map is read exactly if all of it is made of such sections, and
that a code then has the text that the last of the entries which cover it gives it.
-/

namespace PdfDisplay.CharMap

/-! ## Maps in sections -/

/-- Cuts lexemes into sections, each between its own two words; what stands between sections is
passed over. -/
inductive Splits : List Lexeme → List (SectionKind × List Lexeme) → Prop where
  /-- The end. -/
  | nil : Splits [] []
  /-- A lexeme that begins no section. -/
  | between {l : Lexeme} {ls : List Lexeme} {parts : List (SectionKind × List Lexeme)}
    (hl : ∀ kind : SectionKind, l ≠ .keyword kind.beginWord) (hrest : Splits ls parts) :
    Splits (l :: ls) parts
  /-- A section. -/
  | body {kind : SectionKind} {body ls : List Lexeme} {parts : List (SectionKind × List Lexeme)}
    (hbody : .keyword kind.endWord ∉ body) (hrest : Splits ls parts) :
    Splits (.keyword kind.beginWord :: (body ++ .keyword kind.endWord :: ls))
      ((kind, body) :: parts)

/-- The entries that sections hold, in the order in which they are written. -/
inductive Holds : List (SectionKind × List Lexeme) → List Entry → Prop where
  /-- No section. -/
  | nil : Holds [] []
  /-- A section in front of others. -/
  | cons {kind : SectionKind} {body : List Lexeme} {parts : List (SectionKind × List Lexeme)}
    {first entries : List Entry} (h : kind.IsBody body first) (hrest : Holds parts entries) :
    Holds ((kind, body) :: parts) (first ++ entries)

/-! ## Reading maps -/

open Lexeme (Scans scan)

theorem sectionTo_of_scan {word : String} {read : List Lexeme} {text rest : Bytes} {l : Lexeme}
    (h : scan text = .lexeme l rest) :
    sectionTo word read text =
      if l = .keyword word then .ok (read.reverse, rest) else sectionTo word (l :: read) rest := by
  rw [sectionTo]
  split
  case h_1 hscan | h_2 hscan => cases h.symm.trans hscan
  case h_3 hscan =>
    cases h.symm.trans hscan
    rfl

theorem sectionTo_of_done {word : String} {read : List Lexeme} {text : Bytes}
    (h : scan text = .done) : sectionTo word read text = .error (.missingEnd word) := by
  rw [sectionTo]
  split
  case h_1 => rfl
  case h_2 hscan | h_3 hscan => cases h.symm.trans hscan

theorem sectionTo_of_unterminated {word : String} {read : List Lexeme} {text : Bytes}
    (h : scan text = .unterminated) : sectionTo word read text = .error .unterminatedString := by
  rw [sectionTo]
  split
  case h_2 => rfl
  case h_1 hscan | h_3 hscan => cases h.symm.trans hscan

/-- A section whose end comes is read up to it. -/
theorem sectionTo_of_scans {word : String} {text last : Bytes} {body ls : List Lexeme}
    (h : Scans text (body ++ .keyword word :: ls) last) (hbody : .keyword word ∉ body)
    (read : List Lexeme) :
    ∃ rest, sectionTo word read text = .ok (read.reverse ++ body, rest) ∧ Scans rest ls last := by
  -- by induction over the body, in which the word that ends it does not occur
  induction body generalizing text read with
  | nil =>
    cases h with
    | @cons _ rest _ _ _ hscan hrest =>
      refine ⟨rest, ?_, hrest⟩
      rw [sectionTo_of_scan hscan, if_pos rfl, List.append_nil]
  | cons l body ih =>
    cases h with
    | @cons _ rest _ _ _ hscan hrest =>
      have hl : l ≠ .keyword word := fun hl => hbody (hl ▸ List.mem_cons_self)
      obtain ⟨rest', hread, hrest'⟩ := ih hrest (List.not_mem_of_not_mem_cons hbody) (l :: read)
      refine ⟨rest', ?_, hrest'⟩
      rw [sectionTo_of_scan hscan, if_neg hl, hread, List.reverse_cons, List.append_assoc,
        List.singleton_append]

/-- What is read up to the end of a section is made of lexemes, the word of the end behind them. -/
theorem scans_of_sectionTo {word : String} {read body : List Lexeme} {text rest : Bytes}
    (h : sectionTo word read text = .ok (body, rest)) :
    ∃ ls, body = read.reverse ++ ls ∧ .keyword word ∉ ls ∧
      Scans text (ls ++ [.keyword word]) rest := by
  fun_induction sectionTo word read text with
  | case1 | case2 => cases h
  | case3 read text rest' hscan =>
    cases h
    exact ⟨[], (List.append_nil _).symm, List.not_mem_nil, .cons hscan .nil⟩
  | case4 read text l rest' hscan _ hl ih =>
    obtain ⟨ls, rfl, hls, hscans⟩ := ih h
    refine ⟨l :: ls, ?_, ?_, .cons hscan hscans⟩
    · rw [List.reverse_cons, List.append_assoc, List.singleton_append]
    · exact List.not_mem_cons_of_ne_of_not_mem (Ne.symm hl) hls

theorem readSections_of_done {contents : Contents} {text : Bytes} (h : scan text = .done) :
    readSections contents text = .ok contents := by
  rw [readSections]
  split
  case h_1 => rfl
  case h_2 hscan | h_3 hscan => cases h.symm.trans hscan

theorem readSections_of_unterminated {contents : Contents} {text : Bytes}
    (h : scan text = .unterminated) : readSections contents text = .error .unterminatedString := by
  rw [readSections]
  split
  case h_1 hscan | h_3 hscan => cases h.symm.trans hscan
  case h_2 => rfl

/-- A lexeme begins a section, or it does not. -/
theorem between_or_begin (l : Lexeme) :
    (∀ kind : SectionKind, l ≠ .keyword kind.beginWord) ∨
      ∃ kind : SectionKind, l = .keyword kind.beginWord := by
  by_cases h : ∃ kind : SectionKind, l = .keyword kind.beginWord
  · exact .inr h
  · exact .inl fun kind hl => h ⟨kind, hl⟩

/-- The words that end sections belong to those that begin them. -/
theorem endOf?_eq_some_iff {word ending : String} :
    endOf? word = some ending ↔
      ∃ kind : SectionKind, word = kind.beginWord ∧ ending = kind.endWord := by
  constructor
  · intro h
    rw [endOf?.eq_def] at h
    split at h
    case h_1 => exact ⟨.codeSpaces, rfl, (Option.some.inj h).symm⟩
    case h_2 => exact ⟨.chars, rfl, (Option.some.inj h).symm⟩
    case h_3 => exact ⟨.ranges, rfl, (Option.some.inj h).symm⟩
    case h_4 => cases h
  · rintro ⟨kind, rfl, rfl⟩
    cases kind <;> rfl

theorem readSections_of_between {contents : Contents} {text rest : Bytes} {l : Lexeme}
    (h : scan text = .lexeme l rest) (hl : ∀ kind : SectionKind, l ≠ .keyword kind.beginWord) :
    readSections contents text = readSections contents rest := by
  rw [readSections]
  split
  case h_1 hscan | h_2 hscan => cases h.symm.trans hscan
  case h_3 hscan =>
    cases h.symm.trans hscan
    split
    case h_1 => rfl
    case h_2 ending hending =>
      split at hending
      case h_1 word =>
        obtain ⟨kind, rfl, -⟩ := endOf?_eq_some_iff.mp hending
        exact absurd rfl (hl kind)
      case h_2 => cases hending

theorem endOf?_beginWord (kind : SectionKind) : endOf? kind.beginWord = some kind.endWord :=
  endOf?_eq_some_iff.mpr ⟨kind, rfl, rfl⟩

/-- **A word that begins a section is followed by the section's body**, up to the word that ends it,
and by further sections. -/
theorem readSections_of_begin {contents : Contents} {text rest : Bytes} {kind : SectionKind}
    (h : scan text = .lexeme (.keyword kind.beginWord) rest) :
    readSections contents text =
      sectionTo kind.endWord [] rest >>= fun (body, rest') =>
        addSection contents kind.endWord body >>= fun contents' =>
          readSections contents' rest' := by
  rw [readSections]
  split
  case h_1 hscan | h_2 hscan => cases h.symm.trans hscan
  case h_3 hscan =>
    cases h.symm.trans hscan
    split
    case h_1 hnone => cases (endOf?_beginWord kind).symm.trans hnone
    case h_2 ending hending =>
      obtain rfl := Option.some.inj ((endOf?_beginWord kind).symm.trans hending)
      split
      case h_1 hsection => rw [hsection]; rfl
      case h_2 body rest' hsection =>
        conv_rhs => rw [hsection]
        change _ = addSection contents kind.endWord body >>= _
        dsimp only
        split
        case h_1 hadd => rw [hadd]; rfl
        case h_2 hadd => rw [hadd]; rfl

/-- What sections add to what has been read, one after another. -/
inductive AddsUp : List (SectionKind × List Lexeme) → Contents → Contents → Prop where
  /-- No section. -/
  | nil {contents : Contents} : AddsUp [] contents contents
  /-- A section in front of others. -/
  | cons {kind : SectionKind} {body : List Lexeme} {parts : List (SectionKind × List Lexeme)}
    {contents contents' contents'' : Contents}
    (h : addSection contents kind.endWord body = .ok contents')
    (hrest : AddsUp parts contents' contents'') : AddsUp ((kind, body) :: parts) contents contents''

/-- What is made of sections that can be read is read, one section after another. -/
theorem readSections_of_addsUp {text last : Bytes} {ls : List Lexeme}
    {parts : List (SectionKind × List Lexeme)} {contents contents' : Contents}
    (hsplits : Splits ls parts) (hadds : AddsUp parts contents contents')
    (hscans : Scans text ls last) (hdone : scan last = .done) :
    readSections contents text = .ok contents' := by
  -- by induction over how the lexemes split: each is between sections or opens one
  induction hsplits generalizing text contents with
  | nil =>
    cases hadds
    cases hscans
    exact readSections_of_done hdone
  | between hl _ ih =>
    cases hscans with
    | cons hscan hrest =>
      rw [readSections_of_between hscan hl]
      exact ih hadds hrest
  | body hbody _ ih =>
    cases hscans with
    | cons hscan hrest =>
      cases hadds with
      | cons hsection hparts =>
        obtain ⟨rest, hread, hrest⟩ := sectionTo_of_scans hrest hbody []
        rw [readSections_of_begin hscan, hread]
        change addSection _ _ _ >>= _ = _
        rw [List.reverse_nil, List.nil_append, hsection]
        exact ih hparts hrest

theorem Holds.addsUp {parts : List (SectionKind × List Lexeme)} {entries : List Entry}
    (h : Holds parts entries) (contents : Contents) :
    AddsUp parts contents (contents.add entries) := by
  induction h generalizing contents with
  | nil => exact .nil
  | cons hsection _ ih =>
    rw [Contents.add_append]
    exact .cons (addSection_of_isBody hsection contents) (ih _)

/-- **What is made of sections with entries is read**, and its entries are added. -/
theorem readSections_of_splits {text last : Bytes} {ls : List Lexeme}
    {parts : List (SectionKind × List Lexeme)} {entries : List Entry} (hsplits : Splits ls parts)
    (hholds : Holds parts entries) (hscans : Scans text ls last) (hdone : scan last = .done)
    (contents : Contents) : readSections contents text = .ok (contents.add entries) :=
  readSections_of_addsUp hsplits (hholds.addsUp contents) hscans hdone

/-- **What is read is made of sections**, which add up. -/
theorem exists_addsUp_of_readSections {contents contents' : Contents} {text : Bytes}
    (h : readSections contents text = .ok contents') :
    ∃ ls last parts, Scans text ls last ∧ scan last = .done ∧ Splits ls parts ∧
      AddsUp parts contents contents' := by
  -- by induction over the length of the text: a section takes more than one lexeme at once
  induction hn : text.length using Nat.strongRecOn generalizing contents text with
  | ind n ih =>
    cases hscan : scan text with
    | done =>
      rw [readSections_of_done hscan] at h
      cases h
      exact ⟨[], text, [], .nil, hscan, .nil, .nil⟩
    | unterminated =>
      rw [readSections_of_unterminated hscan] at h
      cases h
    | lexeme l rest =>
      have hlength := Lexeme.length_lt_of_scan hscan
      obtain hl | ⟨kind, rfl⟩ := between_or_begin l
      · rw [readSections_of_between hscan hl] at h
        obtain ⟨ls, last, parts, hscans, hdone, hsplits, hadds⟩ := ih _ (hn ▸ hlength) h rfl
        exact ⟨_, last, parts, .cons hscan hscans, hdone, .between hl hsplits, hadds⟩
      · rw [readSections_of_begin hscan] at h
        obtain ⟨⟨body, rest'⟩, hsection, h⟩ := exists_ok_of_bind h
        obtain ⟨contents₁, hadd, h⟩ := exists_ok_of_bind h
        have hshorter := length_lt_of_sectionTo hsection
        obtain ⟨ls, last, parts, hscans, hdone, hsplits, hadds⟩ :=
          ih _ (hn ▸ hshorter.trans hlength) h rfl
        obtain ⟨body, rfl, hbody, hends⟩ := scans_of_sectionTo hsection
        -- the run over the body, and the run over what is behind it
        have hscans := hends.append hscans
        rw [List.append_assoc, List.singleton_append] at hscans
        exact ⟨_, last, _, .cons hscan hscans, hdone, .body hbody hsplits, .cons hadd hadds⟩

/-- What parts add up to is held by entries, if no range among them has a list of texts. -/
theorem Holds.of_addsUp {parts : List (SectionKind × List Lexeme)} {contents contents' : Contents}
    (h : AddsUp parts contents contents')
    (hlists : ∀ body, (SectionKind.ranges, body) ∈ parts → WithoutLists body) :
    ∃ entries, Holds parts entries := by
  induction h with
  | nil => exact ⟨[], .nil⟩
  | @cons kind body _ _ _ _ hadd _ ih =>
    obtain ⟨first, hfirst⟩ := exists_isBody_of_addSection hadd fun hkind =>
      hlists body (hkind ▸ List.mem_cons_self)
    obtain ⟨entries, hentries⟩ := ih fun body hbody => hlists body (List.mem_cons_of_mem _ hbody)
    exact ⟨_, .cons hfirst hentries⟩

/-- **What is read is made of sections with entries**: the lexemes split into sections and what
stands between them, and the contents are what the sections add up to. -/
theorem exists_splits_of_readSections {text last : Bytes} {ls : List Lexeme}
    {contents contents' : Contents} (h : readSections contents text = .ok contents')
    (hscans : Scans text ls last) (hdone : scan last = .done)
    (hlists : ∀ parts, Splits ls parts →
      ∀ body, (SectionKind.ranges, body) ∈ parts → WithoutLists body) :
    ∃ parts entries, Splits ls parts ∧ Holds parts entries := by
  obtain ⟨ls', last', parts, hscans', hdone', hsplits, hadds⟩ := exists_addsUp_of_readSections h
  obtain rfl := hscans.eq_of_done hscans' hdone hdone'
  obtain ⟨entries, hholds⟩ := Holds.of_addsUp hadds (hlists parts hsplits)
  exact ⟨parts, entries, hsplits, hholds⟩

/-- The table of a map is made from its mappings in the order in which they were read. -/
theorem parse_of_readSections {text : Bytes} {contents : Contents}
    (h : readSections ⟨none, []⟩ text = .ok contents) :
    parse text = .ok (ofMappings contents.codeLength? contents.mappings.reverse) := by
  rw [parse, h]
  rfl

/-- The mappings of entries give the texts that the entries give. -/
theorem findSome?_filterMap_mapping? (entries : List Entry) (code : Nat) :
    (entries.filterMap Entry.mapping?).findSome? (·.text? code) =
      entries.findSome? (·.text? code) := by
  induction entries with
  | nil => rfl
  | cons entry entries ih =>
    rw [List.findSome?_cons, Entry.text?_eq_bind]
    cases hmapping : entry.mapping? with
    | none => rw [List.filterMap_cons_none hmapping, ih]; rfl
    | some mapping => rw [List.filterMap_cons_some hmapping, List.findSome?_cons, ih]; rfl

theorem Splits.mem_of_mem_body {ls : List Lexeme} {parts : List (SectionKind × List Lexeme)}
    (h : Splits ls parts) {kind : SectionKind} {body : List Lexeme} (hbody : (kind, body) ∈ parts)
    {l : Lexeme} (hl : l ∈ body) : l ∈ ls := by
  induction h with
  | nil => cases hbody
  | between _ _ ih => exact List.mem_cons_of_mem _ (ih hbody)
  | body _ _ ih =>
    refine List.mem_cons_of_mem _ (List.mem_append.mpr ?_)
    cases hbody with
    | head => exact .inl hl
    | tail _ hbody => exact .inr (List.mem_cons_of_mem _ (ih hbody))

/-- Where no bracket opens, no range has a list of texts. -/
theorem withoutLists_of_notMem {ls : List Lexeme} (h : .arrayStart ∉ ls)
    {parts : List (SectionKind × List Lexeme)} (hsplits : Splits ls parts) {body : List Lexeme}
    (hbody : (SectionKind.ranges, body) ∈ parts) : WithoutLists body :=
  fun _ hn => h (hsplits.mem_of_mem_body hbody (List.mem_of_getElem? hn))

/-- **What a character map means.** A map whose lexemes come to an end, and none of whose ranges
has a list of texts, is read exactly if every section is closed by its own word and holds entries
only. Its code length is then the greatest that a code space declares, and the text of a code is
the one that the last entry which covers the code gives it. -/
theorem parse_meaning {text last : Bytes} {ls : List Lexeme} (hscans : Scans text ls last)
    (hdone : scan last = .done)
    (hlists : ∀ parts, Splits ls parts →
      ∀ body, (SectionKind.ranges, body) ∈ parts → WithoutLists body) :
    ((∃ map, parse text = .ok map) ↔
      ∃ parts entries, Splits ls parts ∧ Holds parts entries) ∧
    ∀ map parts entries, parse text = .ok map → Splits ls parts → Holds parts entries →
      map.codeLength? = (entries.filterMap Entry.codeLength?).max? ∧
      ∀ code, map.lookup? code =
        (entries.reverse.findSome? (·.text? code)).map String.ofList := by
  constructor
  · constructor
    · rintro ⟨map, h⟩
      obtain ⟨contents, hread, -⟩ := exists_ok_of_bind h
      exact exists_splits_of_readSections hread hscans hdone hlists
    · rintro ⟨parts, entries, hsplits, hholds⟩
      exact ⟨_, parse_of_readSections (readSections_of_splits hsplits hholds hscans hdone _)⟩
  · intro map parts entries h hsplits hholds
    rw [parse_of_readSections (readSections_of_splits hsplits hholds hscans hdone _)] at h
    cases h
    refine ⟨foldl_longer_none _, fun code => ?_⟩
    rw [lookup?_ofMappings, Contents.add, List.append_nil, List.reverse_reverse,
      ← List.filterMap_reverse, findSome?_filterMap_mapping?]

/-- A single code takes the place of one in the middle of a range of surrogate pairs. -/
theorem parse_meaning_overlay :
    let text := Utf8.encode "beginbfrange<00><02><D835DC00>endbfrange beginbfchar<01><41>endbfchar"
    let ls : List Lexeme := [.keyword "beginbfrange", .hexString [0], .hexString [2],
      .hexString [0xD8, 0x35, 0xDC, 0x00], .keyword "endbfrange", .keyword "beginbfchar",
      .hexString [1], .hexString [0x41], .keyword "endbfchar"]
    Scans text ls [] ∧ scan [] = .done ∧
    (∀ parts, Splits ls parts →
      ∀ body, (SectionKind.ranges, body) ∈ parts → WithoutLists body) ∧
    ∃ map, parse text = .ok map ∧ map.codeLength? = none ∧
      map.lookup? 0 = some "𝐀" ∧ map.lookup? 1 = some "A" ∧ map.lookup? 2 = some "𝐂" ∧
      map.lookup? 3 = none := by
  intro text ls
  have hscans : Scans text ls [] := by decide +kernel
  have hlists : ∀ parts, Splits ls parts →
      ∀ body, (SectionKind.ranges, body) ∈ parts → WithoutLists body :=
    fun parts hsplits body hbody => withoutLists_of_notMem (by decide) hsplits hbody
  have hsplits : Splits ls
      [(.ranges, [.hexString [0], .hexString [2], .hexString [0xD8, 0x35, 0xDC, 0x00]]),
        (.chars, [.hexString [1], .hexString [0x41]])] :=
    @Splits.body .ranges [_, _, _] _ _ (by decide)
      (@Splits.body .chars [_, _] _ _ (by decide) .nil)
  have hholds : Holds
      [(.ranges, [.hexString [0], .hexString [2], .hexString [0xD8, 0x35, 0xDC, 0x00]]),
        (.chars, [.hexString [1], .hexString [0x41]])]
      [.range (codeNumber [0]) (codeNumber [2]) (writtenText [0xD8, 0x35, 0xDC, 0x00]),
        .char (codeNumber [1]) (writtenText [0x41])] :=
    .cons ⟨.cons (.range (by decide) (by decide) (by decide) (by decide) (by decide)) .nil, nofun⟩
      (.cons ⟨.cons (.hexChar (by decide) (by decide)) .nil, nofun⟩ .nil)
  obtain ⟨hread, hmeaning⟩ := parse_meaning hscans rfl hlists
  obtain ⟨map, hmap⟩ := hread.mpr ⟨_, _, hsplits, hholds⟩
  obtain ⟨hlength, hlookup⟩ := hmeaning map _ _ hmap hsplits hholds
  refine ⟨hscans, rfl, hlists, map, hmap, hlength, ?_, ?_, ?_, ?_⟩
  all_goals
    rw [hlookup]
    decide +kernel

end PdfDisplay.CharMap
