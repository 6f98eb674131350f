import Mathlib.Data.List.Infix
import PdfDisplay.Proofs.Object.Fragments

/-!
# Damaged dictionaries

A dictionary whose text is cut off keeps what stands in front of the cut
(`Dictionary.parse?_take`). What the entries make of the lexemes in front of the cut is the one half
of it (`Dictionary.parse?_of_cutWithin`); the other half are places in the text, which tell the
lexemes that end in front of the cut from the one that it falls within (`EndsBy`).
-/

namespace PdfDisplay

open Lexeme

/-! ## Texts that are cut off -/

/-- Whether lexemes that a text begins with end within its first `place` bytes. -/
def EndsBy (text : Bytes) (ls : List Lexeme) (place : Nat) : Prop :=
  ∃ rest, Scans text ls rest ∧ text.length ≤ place + rest.length

open Token in
theorem Lexeme.CutWithin.lexemes_eq {text tail : Bytes} {front : List Lexeme} {next : Lexeme}
    {stub? : Option Lexeme} (h : CutWithin text tail front next stub?) :
    lexemes text = front ++ stub?.toList := by
  obtain ⟨mid, hscans, hmid⟩ := h.read
  rw [lexemes_of_scans hscans]
  cases stub? with
  | none => rw [lexemes_of_end hmid, Option.toList_none]
  | some stub =>
    have hnil : lexemes [] = [] := lexemes_of_end nofun
    rw [lexemes_of_scans (.cons hmid .nil), hnil, List.append_nil, Option.toList_some]

namespace Dictionary

theorem parse?_of_scans {text last : Bytes} {entries : List WrittenEntry}
    (h : Scans text (.dictionaryStart :: (entries.flatMap WrittenEntry.text ++ [.dictionaryEnd]))
      last)
    (hkeys : (entries.map WrittenEntry.key).Nodup)
    (hwritten : ∀ entry ∈ entries, entry.value.Written 127 entry.lexemes) :
    parse? text = some ⟨entries.map WrittenEntry.pair⟩ := by
  have hlexemes := Token.lexemes_of_scans h
  rw [List.cons_append, List.append_assoc, List.singleton_append] at hlexemes
  rw [parse?_of_written hlexemes hwritten, Entries.ofList_of_nodup]
  rwa [WrittenEntry.map_pair]

theorem get?_of_mem {d : Dictionary} (hkeys : d.keys.Nodup) {key : String} {value : Object}
    (h : (key, value) ∈ d.entries) : d.get? key = some value := by
  obtain ⟨before, after, hentries⟩ := List.append_of_mem h
  have hnone : before.find? (fun entry => entry.1 = key) = none := by
    rw [List.find?_eq_none]
    intro entry hentry
    rw [keys, hentries, List.map_append, List.map_cons] at hkeys
    have hne := (List.nodup_append.mp hkeys).2.2 _ (List.mem_map_of_mem hentry) _ List.mem_cons_self
    simpa using hne
  rw [get?, Entries.get?, hentries, List.find?_append, hnone, Option.none_or,
    List.find?_cons_of_pos (by simp)]
  rfl

/-- What a dictionary has that is made of the first entries of a text, and of further keys of the
text. -/
theorem get?_of_read (read unread : List WrittenEntry) (more : List (String × Object))
    (hkeys : ((read ++ unread).map WrittenEntry.key).Nodup)
    (hmore : more.map (·.1) <+: unread.map WrittenEntry.key) :
    (∀ entry ∈ read, get? ⟨read.map WrittenEntry.pair ++ more⟩ entry.key = some entry.value) ∧
      ∀ key ∈ keys ⟨read.map WrittenEntry.pair ++ more⟩,
        key ∈ (read ++ unread).map WrittenEntry.key := by
  have hfirst : keys ⟨read.map WrittenEntry.pair ++ more⟩ <+:
      (read ++ unread).map WrittenEntry.key := by
    rw [keys, List.map_append, List.map_append, WrittenEntry.map_pair]
    exact (List.prefix_append_right_inj _).mpr hmore
  refine ⟨fun entry hentry => ?_, fun key hkey => hfirst.subset hkey⟩
  refine get?_of_mem (hkeys.sublist hfirst.sublist) (List.mem_append_left _ ?_)
  exact List.mem_map_of_mem (f := WrittenEntry.pair) hentry

/-- A text that ends within a lexeme of the entries is read as the entries `read`, among which are
all that end in front of this lexeme, and perhaps others with the keys that follow. -/
theorem parse?_of_cutWithin {text tail : Bytes} {entries : List WrittenEntry}
    (hkeys : (entries.map WrittenEntry.key).Nodup)
    (hwritten : ∀ entry ∈ entries, entry.value.Written 127 entry.lexemes)
    {front behind : List Lexeme} {next : Lexeme} {stub? : Option Lexeme}
    (hcut : entries.flatMap WrittenEntry.text ++ [.dictionaryEnd] = front ++ next :: behind)
    (hwithin : CutWithin text tail (.dictionaryStart :: front) next stub?) :
    ∃ read unread more, entries = read ++ unread ∧
      parse? text = some ⟨read.map WrittenEntry.pair ++ more⟩ ∧
      more.map (·.1) <+: unread.map WrittenEntry.key ∧
      ∀ done, done <+: entries → done.flatMap WrittenEntry.text <+: front → done <+: read := by
  have hnext : next.IsObjectWord := by
    have hmem : next ∈ entries.flatMap WrittenEntry.text ++ [.dictionaryEnd] := by
      rw [hcut]
      exact List.mem_append_right front List.mem_cons_self
    refine List.forall_mem_append.mpr ⟨isObjectWord_entries fun entry hentry => ?_, ?_⟩ next hmem
    · exact (hwritten entry hentry).isObjectWord
    · exact List.forall_mem_singleton.mpr nofun
  have hstub := isEnd_of_stub hnext hwithin.stub
  obtain ⟨read, unread, part, more, hparts, hrun, hmore⟩ :=
    OpenObject.run_cut hkeys hwritten hstub hcut
  refine ⟨read, unread, more, hparts.items_eq, ?_, hmore, fun done hdone hfront => ?_⟩
  · exact parse?_of_run hwithin.lexemes_eq hrun
  · exact hparts.prefix_read (fun _ => List.cons_ne_nil _ _) hdone hfront

/-- **A dictionary keeps what stands in front of damage.** Take a text of a dictionary, whose keys
differ and whose values nest at most 127 deep, and cut it off anywhere behind the opening brackets.
It is still read as a dictionary, which has every key that ends with its value in front of the cut,
with the value that it has in the whole text, and it has no other keys than the whole text. -/
theorem parse?_take {text last : Bytes} {entries : List WrittenEntry}
    (h : Scans text (.dictionaryStart :: (entries.flatMap WrittenEntry.text ++ [.dictionaryEnd]))
      last)
    (hkeys : (entries.map WrittenEntry.key).Nodup)
    (hwritten : ∀ entry ∈ entries, entry.value.Written 127 entry.lexemes) :
    parse? text = some ⟨entries.map WrittenEntry.pair⟩ ∧
      ∀ place, EndsBy text [.dictionaryStart] place → ∃ d, parse? (text.take place) = some d ∧
        (∀ done, done <+: entries →
          EndsBy text (.dictionaryStart :: done.flatMap WrittenEntry.text) place →
          ∀ entry ∈ done, d.get? entry.key = some entry.value) ∧
        ∀ key ∈ d.keys, key ∈ entries.map WrittenEntry.key := by
  refine ⟨parse?_of_scans h hkeys hwritten, fun place hplace => ?_⟩
  have htext : text.take place ++ text.drop place = text := List.take_append_drop place text
  have htail {rest : Bytes} (hrest : text.length ≤ place + rest.length) :
      (text.drop place).length ≤ rest.length := by
    rw [List.length_drop]
    omega
  have hscans := h
  rw [← htext] at hscans
  obtain ⟨last', -, hwhole⟩ | ⟨front, next, behind, stub?, hcut, hwithin⟩ := hscans.cut
  · -- the cut is behind the closing brackets
    have hall := get?_of_read entries [] [] (by rwa [List.append_nil]) List.nil_prefix
    simp only [List.append_nil] at hall
    exact ⟨_, parse?_of_scans hwhole hkeys hwritten,
      fun done hdone _ entry hentry => hall.1 entry (hdone.subset hentry), hall.2⟩
  · have hahead {before : List Lexeme}
        (hbefore : before <+: .dictionaryStart ::
          (entries.flatMap WrittenEntry.text ++ [.dictionaryEnd]))
        (hends : EndsBy text before place) : before <+: front := by
      obtain ⟨rest, hrest, hlength⟩ := hends
      exact hwithin.prefix_front (htext.symm ▸ hrest) (htail hlength) (hcut ▸ hbefore)
    obtain ⟨front, rfl⟩ := hahead ⟨_, rfl⟩ hplace
    obtain ⟨read, unread, more, rfl, hparse, hmore, hread⟩ :=
      parse?_of_cutWithin hkeys hwritten (List.cons.inj hcut).2 hwithin
    obtain ⟨hget, hkey⟩ := get?_of_read read unread more hkeys hmore
    refine ⟨_, hparse, fun done hdone hends entry hentry => ?_, hkey⟩
    have hwhole : .dictionaryStart :: done.flatMap WrittenEntry.text <+:
        .dictionaryStart :: ((read ++ unread).flatMap WrittenEntry.text ++ [.dictionaryEnd]) :=
      List.cons_prefix_cons.mpr ⟨rfl, (hdone.flatMap _).trans (List.prefix_append _ _)⟩
    have hfront : done.flatMap WrittenEntry.text <+: front :=
      (List.cons_prefix_cons.mp (hahead hwhole hends)).2
    exact hget entry ((hread done hdone hfront).subset hentry)

/-- An array with a reference, a dictionary with a string, and a reference. -/
def kids : List WrittenEntry :=
  [⟨"Kids", .array [.integer 1, .reference ⟨2, 0⟩],
      [.arrayStart, .integer 1, .integer 2, .integer 0, .keyword "R", .arrayEnd]⟩,
    ⟨"Sub", .dictionary [("X", .string [0x61])],
      [.dictionaryStart, .name "X", .literalString [0x61], .dictionaryEnd]⟩,
    ⟨"Parent", .reference ⟨3, 0⟩, [.integer 3, .integer 0, .keyword "R"]⟩]

theorem written_kids : ∀ entry ∈ kids, entry.value.Written 127 entry.lexemes := by
  simp only [kids, List.forall_mem_cons]
  refine ⟨?_, ?_, ?_, List.forall_mem_nil _⟩
  · exact .array [(.integer 1, [.integer 1]),
      (.reference ⟨2, 0⟩, [.integer 2, .integer 0, .keyword "R"])]
      (by simpa using ⟨.integer 1, .reference 2 0⟩)
  · exact .dictionary [⟨"X", .string [0x61], [.literalString [0x61]]⟩]
      (List.forall_mem_singleton.mpr (.literalString [0x61]))
  · exact .reference 3 0

/-- The text ends within the last reference: the array keeps the references in front of it, and the
key keeps the array. -/
theorem parse?_take_kids :
    let text := Utf8.encode "<</Kids[1 2 0 R]/Sub<</X(a)>>/Parent 3 0 R>>"
    ∃ d, parse? (text.take 40) = some d ∧
      d.get? "Kids" = some (.array [.integer 1, .reference ⟨2, 0⟩]) ∧
      d.get? "Sub" = some (.dictionary [("X", .string [0x61])]) ∧
      ∀ key ∈ d.keys, key ∈ ["Kids", "Sub", "Parent"] := by
  intro text
  have hscans : Scans text
      (.dictionaryStart :: (kids.flatMap WrittenEntry.text ++ [.dictionaryEnd])) [] := by
    decide +kernel
  obtain ⟨-, hcut⟩ := parse?_take hscans (by decide) written_kids
  have hfront : EndsBy text (.dictionaryStart :: (kids.take 2).flatMap WrittenEntry.text) 40 :=
    ⟨Utf8.encode "/Parent 3 0 R>>", by decide +kernel, by decide +kernel⟩
  obtain ⟨d, hparse, hkept, hkey⟩ := hcut 40 ⟨text.drop 2, by decide +kernel, by decide +kernel⟩
  have hget := hkept (kids.take 2) ⟨_, List.take_append_drop 2 kids⟩ hfront
  exact ⟨d, hparse, hget _ (.head _), hget _ (.tail _ (.head _)), hkey⟩

end Dictionary

end PdfDisplay
