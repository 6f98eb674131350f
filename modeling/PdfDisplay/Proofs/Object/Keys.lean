import PdfDisplay.Proofs.Object.Nesting

/-!
# Keys that are read once

A key that is set again keeps its place and has the new value, so whatever is read holds each of its
keys once, at any depth (`Object.KeysOnce`). This goes along with every token
(`OpenObject.KeysOnce.feed`), and so it is known of the dictionaries that are read
(`Dictionary.keysOnce_of_parse?`).
-/

namespace PdfDisplay

theorem Entries.nodup_keys_insert {κ ν : Type} [DecidableEq κ] {entries : List (κ × ν)}
    (h : (entries.map (·.1)).Nodup) (key : κ) (value : ν) :
    ((insert key value entries).map (·.1)).Nodup := by
  induction entries with
  | nil => exact List.pairwise_singleton ..
  | cons entry entries ih =>
    obtain ⟨hfresh, hentries⟩ := List.nodup_cons.mp h
    rw [insert]
    split
    case isTrue hkey => exact List.nodup_cons.mpr ⟨hkey ▸ hfresh, hentries⟩
    case isFalse hkey =>
      refine List.nodup_cons.mpr ⟨fun hmem => ?_, ih hentries⟩
      obtain ⟨other, hother, hsame⟩ := List.mem_map.mp hmem
      obtain rfl | hother := eq_or_mem_of_mem_insert hother
      · exact hkey hsame.symm
      · exact hfresh (hsame ▸ List.mem_map_of_mem hother)

/-- Whether each dictionary in an object, and the object if it is one, holds its keys once. -/
inductive Object.KeysOnce : Object → Prop
  /-- No container. -/
  | scalar {value : Object} (h : value.IsScalar) : KeysOnce value
  /-- An array. -/
  | array {items : List Object} (h : ∀ item ∈ items, KeysOnce item) : KeysOnce (.array items)
  /-- A dictionary. -/
  | dictionary {entries : List (String × Object)} (hkeys : (entries.map (·.1)).Nodup)
    (h : ∀ entry ∈ entries, KeysOnce entry.2) : KeysOnce (.dictionary entries)

/-- Whether a dictionary, and each dictionary in it, holds its keys once. -/
def Dictionary.KeysOnce (d : Dictionary) : Prop := Object.KeysOnce (.dictionary d.entries)

theorem Object.KeysOnce.items {items : List Object} (h : KeysOnce (.array items)) :
    ∀ item ∈ items, KeysOnce item := by
  cases h with
  | scalar h => cases h.1
  | array h => exact h

namespace Dictionary.KeysOnce

variable {d : Dictionary}

theorem nodup (h : d.KeysOnce) : (d.entries.map (·.1)).Nodup := by
  cases h with
  | scalar h => cases h.2
  | dictionary hkeys => exact hkeys

theorem values (h : d.KeysOnce) : ∀ entry ∈ d.entries, entry.2.KeysOnce := by
  cases h with
  | scalar h => cases h.2
  | dictionary _ h => exact h

theorem of_get? (h : d.KeysOnce) {key : String} {value : Object}
    (hget : d.get? key = some value) : value.KeysOnce := by
  obtain ⟨entry, hentry, rfl⟩ := Option.map_eq_some_iff.mp hget
  exact h.values entry (List.mem_of_find?_eq_some hentry)

theorem insert (h : d.KeysOnce) (key : String) {value : Object} (hvalue : value.KeysOnce) :
    (d.insert key value).KeysOnce := by
  refine .dictionary (Entries.nodup_keys_insert h.nodup key value) fun entry hentry => ?_
  obtain rfl | hentry := Entries.eq_or_mem_of_mem_insert hentry
  · exact hvalue
  · exact h.values entry hentry

end Dictionary.KeysOnce

namespace OpenObject

open Token

/-- Whether the containers that are open hold their keys once. -/
def KeysOnce (stack : List OpenObject) : Prop := ∀ inner ∈ stack, inner.value.KeysOnce

/-- Whether the containers that are open, or the value, hold their keys once. -/
def Step.KeysOnce : Step → Prop
  | .opened stack => OpenObject.KeysOnce stack
  | .done value => value.KeysOnce

theorem keysOnce_put {inner : OpenObject} (h : inner.value.KeysOnce) {v : Object}
    (hv : v.KeysOnce) : (inner.put v).value.KeysOnce := by
  cases inner with
  | array items =>
    refine .array ?_
    rw [List.reverse_cons, List.forall_mem_append, List.forall_mem_singleton]
    exact ⟨h.items, hv⟩
  | dictionary d key? =>
    cases key? with
    | none => exact h
    | some key => exact Dictionary.KeysOnce.insert h key hv

theorem IsNew.keysOnce {opened : OpenObject} (h : opened.IsNew) : opened.value.KeysOnce := by
  obtain rfl | rfl := h
  · exact .array (List.forall_mem_nil _)
  · exact .dictionary .nil (List.forall_mem_nil _)

namespace KeysOnce

variable {stack : List OpenObject} {inner : OpenObject} {v value : Object}

theorem putIn (h : KeysOnce stack) (hv : v.KeysOnce) : (putIn v stack).KeysOnce := by
  cases stack with
  | nil => exact hv
  | cons inner outer =>
    obtain ⟨hinner, houter⟩ := List.forall_mem_cons.mp h
    exact List.forall_mem_cons.mpr ⟨keysOnce_put hinner hv, houter⟩

theorem cons (h : KeysOnce stack) (hinner : inner.value.KeysOnce) : KeysOnce (inner :: stack) :=
  List.forall_mem_cons.mpr ⟨hinner, h⟩

/-- **Every token keeps the keys of the open objects apart**, as setting a key replaces the value
that it had. -/
theorem feed (h : KeysOnce stack) (token : Token) : (feed stack token).KeysOnce := by
  cases stack with
  | nil =>
    change (begin [] token).KeysOnce
    obtain hbegin | ⟨v, hv, hbegin⟩ | ⟨-, -, opened, hopened, hbegin⟩ := begin_cases [] token
    · exact hbegin ▸ h
    · exact hbegin ▸ h.putIn (.scalar hv)
    · exact hbegin ▸ h.cons hopened.keysOnce
  | cons inner outer =>
    obtain ⟨hinner, houter⟩ := List.forall_mem_cons.mp h
    obtain ⟨inner', hinner', hfeed⟩ | ⟨v, hv, hfeed⟩ | ⟨-, opened, hopened, hfeed⟩ | hfeed :=
      feed_cases inner outer token
    · exact hfeed ▸ cons houter (hinner' ▸ hinner)
    · exact hfeed ▸ cons houter (keysOnce_put hinner (.scalar hv))
    · exact hfeed ▸ h.cons hopened.keysOnce
    · exact hfeed ▸ putIn houter hinner

theorem close (h : KeysOnce stack) (hclose : close stack = some value) : value.KeysOnce := by
  cases stack with
  | nil => cases hclose
  | cons inner outer =>
    obtain ⟨hinner, houter⟩ := List.forall_mem_cons.mp h
    obtain rfl := Option.some.inj hclose
    exact List.foldlRecOn outer _ hinner fun _ hv o ho => keysOnce_put (houter o ho) hv

theorem run {tokens : List Token} (h : KeysOnce stack) (hrun : run stack tokens = some value) :
    value.KeysOnce :=
  run_invariant OpenObject.KeysOnce Object.KeysOnce
    (fun _ token _ h hfeed => (hfeed ▸ feed h token : Step.KeysOnce (.opened _)))
    (fun _ token _ h hfeed => (hfeed ▸ feed h token : Step.KeysOnce (.done _)))
    (fun _ _ h hclose => close h hclose) h hrun

end KeysOnce

end OpenObject

/-- **A dictionary that is read holds each key once**, and so do the dictionaries in it. -/
theorem Dictionary.keysOnce_of_parse? {text : Bytes} {d : Dictionary} (h : parse? text = some d) :
    d.KeysOnce := by
  obtain ⟨tokens, hrun⟩ := exists_run_of_parse? h
  have hempty : OpenObject.KeysOnce [.dictionary ∅ none] :=
    List.forall_mem_singleton.mpr (OpenObject.IsNew.keysOnce (.inr rfl))
  exact hempty.run hrun

end PdfDisplay
