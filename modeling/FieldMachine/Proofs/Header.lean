import FieldMachine.Listing
import FieldMachine.Proofs.Section.Draft

/-!
# The texts of a header

The header of a listing has as many texts as the string table of the section.  It
looks each of them up by a byte, so what it gives for a text is the text with the
same number modulo 256 (`Listing.texts_header_of_read`).  These are the texts of the
section as long as there are no more than 256 of them; the one after these is given
as the first one (`Listing.crowd_repeats_text`).
-/

namespace FieldMachine

set_option autoImplicit false

/-- Where something is found for every item, nothing is left out. -/
theorem filterMap_eq_map_of_mem {α β : Type} {find : α → Option β} {value : α → β}
    {items : List α} (found : ∀ item ∈ items, find item = some (value item)) :
    items.filterMap find = items.map value := by
  induction items with
  | nil => rfl
  | cons item rest ih =>
      rw [List.filterMap_cons_some (found item List.mem_cons_self), List.map_cons,
        ih fun other among => found other (List.mem_cons_of_mem _ among)]

namespace Listing

variable {bytes : Array UInt8} {source : Section} {index : Nat}

/-- The texts of a header, looked up with numbers that stay inside the string table. -/
theorem texts_header (source : Section) :
    (header source).texts = (List.range source.texts.size).map fun index =>
      ((source.text? (index % 256)).map Utf8.decodeString).getD "" := by
  refine filterMap_eq_map_of_mem fun index few => ?_
  have inside : index % 256 < source.texts.size :=
    Nat.lt_of_le_of_lt (Nat.mod_le ..) (List.mem_range.mp few)
  rw [Section.text?, Array.getElem?_eq_getElem inside]
  rfl

theorem getElem?_texts_header (few : index < source.texts.size) :
    (header source).texts[index]? =
      some (((source.text? (index % 256)).map Utf8.decodeString).getD "") := by
  rw [texts_header, List.getElem?_map, List.getElem?_range few, Option.map_some]

/-- Whatever section was read, its header has one entry for each text of the string table.  The
entry is what the bytes of a text stand for, from where the text starts up to the next byte 0xFF or
the end of the section; and the text is the one with the number of the entry modulo 256. -/
theorem texts_header_of_read (accepted : Section.read bytes = .ok source) :
    (header source).texts.length = Section.textTotal bytes ∧
      ∀ index < Section.textTotal bytes, ∃ finish,
        Section.TextRun bytes (Section.textStart bytes (index % 256)) finish ∧
        (header source).texts[index]? = some (Utf8.decodeString
          (bytes.extract (Section.textStart bytes (index % 256)) finish).toList) := by
  obtain ⟨wellFormed, rfl⟩ := Section.read_eq_ok.mp accepted
  have stored := wellFormed.storedIn_ofBytes
  have count : (Section.ofBytes bytes).texts.size = Section.textTotal bytes := stored.textCount
  refine ⟨?_, fun index few => ?_⟩
  · rw [texts_header, List.length_map, List.length_range, count]
  · rw [← count] at few
    have inside := Nat.lt_of_le_of_lt (Nat.mod_le index 256) few
    obtain ⟨finish, -, told, run⟩ := stored.text (index % 256) inside
    refine ⟨finish, run, ?_⟩
    rw [getElem?_texts_header few, told]
    rfl

/-! ## A section with more texts than bytes have values -/

/-- A draft with 257 texts: the first one is `A`, all others are `B`. -/
def crowd : Draft := { name := "crowd", texts := [65] :: List.replicate 256 [66] }

theorem length_texts_crowd : crowd.texts.length = 257 := by decide +kernel

theorem read_crowd :
    ∃ source, Section.read crowd.layout.toArray = .ok source ∧ crowd.Restored source := by
  have small : ¬crowd.TooLarge := Draft.error?_eq_none.mp (by decide +kernel)
  exact (Draft.read_encode crowd).1 _ (Draft.encode_eq_ok.mpr ⟨small, rfl⟩)

theorem crowd_header_has_entry :
    ∃ source, Section.read crowd.layout.toArray = .ok source ∧
      (header source).texts.length = 257 ∧
      ∃ finish, let start := Section.textStart crowd.layout.toArray 0
        Section.TextRun crowd.layout.toArray start finish ∧
        (header source).texts[256]? =
          some (Utf8.decodeString (crowd.layout.toArray.extract start finish).toList) := by
  obtain ⟨source, accepted, restored⟩ := read_crowd
  obtain ⟨length, entries⟩ := texts_header_of_read accepted
  have total : source.texts.size = 257 := restored.textCount.trans length_texts_crowd
  have same : Section.textTotal crowd.layout.toArray = 257 := by
    rw [← length, texts_header, List.length_map, List.length_range, total]
  rw [same] at length entries
  exact ⟨source, accepted, length, entries 256 (by decide)⟩

/-- The last text of this section is `B`, and its header gives `A` for it. -/
theorem crowd_repeats_text :
    ∃ source, Section.read crowd.layout.toArray = .ok source ∧ source.texts.size = 257 ∧
      source.text? 256 = some [66] ∧ (header source).texts[256]? = some "A" ∧
      (source.text? 256).map Utf8.decodeString = some "B" := by
  obtain ⟨source, accepted, restored⟩ := read_crowd
  have count : source.texts.size = 257 := restored.textCount.trans length_texts_crowd
  have first : source.text? 0 = some [65] := restored.text 0 [65] rfl
  have last : source.text? 256 = some [66] := restored.text 256 [66] (by decide +kernel)
  refine ⟨source, accepted, count, last, ?_, ?_⟩
  · rw [getElem?_texts_header (by rw [count]; decide), first]
    decide +kernel
  · rw [last]
    decide +kernel

end Listing

end FieldMachine
