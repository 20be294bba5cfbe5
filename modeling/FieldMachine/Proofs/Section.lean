import FieldMachine.Section

/-!
# What a section that was read is like

A section is read once, and the field that it describes relies on it ever
after: its bytecode is what lies between the script tables and the string table,
and every script begins inside it (`Section.sound_of_read`).
-/

namespace FieldMachine

set_option autoImplicit false

/-- A computation that succeeds has passed its first part. -/
theorem ok_of_bind {ε α β : Type} {first : Except ε α} {next : α → Except ε β} {value : β}
    (worked : first >>= next = .ok value) :
    ∃ middle, first = .ok middle ∧ next middle = .ok value := by
  cases first with
  | error error => cases worked
  | ok middle => exact ⟨middle, rfl, worked⟩

/-- Whatever is computed for a list comes from one of its items. -/
theorem exists_of_mem_mapM {ε α β : Type} {compute : α → Except ε β} {items : List α}
    {results : List β} {result : β} (worked : items.mapM compute = .ok results)
    (member : result ∈ results) : ∃ item ∈ items, compute item = .ok result := by
  induction items generalizing results with
  | nil =>
      cases worked
      cases member
  | cons item rest ih =>
      rw [List.mapM_cons] at worked
      obtain ⟨first, computed, worked⟩ := ok_of_bind worked
      obtain ⟨others, remaining, worked⟩ := ok_of_bind worked
      cases worked
      rcases List.mem_cons.mp member with rfl | later
      · exact ⟨item, by simp, computed⟩
      · obtain ⟨other, among, found⟩ := ih remaining later
        exact ⟨other, by simp [among], found⟩

namespace Section

/-- The bytecode ends where the executable bytes do, and every script begins inside it. -/
structure Sound (source : Section) : Prop where
  size : source.code.size = source.codeEnd
  ordered : source.codeStart ≤ source.codeEnd
  entered : ∀ scripts ∈ source.entities, ∀ entry ∈ scripts.entries,
    source.codeStart ≤ entry ∧ entry < source.codeEnd

theorem Sound.codeEnd_le {source : Section} (sound : source.Sound) :
    source.codeEnd ≤ source.bytes.size := by
  rw [← sound.size, source.code_eq, Array.size_extract]
  exact Nat.le_trans (Nat.sub_le ..) (Nat.min_le_right ..)

/-- The bytecode is the beginning of the section. -/
theorem getElem?_bytes_of_code {source : Section} {place : Nat} {byte : UInt8}
    (here : source.code[place]? = some byte) : source.bytes[place]? = some byte := by
  rw [source.code_eq, Array.getElem?_extract, Nat.zero_add] at here
  exact (Option.ite_none_right_eq_some.mp here).2

/-- Scripts that were read have their entries inside the bytecode. -/
theorem entry_of_readEntity {bytes : Array UInt8} {entity entry : Nat} {scripts : EntityScripts}
    (accepted : readEntity bytes entity = .ok scripts) (member : entry ∈ scripts.entries) :
    tablesEnd bytes ≤ entry ∧ entry < stringsStart bytes := by
  unfold readEntity at accepted
  dsimp only at accepted
  split at accepted
  · cases accepted
  · next inside =>
      cases accepted
      obtain ⟨script, here⟩ := List.mem_iff_getElem?.mp (Vector.mem_toList_iff.mpr member)
      have listed : (entry, script) ∈ (entriesOf bytes entity).toList.zipIdx :=
        List.mem_zipIdx_iff_getElem?.mpr here
      have within := List.find?_eq_none.mp inside _ listed
      simpa using within

/-- Every section that was read is sound. -/
theorem sound_of_read {bytes : Array UInt8} {source : Section}
    (accepted : read bytes = .ok source) : source.Sound := by
  unfold read at accepted
  split at accepted
  · cases accepted
  dsimp only at accepted
  split at accepted
  · cases accepted
  next present =>
  obtain ⟨_, -, accepted⟩ := ok_of_bind accepted
  obtain ⟨_, -, accepted⟩ := ok_of_bind accepted
  obtain ⟨_, -, accepted⟩ := ok_of_bind accepted
  split at accepted
  · cases accepted
  next apart =>
  obtain ⟨entities, known, accepted⟩ := ok_of_bind accepted
  obtain ⟨texts, -, accepted⟩ := ok_of_bind accepted
  cases accepted
  have inside : stringsStart bytes ≤ bytes.size := by omega
  refine ⟨by simp [inside], Nat.le_of_not_lt apart, ?_⟩
  intro scripts listed entry member
  obtain ⟨entity, -, read⟩ := exists_of_mem_mapM known (List.mem_toArray.mp listed)
  exact entry_of_readEntity read member

end Section

end FieldMachine
