import Logbook.Proofs.Partition
import Logbook.Proofs.Provenance

/-! What an entry has from its first line. All its fields but the message are those of that line,
and the module is a part of it as it stands there. -/

namespace Logbook

theorem fields_of_mem {ls : List SourceLine} {e : Entry} (h : e ∈ assemble ls) :
    ∃ l ∈ ls, e.fields = { Line.detect l.text with message := e.message } := by
  -- From the end: the last line opens an entry, grows one that an earlier line opened, or is blank.
  induction ls using List.reverseRecOn generalizing e with
  | nil => simp [assemble, Assembler.feed, Assembler.finish, Assembler.close] at h
  | append_singleton ls l ih =>
    have before : ∀ e ∈ assemble ls, ∃ l' ∈ ls ++ [l], e.fields =
        { Line.detect l'.text with message := e.message } := by
      intro e he
      obtain ⟨l', hl', same⟩ := ih he
      exact ⟨l', by simp [hl'], same⟩
    have last : assemble (ls ++ [l]) = ((Assembler.feed {} ls).push l).finish := by
      rw [assemble, Assembler.feed, List.foldl_append]
      rfl
    by_cases blank : Text.trim l.text = []
    · rw [last, Assembler.push, if_pos blank] at h
      exact before e h
    rw [last] at h
    obtain ⟨instant, opened⟩ | ⟨-, es, e', entries, grown⟩ := Assembler.finish_push _ blank
    · rw [opened, List.mem_append, List.mem_singleton] at h
      rcases h with old | rfl
      · exact before e old
      · exact ⟨l, by simp, rfl⟩
    · rw [grown, List.mem_append, List.mem_singleton] at h
      have member : ∀ e ∈ es ++ [e'], e ∈ assemble ls := by
        rw [assemble, entries]
        exact fun e he => he
      rcases h with old | rfl
      · exact before e (member e (by simp [old]))
      · obtain ⟨l', hl', same⟩ := before e' (member e' (by simp))
        exact ⟨l', hl', by rw [Entry.withLine, same]; rfl⟩

theorem moduleName_part {ls : List SourceLine} {e : Entry} (h : e ∈ assemble ls) {m : Text}
    (named : e.fields.moduleName = some m) : ∃ l ∈ ls, m <:+: l.text := by
  obtain ⟨l, hl, same⟩ := fields_of_mem h
  rw [same] at named
  exact ⟨l, hl, ((Line.grounded_detect l.text).moduleName m named).part⟩

end Logbook
