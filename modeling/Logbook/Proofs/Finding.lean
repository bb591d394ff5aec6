import Logbook.Proofs.Overlap

/-! Where stamps are found. The shapes of a stamp at the front of a line and the kinds that are
sought inside it are two lists, and so is the time of the logcat layout: whatever has a shape holds
a stamp of some kind, so no line with a stamped layout goes without a stamp. -/

namespace Logbook

namespace Stamp

open Scan

theorem Pattern.locate_isSome_iff {p : Pattern} {t : Text} :
    (p.locate t).isSome ↔ ∃ rest, rest <:+ t ∧ ((scan p).run rest).isSome := by
  induction t with
  | nil =>
    rw [locate, Option.isSome_map]
    simp only [List.suffix_nil, exists_eq_left]
    rfl
  | cons c t ih =>
    rw [locate]
    split
    · next covered r here =>
      have here : ((scan p).run (c :: t)).isSome := by
        rw [StateT.run, here]
        rfl
      exact iff_of_true rfl ⟨c :: t, List.suffix_rfl, here⟩
    · next missing =>
      rw [Option.isSome_map, ih]
      constructor
      · rintro ⟨rest, suffix, found⟩
        exact ⟨rest, suffix.trans (List.suffix_cons c t), found⟩
      · rintro ⟨rest, suffix, found⟩
        rcases List.suffix_cons_iff.1 suffix with rfl | suffix
        · rw [StateT.run, missing] at found
          contradiction
        · exact ⟨rest, suffix, found⟩

theorem Pattern.fits_of_locate {p : Pattern} {t a b : Text} (h : p.locate t = some (b, a)) :
    p.Fits a ∧ ∃ r, t = b ++ a ++ r := by
  induction t generalizing b with
  | nil =>
    rw [locate] at h
    obtain ⟨⟨a', r⟩, run, same⟩ := Option.map_eq_some_iff.1 h
    cases same
    obtain ⟨whole, fits⟩ := fits_of_run run
    exact ⟨fits, r, whole⟩
  | cons c t ih =>
    rw [locate] at h
    split at h
    · next covered r here =>
      cases h
      obtain ⟨whole, fits⟩ := fits_of_run here
      exact ⟨fits, r, whole⟩
    · obtain ⟨⟨b', a'⟩, later, same⟩ := Option.map_eq_some_iff.1 h
      cases same
      obtain ⟨fits, r, whole⟩ := ih later
      exact ⟨fits, r, congrArg (c :: ·) whole⟩

theorem Pattern.locate_of_run {p : Pattern} {t a r : Text} (h : (scan p).run t = some (a, r)) :
    p.locate t = some ([], a) := by
  cases t with
  | nil =>
    show ((scan p).run []).map _ = _
    rw [h]
    rfl
  | cons c t =>
    have here : scan p (c :: t) = some (a, r) := h
    rw [locate, here]

theorem Kind.mem_all (k : Kind) : k ∈ Kind.all := by cases k <;> decide

theorem fits_of_find? {line : Text} {s : Stamp} (h : find? line = some s) :
    s.kind.pattern.Fits s.text := by
  obtain ⟨k, -, found⟩ := List.exists_of_findSome?_eq_some h
  obtain ⟨⟨before, covered⟩, located, rfl⟩ := Option.map_eq_some_iff.1 found
  exact (Pattern.fits_of_locate located).1

theorem find?_isSome_iff {line : Text} :
    (find? line).isSome ↔
      ∃ (k : Kind) (rest : Text), rest <:+ line ∧ ((Pattern.scan k.pattern).run rest).isSome := by
  simp only [find?, List.findSome?_isSome_iff, findKind?, Option.isSome_map,
    Pattern.locate_isSome_iff, Kind.mem_all, true_and]

theorem find?_isSome_of_suffix {t line : Text} (h : t <:+ line) (found : (find? t).isSome) :
    (find? line).isSome := by
  obtain ⟨k, rest, suffix, run⟩ := find?_isSome_iff.1 found
  exact find?_isSome_iff.2 ⟨k, rest, suffix.trans h, run⟩

theorem find?_isSome_of_part {k : Kind} {a line : Text} (fixed : k.pattern.IsFixed)
    (fits : k.pattern.Fits a) (part : a <:+: line) : (find? line).isSome := by
  obtain ⟨before, after, rfl⟩ := part
  refine find?_isSome_iff.2 ⟨k, a ++ after, ⟨before, by simp⟩, ?_⟩
  rw [Pattern.run_of_fits fixed fits]
  rfl

theorem kind_of_shape : ∀ p ∈ shapes, ∃ k ∈ Kind.all, k.pattern.IsFixed ∧ k.pattern <+: p := by
  decide

theorem find?_isSome_of_scan {line a r : Text} (h : Stamp.scan.run line = some (a, r)) :
    (find? line).isSome := by
  obtain ⟨s, hs, run⟩ := run_first_eq_some h
  obtain ⟨p, hp, rfl⟩ := List.mem_map.1 hs
  obtain ⟨rfl, fits⟩ := Pattern.fits_of_run run
  obtain ⟨k, -, fixed, rest, rfl⟩ := kind_of_shape p hp
  obtain ⟨b, d, rfl, fits, -⟩ := Pattern.fits_append.1 fits
  exact find?_isSome_of_part fixed fits ⟨[], d ++ r, by simp⟩

theorem find?_isSome_of_time {most : Nat} {a line : Text}
    (fits : (Pattern.clock ++ Pattern.fraction '.' 3 most).Fits a) (part : a <:+: line) :
    (find? line).isSome := by
  obtain ⟨time, _, rfl, clock, _, _, rfl, rfl, digits, _, rfl, ⟨long, -, all⟩, rfl⟩ :=
    Pattern.fits_append.1 fits
  have millis : (Pattern.fraction '.' 3 3).Fits ('.' :: digits.take 3) := by
    refine ⟨['.'], digits.take 3, rfl, rfl, digits.take 3, [], by simp, ⟨?_, ?_, ?_⟩, rfl⟩
    · simp [long]
    · exact List.length_take_le 3 digits
    · exact fun c hc => all c (List.mem_of_mem_take hc)
  have fits : Kind.timeDotMillis.pattern.Fits (time ++ '.' :: digits.take 3) :=
    Pattern.fits_append.2 ⟨time, _, rfl, clock, millis⟩
  refine find?_isSome_of_part (by decide) fits (List.IsInfix.trans ?_ part)
  exact ⟨[], digits.drop 3, by simp⟩

theorem Kind.head_of_fits {k : Kind} {a : Text} (fits : k.pattern.Fits a) :
    ∃ c r, a = c :: r ∧ Text.isDigit c = true := by
  have opens : ∃ least most ps, k.pattern = .digits least most :: ps ∧ 0 < least := by
    cases k <;> exact ⟨_, _, _, rfl, by decide⟩
  obtain ⟨least, most, ps, same, positive⟩ := opens
  rw [same] at fits
  exact fits.head positive

theorem visible_of_find? {line : Text} {s : Stamp} (h : find? line = some s) :
    Text.trim line ≠ [] := by
  obtain ⟨k, rest, suffix, run⟩ := find?_isSome_iff.1 (h ▸ rfl : (find? line).isSome)
  obtain ⟨⟨a, r⟩, run⟩ := Option.isSome_iff_exists.1 run
  obtain ⟨rfl, fits⟩ := Pattern.fits_of_run run
  obtain ⟨c, a, rfl, digit⟩ := Kind.head_of_fits fits
  intro blank
  have blank_c := Text.trim_eq_nil_iff.1 blank c (suffix.subset (by simp))
  simp [Text.not_isBlank_of_isDigit digit] at blank_c

end Stamp

namespace Line

open Scan

/-- A layout other than that of browsers fits the line, as it stands or without what is stray in
front of it. -/
def IsTimed (line : Text) : Prop :=
  ∃ l ∈ Layout.cascade, l ≠ .browser ∧
    ((l.read? line).isSome ∨ (l.read? (line.dropWhile isStray)).isSome)

theorem Layout.Looks.stamp {line : Text} {l : Layout} (looks : l.Looks line)
    (h : l ∈ Layout.cascade) (ne : l ≠ .browser) : (Stamp.find? line).isSome := by
  rcases Layout.looks_cases looks h with ⟨rfl, -⟩ | ⟨rfl, -⟩ | ⟨boxes, stamped, -⟩
  · obtain ⟨-, time, fits, part⟩ := looks
    exact Stamp.find?_isSome_of_time fits part
  · exact absurd rfl ne
  · obtain ⟨⟨_, t⟩, head, -⟩ := Option.map_eq_some_iff.1 stamped.boxes
    obtain ⟨stamp, t', scanned, -⟩ := run_bind_eq_some.1 head
    exact Stamp.find?_isSome_of_scan scanned

theorem IsTimed.stamp {line : Text} (h : IsTimed line) : (Stamp.find? line).isSome := by
  obtain ⟨l, hl, ne, read | read⟩ := h
  · exact (looks_of_read? read).stamp hl ne
  · exact Stamp.find?_isSome_of_suffix (List.dropWhile_suffix _) ((looks_of_read? read).stamp hl ne)

section Gives

def Gives {α : Type} (s : Scan α) (P : α → Prop) : Prop := ∀ ⦃t a r⦄, s.run t = some (a, r) → P a

variable {α β : Type} {P : β → Prop}

theorem gives_bind {s : Scan α} {f : α → Scan β} (h : ∀ a, Gives (f a) P) : Gives (s >>= f) P := by
  intro t b r run
  obtain ⟨a, t', -, rest⟩ := run_bind_eq_some.1 run
  exact h a rest

theorem gives_pure {b : β} (h : P b) : Gives (pure b) P := by
  intro t b' r run
  cases run
  exact h

theorem gives_tagged : Gives tagged (·.layout = .tagged) :=
  gives_bind fun _ => gives_bind fun ⟨_, _⟩ => gives_bind fun _ => gives_bind fun _ =>
    gives_bind fun _ => gives_bind fun _ => gives_bind fun _ => gives_pure rfl

theorem gives_positional : Gives positional (·.layout = .positional) :=
  gives_bind fun _ => gives_bind fun ⟨_, _⟩ => gives_bind fun _ => gives_bind fun _ =>
    gives_bind fun _ => gives_bind fun _ => gives_bind fun _ => gives_pure rfl

theorem gives_structured : Gives structured (·.layout = .structured) :=
  gives_bind fun _ => gives_bind fun _ => gives_bind fun _ => gives_bind fun ⟨_, _⟩ =>
    gives_bind fun ⟨_, _⟩ => gives_bind fun _ => gives_bind fun _ => gives_bind fun _ =>
      gives_pure rfl

theorem gives_minimal : Gives minimal (·.layout = .minimal) :=
  gives_bind fun _ => gives_bind fun _ => gives_bind fun _ => gives_bind fun ⟨_, _⟩ =>
    gives_bind fun _ => gives_pure rfl

theorem gives_linux : Gives linux (·.layout = .linux) :=
  gives_bind fun _ => gives_bind fun _ => gives_bind fun _ => gives_bind fun ⟨_, _⟩ =>
    gives_bind fun _ => gives_bind fun _ => gives_bind fun _ => gives_bind fun _ =>
      gives_bind fun _ => gives_pure rfl

theorem gives_android : Gives android (·.layout = .android) :=
  gives_bind fun _ => gives_bind fun ⟨_, _⟩ => gives_bind fun _ => gives_bind fun _ =>
    gives_bind fun _ => gives_bind fun _ => gives_bind fun _ => gives_bind fun _ =>
      gives_bind fun _ => gives_pure rfl

theorem gives_logcat : Gives logcat (·.layout = .logcat) :=
  gives_bind fun _ => gives_bind fun _ => gives_bind fun _ => gives_bind fun _ =>
    gives_bind fun _ => gives_bind fun _ => gives_bind fun _ => gives_bind fun _ =>
      gives_bind fun _ => gives_bind fun _ => gives_bind fun _ => gives_bind fun _ =>
        gives_bind fun _ => gives_bind fun _ => gives_bind fun _ => gives_pure rfl

theorem gives_browser : Gives browser (·.layout = .browser) :=
  gives_bind fun ⟨_, _, _, _, _, _⟩ => gives_bind fun _ => gives_bind fun _ => gives_pure rfl

end Gives

theorem layout_of_read? {line : Text} {l : Layout} {f : Fields} (h : l.read? line = some f) :
    f.layout = l := by
  have name : ∀ {s : Scan Fields} {l : Layout}, Gives s (·.layout = l) →
      result? s line = some f → f.layout = l := by
    intro s l gives read
    obtain ⟨⟨f', r⟩, run, rfl⟩ := Option.map_eq_some_iff.1 read
    exact gives run
  cases l with
  | tagged => exact name gives_tagged h
  | positional => exact name gives_positional h
  | structured => exact name gives_structured h
  | minimal => exact name gives_minimal h
  | linux => exact name gives_linux h
  | android => exact name gives_android h
  | logcat => exact name gives_logcat h
  | browser => exact name gives_browser h
  | plain =>
    cases h
    rfl

theorem isTimed_of_detect {line : Text} (plain : (detect line).layout ≠ .plain)
    (browser : (detect line).layout ≠ .browser) : IsTimed line := by
  unfold detect detectIn at plain browser
  cases found : Layout.cascade.findSome? (·.read? (line.dropWhile isStray)) with
  | none =>
    rw [found] at plain
    exact absurd rfl plain
  | some f =>
    rw [found] at browser
    obtain ⟨l, hl, read⟩ := List.exists_of_findSome?_eq_some found
    refine ⟨l, hl, ?_, .inr (by rw [read]; rfl)⟩
    rwa [← layout_of_read? read]

end Line
end Logbook
