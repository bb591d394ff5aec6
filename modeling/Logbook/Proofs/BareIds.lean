import Logbook.Proofs.Rendering

/-! Lines whose ids stand in boxes of their own with nothing to tell which is which. Both orders
read alike, and the tenfold rule decides as it would without any bound on the product. -/

namespace Logbook.Line

open Scan Text

structure Component where
  name : Text
  number : Option Text
  is_name : IsName name
  no_digit : Stops isDigit name
  is_number : ∀ n ∈ number, IsNumeral n

namespace Component

def numberText (number : Option Text) : Text := number.elim [] (':' :: ·)

def text (c : Component) : Text := c.name ++ numberText c.number

def fields (c : Component) (a b : Nat) (m : Text) : Fields where
  layout := .positional
  level := none
  moduleName := nonblank? c.name
  thread := some (ofNat (if max a b > 10 * min a b then max a b else min a b))
  process := some (ofNat (if max a b > 10 * min a b then min a b else max a b))
  sourceFile := none
  sourceLine := c.number.bind lineNumber?
  message := trim m
  extras := []

theorem fields_comm (c : Component) (a b : Nat) (m : Text) : c.fields a b m = c.fields b a m := by
  simp only [fields, Nat.max_comm, Nat.min_comm]

end Component

section Read

variable {c : Component} {s x y m : Text} {a b : Nat}

theorem threadAndProcess_eq (ha : a ≤ Numeral.max64) (hb : b ≤ Numeral.max64) :
    threadAndProcess a b =
      if max a b > 10 * min a b then (max a b, min a b) else (min a b, max a b) := by
  have within : max a b ≤ Numeral.max64 := Nat.max_le.2 ⟨ha, hb⟩
  have same : max a b > min (10 * min a b) Numeral.max64 ↔ max a b > 10 * min a b := by omega
  simp only [threadAndProcess, same]

theorem run_componentNumber {number : Option Text} (h : ∀ n ∈ number, IsNumeral n) (r : Text) :
    (perhaps do char ':'; digits).run (Component.numberText number ++ ']' :: r) =
      some (number, ']' :: r) := by
  refine run_perhaps_elim (run_bind_of_none (run_char_of_ne (by decide) r)) fun n hn => ?_
  rw [List.cons_append, run_bind_of_some (run_char_cons ':' _)]
  exact run_digits (h n hn) (stops_cons (by decide) r)

theorem stops_componentNumber (number : Option Text) (r : Text) :
    Stops inName (Component.numberText number ++ ']' :: r) := by
  cases number with
  | none => exact stops_cons (by decide) r
  | some n => exact stops_cons (by decide) _

theorem reads_component (c : Component) : Reads nameWithDigits c.text (c.name, c.number) := by
  have only := c.is_name.only
  obtain ⟨d, w, split⟩ := List.exists_cons_of_ne_nil c.is_name.1
  have first : (inName d && !isDigit d) = true := by
    have plain : isDigit d = false := c.no_digit d (by rw [split]; rfl)
    simp [only d (by simp [split]), plain]
  have rest : Only inName w := fun e he => only e (by simp [split, he])
  intro r
  rw [Component.text, List.append_assoc, split, List.cons_append, nameWithDigits,
    run_bind_of_some (run_satisfy_of_pos first _),
    run_bind_of_some (run_many rest (stops_componentNumber c.number r)),
    run_bind_of_some (run_componentNumber c.is_number r)]
  rfl

theorem reads_decimal (h : IsDecimal x) : Reads digits x x :=
  fun r => run_digits h.isNumeral (stops_cons (by decide) r)

theorem run_positional (c : Component) (stamp : Stamp.isStamp s = true) (hx : IsDecimal x)
    (hy : IsDecimal y) (one_line : '\n' ∉ m) :
    positional.run (stampedLine s [c.text, x, y] m) = (do
      let a ← Numeral.read? Numeral.max64 x
      let b ← Numeral.read? Numeral.max64 y
      let (thread, process) := threadAndProcess a b
      return (.ofParts .positional none (trim m)
        { moduleName := some c.name, sourceLine := c.number,
          thread := some (ofNat thread), process := some (ofNat process) } [], [])) := by
  refine (run_bind_of_some (run_stampHead stamp _ _ _)).trans ?_
  refine (run_bind_of_some (run_box_cons (reads_component c) _ _ _)).trans ?_
  refine (run_bind_of_some (run_box_cons (reads_decimal hx) _ _ _)).trans ?_
  refine (run_bind_of_some (run_box_last (reads_decimal hy) _)).trans ?_
  refine (run_bind_of_some (run_message_dropWhile one_line)).trans ?_
  cases Numeral.read? Numeral.max64 x <;> cases Numeral.read? Numeral.max64 y <;> rfl

theorem read?_positional (c : Component) (stamp : Stamp.isStamp s = true) (hx : IsDecimal x)
    (hy : IsDecimal y) (one_line : '\n' ∉ m) :
    Layout.positional.read? (stampedLine s [c.text, x, y] m) =
      if Nat.ofDigitChars 10 x 0 ≤ Numeral.max64 ∧ Nat.ofDigitChars 10 y 0 ≤ Numeral.max64 then
        some (c.fields (Nat.ofDigitChars 10 x 0) (Nat.ofDigitChars 10 y 0) m)
      else none := by
  rw [Layout.read?, result?, run_positional c stamp hx hy one_line,
    Numeral.read?_eq_ite hx.1 hx.2, Numeral.read?_eq_ite hy.1 hy.2]
  by_cases ha : Nat.ofDigitChars 10 x 0 ≤ Numeral.max64
  · by_cases hb : Nat.ofDigitChars 10 y 0 ≤ Numeral.max64
    · rw [if_pos ha, if_pos hb, if_pos ⟨ha, hb⟩]
      simp only [Option.bind_eq_bind, Option.bind_some, threadAndProcess_eq ha hb]
      simp only [Fields.ofParts, Component.fields, Option.pure_def, Option.map_some,
        Option.bind_some, Option.bind_none, nonblank?_ofNat, apply_ite Prod.fst,
        apply_ite Prod.snd]
    · simp [hb]
  · simp [ha]

end Read

/-- Bare ids are read alike in both orders: the smaller one is the thread, unless the larger one
exceeds it more than tenfold. With an id beyond 64 bits the layout fits in neither order. -/
theorem detect_bare_ids (c : Component) {s x y m : Text} (stamp : Stamp.isStamp s = true)
    (hx : IsDecimal x) (hy : IsDecimal y) (one_line : '\n' ∉ m) :
    let line x y := stampedLine s [c.text, x, y] m
    let a := Nat.ofDigitChars 10 x 0
    let b := Nat.ofDigitChars 10 y 0
    (a ≤ Numeral.max64 → b ≤ Numeral.max64 →
      detect (line x y) = detect (line y x) ∧ detect (line x y) = c.fields a b m) ∧
    (Numeral.max64 < a ∨ Numeral.max64 < b →
      Layout.positional.read? (line x y) = none ∧
      Layout.positional.read? (line y x) = none) := by
  intro line a b
  have read := read?_positional c stamp hx hy one_line
  have read' := read?_positional c stamp hy hx one_line
  constructor
  · intro ha hb
    have found : ∀ {t f}, Opens isDigit t → Layout.positional.read? t = some f → detect t = f :=
      fun opens h => detect_of_read? (by decide) opens h (by simp [Layout.overlaps])
    have forth : detect (line x y) = c.fields a b m :=
      found (opens_stampedLine stamp _ _) (read.trans (if_pos ⟨ha, hb⟩))
    have back : detect (line y x) = c.fields b a m :=
      found (opens_stampedLine stamp _ _) (read'.trans (if_pos ⟨hb, ha⟩))
    exact ⟨by rw [forth, back, Component.fields_comm], forth⟩
  · intro large
    exact ⟨read.trans (if_neg (by omega)), read'.trans (if_neg (by omega))⟩

theorem detect_bare_ids_largest :
    let s := "2025-01-15 10:30:00.123".toList
    let line (x y : String) : Text := s ++ " [net io:07] [".toList ++ x.toList ++ "] [".toList ++
      y.toList ++ "] up ".toList
    let f : Fields :=
      { layout := .positional, level := none, moduleName := some "net io".toList,
        thread := some "18446744073709551615".toList,
        process := some "1844674407370955161".toList, sourceFile := none, sourceLine := some 7,
        message := "up".toList, extras := [] }
    detect (line "18446744073709551615" "001844674407370955161") = f ∧
    detect (line "001844674407370955161" "18446744073709551615") = f ∧
    detect (line "18446744073709551615" "1844674407370955162") =
      { f with thread := some "1844674407370955162".toList,
               process := some "18446744073709551615".toList } ∧
    Layout.positional.read? (line "18446744073709551616" "5") = none ∧
    Layout.positional.read? (line "5" "18446744073709551616") = none := by
  intro s line f
  let c : Component := {
    name := "net io".toList
    number := some "07".toList
    is_name := by simp [IsName]
    no_digit := stops_cons (by decide) _
    is_number := by
      rintro _ ⟨⟩
      exact IsDecimal.isNumeral (by simp [IsDecimal, Only]) }
  have stamp : Stamp.isStamp s = true := by decide +kernel
  have one_line : '\n' ∉ "up ".toList := by decide
  have largest : IsDecimal "18446744073709551615".toList := by simp [IsDecimal, Only]
  have tenth : IsDecimal "001844674407370955161".toList := by simp [IsDecimal, Only]
  have above_tenth : IsDecimal "1844674407370955162".toList := by simp [IsDecimal, Only]
  have beyond : IsDecimal "18446744073709551616".toList := by simp [IsDecimal, Only]
  have five : IsDecimal "5".toList := by simp [IsDecimal, Only]
  obtain ⟨alike, swapped⟩ :=
    (detect_bare_ids c stamp largest tenth one_line).1 (by decide) (by decide)
  obtain ⟨-, kept⟩ :=
    (detect_bare_ids c stamp largest above_tenth one_line).1 (by decide) (by decide)
  obtain ⟨rejected, rejected'⟩ :=
    (detect_bare_ids c stamp beyond five one_line).2 (.inl (by decide))
  exact ⟨swapped.trans (by decide +kernel), (alike.symm.trans swapped).trans (by decide +kernel),
    kept.trans (by decide +kernel), rejected, rejected'⟩

end Logbook.Line
