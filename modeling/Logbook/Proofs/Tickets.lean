import Mathlib.Algebra.Group.Nat.Defs
import Logbook.Proofs.Agreement

/-! A gate that others use while the viewer works. An evaluation has a beginning, where it takes its
ticket, and an end, and calls of clones may come in between. Tickets are numbered without a gap, so
a ticket is current exactly as long as no other one was taken. -/

namespace Logbook

theorem Gate.toNat_issue {g : Gate} (h : g.issued.toNat + 1 < 2 ^ 64) :
    g.issue.2.issued.toNat = g.issued.toNat + 1 := by
  simp [Gate.issue, UInt64.toNat_add]
  omega

namespace Viewer

variable [Regex.Engine]

def adopt (v : Viewer) (ticket : Ticket) : Viewer :=
  match v.gate.publish ticket (View.evaluate v.entries v.filter v.options) with
  | none => v
  | some view => { v with view := view, search := v.search.refresh (view.messages v.entries) }

theorem evaluate_eq_adopt (v : Viewer) : v.evaluate = v.issue.2.adopt v.issue.1 := rfl

end Viewer

namespace Action

def change? (store : Store) : Action → Option (Viewer → Viewer)
  | .setFilter input => some fun v => { v with input := input, filter := Filter.read input }
  | .setOptions options => some fun v => { v with options := options }
  | .restore key =>
    (store.savedFilter? key).map fun input v =>
      { v with input := input, filter := Filter.read input }
  | _ => none

def isFree : Action → Bool
  | .issue | .publish .. | .exchange _ => true
  | _ => false

def takesTicket [Regex.Engine] (d : Desk) : Action → Bool
  | .issue | .setFilter _ | .setOptions _ => true
  | .restore key => (d.viewer.restore key d.store).2
  | .setSearch _ | .nextHit | .previousHit | .save _ | .exchange _ | .publish .. => false

section Change

variable {store : Store} {a : Action} {change : Viewer → Viewer}

theorem gate_change (h : a.change? store = some change) (v : Viewer) :
    (change v).gate = v.gate := by
  cases a with
  | setFilter input | setOptions options =>
    cases h
    rfl
  | restore key =>
    obtain ⟨input, -, rfl⟩ := Option.map_eq_some_iff.1 h
    rfl
  | _ => contradiction

variable [Regex.Engine]

theorem step_of_change {d : Desk} (h : a.change? d.store = some change) :
    d.step a = { d with viewer := (change d.viewer).evaluate } := by
  cases a with
  | setFilter input | setOptions options =>
    cases h
    rfl
  | restore key =>
    obtain ⟨input, saved, rfl⟩ := Option.map_eq_some_iff.1 h
    simp only [Desk.step, Viewer.restore, saved, Viewer.setFilter]
  | _ => contradiction

theorem takesTicket_of_change {d : Desk} (h : a.change? d.store = some change) :
    a.takesTicket d = true := by
  cases a with
  | setFilter input | setOptions options => rfl
  | restore key =>
    obtain ⟨input, saved, -⟩ := Option.map_eq_some_iff.1 h
    simp only [takesTicket, Viewer.restore, saved]
  | _ => contradiction

end Change

end Action

/-- A desk in the midst of a run; the viewer may be evaluating, under the ticket that it took. -/
structure Shared where
  desk : Desk
  underWay : Option Ticket := none

/-- An action without interruption, or the beginning or the end of an evaluation. -/
inductive Event where
  | whole (a : Action)
  | start (a : Action)
  | finish

def Event.takesTicket [Regex.Engine] (d : Desk) : Event → Bool
  | .whole a | .start a => a.takesTicket d
  | .finish => false

namespace Shared

variable [Regex.Engine]

def load (text : Text) (setup : Viewer.Setup) (store : Store) : Shared where
  desk := { viewer := Viewer.load text setup, store := store }

def gate (s : Shared) : Gate := s.desk.viewer.gate

def step? (s : Shared) : Event → Option Shared
  | .whole a =>
    if s.underWay.isNone || a.isFree then some { s with desk := s.desk.step a } else none
  | .start a => do
    guard s.underWay.isNone
    let change ← a.change? s.desk.store
    let (ticket, v) := (change s.desk.viewer).issue
    return ⟨{ s.desk with viewer := v }, some ticket⟩
  | .finish => do
    let ticket ← s.underWay
    return ⟨{ s.desk with viewer := s.desk.viewer.adopt ticket }, none⟩

def run? (s : Shared) (events : List Event) : Option Shared := events.foldlM step? s

def tickets : Shared → List Event → List Ticket
  | _, [] => []
  | s, e :: es =>
    let later := (s.step? e).elim [] fun s' => tickets s' es
    if e.takesTicket s.desk then s.gate.issue.1 :: later else later

def Quiet : Shared → List Event → Prop
  | _, [] => True
  | s, e :: es => e.takesTicket s.desk = false ∧ ∀ s', s.step? e = some s' → s'.Quiet es

variable {s s' : Shared} {e : Event} {es : List Event}

theorem step?_whole {a : Action} {change : Viewer → Viewer} (idle : s.underWay = none)
    (h : a.change? s.desk.store = some change) :
    s.step? (.whole a) = (s.step? (.start a)).bind (·.step? .finish) := by
  simp only [step?, idle, h, Action.step_of_change h, Viewer.evaluate_eq_adopt]
  rfl

theorem gate_adopt (v : Viewer) (ticket : Ticket) : (v.adopt ticket).gate = v.gate := by
  unfold Viewer.adopt
  split <;> rfl

theorem gate_action (d : Desk) (a : Action) :
    (d.step a).viewer.gate =
      if a.takesTicket d then d.viewer.gate.issue.2 else d.viewer.gate := by
  cases change : a.change? d.store with
  | some f =>
    rw [Action.step_of_change change, Action.takesTicket_of_change change, if_pos rfl,
      Viewer.evaluate_eq_adopt, gate_adopt, ← Action.gate_change change d.viewer]
    rfl
  | none =>
    cases a with
    | setFilter input | setOptions options => contradiction
    | restore key =>
      have missing : d.store.savedFilter? key = none := Option.map_eq_none_iff.1 change
      simp only [Desk.step, Action.takesTicket, Viewer.restore, missing]
      rfl
    | _ => rfl

theorem gate_step (h : s.step? e = some s') :
    s'.gate = if e.takesTicket s.desk then s.gate.issue.2 else s.gate := by
  cases e with
  | whole a =>
    simp only [step?] at h
    split at h
    · cases h
      exact gate_action s.desk a
    · contradiction
  | start a =>
    obtain ⟨⟨⟩, -, h⟩ := Option.bind_eq_some_iff.1 h
    obtain ⟨change, found, same⟩ := Option.bind_eq_some_iff.1 h
    cases same
    have taken : Event.takesTicket s.desk (.start a) = true := Action.takesTicket_of_change found
    rw [if_pos taken, gate, gate, ← Action.gate_change found s.desk.viewer]
    rfl
  | finish =>
    obtain ⟨ticket, -, same⟩ := Option.bind_eq_some_iff.1 h
    cases same
    exact gate_adopt s.desk.viewer ticket

theorem run?_cons : s.run? (e :: es) = (s.step? e).bind (·.run? es) := List.foldlM_cons

theorem run?_append (s : Shared) (es es' : List Event) :
    s.run? (es ++ es') = (s.run? es).bind (·.run? es') := List.foldlM_append

theorem tickets_cons (h : s.step? e = some s') (es : List Event) :
    s.tickets (e :: es) =
      if e.takesTicket s.desk then s.gate.issue.1 :: s'.tickets es else s'.tickets es := by
  simp only [tickets, h, Option.elim_some]

theorem tickets_append {a : Shared} (h : s.run? es = some a) (es' : List Event) :
    s.tickets (es ++ es') = s.tickets es ++ a.tickets es' := by
  induction es generalizing s with
  | nil =>
    cases h
    rfl
  | cons e es ih =>
    rw [run?_cons] at h
    obtain ⟨b, step, rest⟩ := Option.bind_eq_some_iff.1 h
    rw [List.cons_append, tickets_cons step, tickets_cons step, ih rest]
    split <;> rfl

theorem quiet_iff (h : s.run? es = some s') : s.Quiet es ↔ s.tickets es = [] := by
  induction es generalizing s with
  | nil => exact iff_of_true trivial rfl
  | cons e es ih =>
    rw [run?_cons] at h
    obtain ⟨a, step, rest⟩ := Option.bind_eq_some_iff.1 h
    rw [Quiet, tickets_cons step, ← Bool.not_eq_true]
    split
    · next taken => simp [taken]
    · next free => simp [free, step, ih rest]

theorem numbers (h : s.run? es = some s')
    (few : s.gate.issued.toNat + (s.tickets es).length < 2 ^ 64) :
    (s.tickets es).map (·.number.toNat) =
        List.range' (s.gate.issued.toNat + 1) (s.tickets es).length ∧
      s'.gate.issued.toNat = s.gate.issued.toNat + (s.tickets es).length := by
  induction es generalizing s with
  | nil =>
    cases h
    exact ⟨rfl, rfl⟩
  | cons e es ih =>
    rw [run?_cons] at h
    obtain ⟨a, step, rest⟩ := Option.bind_eq_some_iff.1 h
    have gate := gate_step step
    rw [tickets_cons step] at few ⊢
    split at gate
    · next taken =>
      rw [if_pos taken, List.length_cons] at few ⊢
      have next : a.gate.issued.toNat = s.gate.issued.toNat + 1 := by
        rw [gate]
        exact Gate.toNat_issue (by omega)
      obtain ⟨later, last⟩ := ih rest (by omega)
      rw [List.map_cons, later, List.range'_succ, next]
      refine ⟨congrArg (· :: _) ?_, by omega⟩
      exact (congrArg (·.issued.toNat) gate).symm.trans next
    · next free =>
      rw [if_neg free] at few ⊢
      rw [← gate]
      exact ih rest (by rwa [gate])

theorem isCurrent_iff (h : s.run? es = some s')
    (few : s.gate.issued.toNat + (s.tickets es).length < 2 ^ 64) {i : Nat} {t : Ticket}
    (found : (s.tickets es)[i]? = some t) :
    s'.gate.isCurrent t = true ↔ i + 1 = (s.tickets es).length := by
  obtain ⟨all, last⟩ := numbers h few
  have number : t.number.toNat = s.gate.issued.toNat + 1 + i := by
    have entry := congrArg (·[i]?) all
    have inside := (List.getElem?_eq_some_iff.1 found).1
    rw [List.getElem?_map, found, List.getElem?_range' inside] at entry
    simpa using entry
  rw [Gate.isCurrent, decide_eq_true_iff, ← UInt64.toNat_inj, number, last]
  omega

theorem tickets_increasing (h : s.run? es = some s')
    (few : s.gate.issued.toNat + (s.tickets es).length < 2 ^ 64) :
    (s.tickets es).Pairwise fun t t' => t.compare t' = .lt := by
  have increasing : ((s.tickets es).map (·.number.toNat)).Pairwise (· < ·) := by
    rw [(numbers h few).1]
    exact List.pairwise_lt_range'
  rw [List.pairwise_map] at increasing
  refine increasing.imp fun lt => ?_
  exact compareOfLessAndEq_eq_lt.2 (UInt64.lt_iff_toNat_lt.2 lt)

end Shared

/-- A ticket is accepted for as long as no other one is taken, by a clone or by the viewer when it
evaluates its rows anew. At most one ticket is accepted at a time, one that was rejected stays
rejected, and tickets compare in the order in which they were taken. -/
theorem current_tickets [Regex.Engine] (text : Text) (setup : Viewer.Setup) (store : Store)
    (events : List Event) (s : Shared) (run : (Shared.load text setup store).run? events = some s)
    (few : 1 + ((Shared.load text setup store).tickets events).length < 2 ^ 64) :
    let first := Shared.load text setup store
    (∀ before e after a b, events = before ++ e :: after → first.run? before = some a →
      a.step? e = some b → e.takesTicket a.desk = true →
        (s.gate.isCurrent a.gate.issue.1 = true ↔ b.Quiet after) ∧
        ∀ {α : Type} (result : α),
          s.gate.publish a.gate.issue.1 result = some result ↔ b.Quiet after) ∧
    (∀ (i j : Nat) (t t' : Ticket), (first.tickets events)[i]? = some t →
      (first.tickets events)[j]? = some t' → s.gate.isCurrent t = true →
        s.gate.isCurrent t' = true → i = j) ∧
    (∀ before after a, events = before ++ after → first.run? before = some a →
      ∀ t ∈ first.tickets before, a.gate.isCurrent t = false → s.gate.isCurrent t = false) ∧
    (first.tickets events).Pairwise fun t t' => t.compare t' = .lt := by
  intro first
  have run : first.run? events = some s := run
  have few : first.gate.issued.toNat + (first.tickets events).length < 2 ^ 64 := few
  have accepted {i : Nat} {t : Ticket} (found : (first.tickets events)[i]? = some t) :
      s.gate.isCurrent t = true ↔ i + 1 = (first.tickets events).length :=
    Shared.isCurrent_iff run few found
  refine ⟨?_, ?_, ?_, Shared.tickets_increasing run few⟩
  · rintro before e after a b rfl to_a step taken
    have rest : b.run? after = some s := by
      simpa [Shared.run?_append, Shared.run?_cons, to_a, step] using run
    have all : first.tickets (before ++ e :: after) =
        first.tickets before ++ a.gate.issue.1 :: b.tickets after := by
      rw [Shared.tickets_append to_a, Shared.tickets_cons step, if_pos taken]
    have found : (first.tickets (before ++ e :: after))[(first.tickets before).length]? =
        some a.gate.issue.1 := by
      simp [all]
    have current : s.gate.isCurrent a.gate.issue.1 = true ↔ b.Quiet after := by
      rw [accepted found, all, Shared.quiet_iff rest]
      simp
    refine ⟨current, fun result => ?_⟩
    rw [← current, Gate.publish]
    split <;> simp_all
  · intro i j t t' found found' current current'
    have last := (accepted found).1 current
    have last' := (accepted found').1 current'
    omega
  · rintro before after a rfl to_a t member rejected
    have all := Shared.tickets_append to_a after
    obtain ⟨i, found⟩ := List.mem_iff_getElem?.1 member
    have inside := (List.getElem?_eq_some_iff.1 found).1
    have found' : (first.tickets (before ++ after))[i]? = some t := by
      rw [all, List.getElem?_append_left inside, found]
    have length := congrArg List.length all
    rw [List.length_append] at length
    have earlier := Shared.isCurrent_iff to_a (by omega) found
    rw [← Bool.not_eq_true] at rejected ⊢
    rw [earlier] at rejected
    rw [accepted found']
    omega

theorem current_tickets_interrupted :
    let _ : Regex.Engine := .upTo 1000
    let first := Shared.load "10:00:00.000 up".toList {} {}
    let before : List Event := [.start (.setFilter "up".toList)]
    let after : List Event :=
      [.finish, .whole (.restore "none".toList), .whole (.setSearch "u".toList), .whole .nextHit]
    let events := before ++ .whole .issue :: after
    ∃ a b s, first.run? before = some a ∧ a.step? (.whole .issue) = some b ∧
      first.run? events = some s ∧ 1 + (first.tickets events).length < 2 ^ 64 ∧
      first.tickets events = [⟨2⟩, ⟨3⟩] ∧ s.gate.isCurrent ⟨3⟩ = true ∧
      (s.gate.isCurrent ⟨3⟩ = true ↔ b.Quiet after) ∧
      b.gate.isCurrent ⟨2⟩ = false ∧ s.gate.isCurrent ⟨2⟩ = false := by
  intro _ first before after events
  have few : 1 + (first.tickets events).length < 2 ^ 64 := by decide
  obtain ⟨newest, -, rejected, -⟩ := current_tickets _ _ _ events _ rfl few
  refine ⟨_, _, _, rfl, rfl, rfl, few, by decide, by decide, ?_, by decide, ?_⟩
  · exact (newest before _ after _ _ rfl rfl rfl rfl).1
  · exact rejected (before ++ [.whole .issue]) after _ rfl rfl ⟨2⟩ (by decide) (by decide)

end Logbook
