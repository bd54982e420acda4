import ModbusRpc.Proofs.Gateway.Visits

/-! # Cycles of a gateway

All clients of a gateway are created as its settings say. In each cycle they are closed once: when
connecting them is refused, when their connection breaks, or at the end. So no client outlives its
cycle, and none is closed to make room for another framer.
-/

namespace ModbusRpc

open Link

variable {s : Settings} {log : Log} {vs : List Visit} {l : Link} {n : Nat}
  {es before after : List (Event Request)}

/-- Between cycles a link has no client. -/
structure Resting (s : Settings) (l : Link) (es : List (Event Request)) : Prop extends
    Steady s l es where
  client : l.client = none

theorem Resting.fresh (h : Resting s l es) : l.fresh = l := by
  have hf : l.framer = none := by
    rw [← Option.isNone_iff_eq_none, ← Option.not_isSome, h.ledger.paired, h.client]
    rfl
  obtain ⟨c, f, k⟩ := l
  obtain rfl : c = none := h.client
  obtain rfl : f = none := hf
  rfl

theorem stop_apply (s : Settings) (l : Link) :
    ((App.ofSettings s).stop l).link = ((closeClient s.wire : Activity Request Unit) l).link ∧
      ((App.ofSettings s).stop l).moments =
        ((closeClient s.wire : Activity Request Unit) l).moments := by
  simp [App.stop, App.closeLink, App.ofSettings]

theorem Steady.stop (h : Steady s l es) : Resting s ((App.ofSettings s).stop l).link
    (es ++ ((App.ofSettings s).stop l).events) := by
  have hc : ((App.ofSettings s).stop l).link.client = none := by
    rw [(stop_apply s l).1, client_closeClient]
  have hl : Ledger s.wire ((App.ofSettings s).stop l).link
      (es ++ ((App.ofSettings s).stop l).events) := by
    rw [Report.events, (stop_apply s l).1, (stop_apply s l).2]
    exact h.ledger.course (follows_closeClient l)
  refine ⟨⟨hl, fun unit => ⟨hl.paired, fun other ho => ?_⟩⟩, hc⟩
  have hf := hl.paired
  rw [ho, hc] at hf
  cases hf

theorem cycle_idle_or_serve (log : Log) (s : Settings) (vs : List Visit) (l : Link) :
    let c := App.cycle log s vs l
    let x := (App.ofSettings s).serve vs l.fresh
    let y := (App.ofSettings s).stop x.link
    (c.link = l ∧ c.events = []) ∨ (c.link = y.link ∧ c.events = x.events ++ y.events) := by
  intro c x y
  unfold c App.cycle App.start
  cases hl : log.setup s.logLevel with
  | mk log' level =>
    cases level with
    | error fault => exact .inl ⟨rfl, rfl⟩
    | ok _ => exact .inr ⟨rfl, by simp [x, y, Report.events]⟩

theorem Resting.cycle (h : Resting s l es) (log : Log) (vs : List Visit) :
    Resting s (App.cycle log s vs l).link (es ++ (App.cycle log s vs l).events) := by
  rcases cycle_idle_or_serve log s vs l with ⟨hl, he⟩ | ⟨hl, he⟩
  · rw [hl, he, List.append_nil]
    exact h
  · rw [hl, he, h.fresh, ← List.append_assoc]
    exact (h.toSteady.serve vs).stop

theorem Resting.cycles (h : Resting s l es) (log : Log) (past : List (List Visit)) :
    Resting s (App.cycles s log past l).link (es ++ (App.cycles s log past l).events) := by
  induction past generalizing l es log with
  | nil => simpa [App.cycles, Report.events] using h
  | cons vs past ih =>
    simpa [App.cycles, Report.events] using ih (h.cycle log vs) _

end ModbusRpc
