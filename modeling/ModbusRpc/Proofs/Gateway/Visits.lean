import ModbusRpc.Gateway.Cycle
import ModbusRpc.Proofs.Link.Lifecycle
import ModbusRpc.Proofs.Link.OneFramer
import ModbusRpc.Proofs.Rpc.Dispatch

/-! # Visits to a gateway

A request to a gateway does nothing to the link, or uses it once, with the framer of the mode. So
however many requests there are, the link stays a link for one framer, its clients are created as
the settings say, and a client is closed only by the request that cannot connect it or loses it.
-/

namespace ModbusRpc

open Link

section Alike

variable {ρ α β γ : Type} {x : Activity ρ α} {y : Activity ρ β} {z : Activity ρ γ}

/-- Two activities that do the same to a link, whatever they give and write. -/
def Alike (x : Activity ρ α) (y : Activity ρ β) : Prop :=
  ∀ l, (x l).link = (y l).link ∧ (x l).moments = (y l).moments

def Idle (x : Activity ρ α) : Prop := Alike x (pure () : Activity ρ Unit)

theorem idle_pure (a : α) : Idle (pure a : Activity ρ α) := fun _ => ⟨rfl, rfl⟩

theorem Alike.trans (h : Alike x y) (h' : Alike y z) : Alike x z := fun l =>
  ⟨(h l).1.trans (h' l).1, (h l).2.trans (h' l).2⟩

theorem alike_bind {f : α → Activity ρ β} (h : ∀ a, Idle (f a)) : Alike (x >>= f) x := by
  intro l
  obtain ⟨hl, hm⟩ := h (x l).value (x l).link
  simp [hl, hm]

theorem alike_map (f : α → β) : Alike (f <$> x) x := fun l => by simp

end Alike

namespace App

variable (s : Settings) (plan : Plan Request) (r : Http.Request)

theorem alike_answer (service : ServiceConfig) (c : Call) : Alike (answer service plan c)
    (Service.call (Link.execute service.wire plan) service.mode c.method c.params) := by
  apply alike_bind
  intro outcome
  cases outcome with
  | ok v => exact idle_pure _
  | error fault => exact fun _ => ⟨rfl, rfl⟩

theorem alike_call (w : Wire) (mode : Mode) (name : String) (ps : Option Params) :
    Idle (Service.call (Link.execute w plan) mode name ps) ∨ ∃ unit q,
      Alike (Service.call (Link.execute w plan) mode name ps)
        (Link.execute w plan (mode.framer unit) q) := by
  cases hd : Service.dispatch name (ps.getD []) with
  | error fault =>
    rw [Service.call_of_error _ hd]
    exact .inl (idle_pure _)
  | ok d =>
    rw [Service.call_of_ok _ hd]
    exact .inr ⟨_, _, alike_map _⟩

/-- A request is answered without the link, or with one use of it, framed as the mode says. -/
theorem alike_respond :
    Idle ((ofSettings s).respond plan r) ∨ ∃ unit q,
      Alike ((ofSettings s).respond plan r) (Link.execute s.wire plan (s.mode.framer unit) q) := by
  unfold respond
  cases Http.route r with
  | error response => exact .inl (idle_pure _)
  | ok resource =>
    cases resource with
    | root | health => exact .inl (idle_pure _)
    | rpc =>
      simp only [respondRpc, getService, require, ofSettings]
      cases Http.readBody r with
      | error response => exact .inl (idle_pure _)
      | ok body =>
        simp only
        cases Http.callOf body with
        | error response => exact .inl (idle_pure _)
        | ok c =>
          have ha := (alike_bind fun reply => idle_pure (Http.answered (Reply.toJson reply))).trans
            (alike_answer plan ⟨s.mode, s.wire⟩ c)
          rcases alike_call plan s.wire s.mode c.method c.params with h | ⟨unit, q, h⟩
          · exact .inl (ha.trans h)
          · exact .inr ⟨unit, q, ha.trans h⟩

end App

/-! ### Visits -/

section Visits

variable {s : Settings} {v : Visit} {vs us : List Visit} {l : Link} {n : Nat}
  {es before after : List (Event Request)}

/-- The link of a running gateway, whose events account for its state, is used with the one framer
of the mode. -/
structure Steady (s : Settings) (l : Link) (es : List (Event Request)) : Prop where
  ledger : Ledger s.wire l es
  tuned : ∀ unit, Tuned (s.mode.framer unit) l

theorem Steady.setConnected (h : Steady s l es) (on : Bool) : Steady s (l.setConnected on) es :=
  ⟨h.ledger.setConnected on, fun unit => (h.tuned unit).setConnected on⟩

theorem visit_idle_or_use (h : Steady s l es) (v : Visit) :
    let x := (App.ofSettings s).visit v l
    let m := if v.afterLoss then l.lose else l
    Steady s m es ∧ ((x.link = m ∧ x.events = []) ∨ ∃ unit q,
      let y := Link.execute s.wire v.plan (s.mode.framer unit) q m
      x.link = y.link ∧ x.events = y.events) := by
  intro x m
  have hm : Steady s m es := by
    unfold m
    split
    · exact h.setConnected false
    · exact h
  have hx : x.link = ((App.ofSettings s).respond v.plan v.request m).link ∧
      x.events = ((App.ofSettings s).respond v.plan v.request m).events := by
    unfold x m App.visit
    cases v.afterLoss <;> simp [Report.events]
  refine ⟨hm, ?_⟩
  rw [hx.1, hx.2]
  rcases App.alike_respond s v.plan v.request with hi | ⟨unit, q, hi⟩
  · exact .inl ⟨(hi m).1, congrArg (List.map Moment.event) (hi m).2⟩
  · exact .inr ⟨unit, q, (hi m).1, congrArg (List.map Moment.event) (hi m).2⟩

theorem Steady.execute (h : Steady s l es) (plan : Plan Request) (unit : Int) (q : Request) :
    let y := Link.execute s.wire plan (s.mode.framer unit) q l
    Steady s y.link (es ++ y.events) := by
  intro y
  have hl : Ledger s.wire y.link (es ++ y.events) :=
    h.ledger.course (follows_execute plan (s.mode.framer unit) q l)
  have hu := execute_use s.wire plan (s.mode.framer unit) q l
  -- The framer of a mode is the same for all units.
  exact ⟨hl, fun _ => hu.tuned hl.paired⟩

theorem Steady.visit (h : Steady s l es) (v : Visit) :
    Steady s ((App.ofSettings s).visit v l).link
      (es ++ ((App.ofSettings s).visit v l).events) := by
  obtain ⟨hm, ⟨hl, he⟩ | ⟨unit, q, hl, he⟩⟩ := visit_idle_or_use h v
  · rw [hl, he, List.append_nil]
    exact hm
  · rw [hl, he]
    exact hm.execute v.plan unit q

theorem serve_cons : ((App.ofSettings s).serve (v :: vs) l).link =
      ((App.ofSettings s).serve vs ((App.ofSettings s).visit v l).link).link ∧
    ((App.ofSettings s).serve (v :: vs) l).events = ((App.ofSettings s).visit v l).events ++
      ((App.ofSettings s).serve vs ((App.ofSettings s).visit v l).link).events := by
  simp [App.serve, Report.events]

theorem Steady.serve (h : Steady s l es) (vs : List Visit) :
    Steady s ((App.ofSettings s).serve vs l).link
      (es ++ ((App.ofSettings s).serve vs l).events) := by
  induction vs generalizing l es with
  | nil => simpa [App.serve, Report.events] using h
  | cons v vs ih =>
    rw [serve_cons.1, serve_cons.2, ← List.append_assoc]
    exact ih (h.visit v)

/-- Why a client is closed in a cycle on a new link, and all that has happened in the cycle before:
a visit has closed it, which it does last and for one of two reasons, or the gateway is stopped. -/
inductive Closing (a : App) (l : Link) (vs : List Visit) (n : Nat) :
    List (Event Request) → Prop where
  | visit {us ws : List Visit} {v : Visit} {q : Request} {before : List (Event Request)} :
      vs = us ++ v :: ws → (a.visit v (a.serve us l).link).events = before ++ [.close n] →
      ClosedFor v.plan q n before → Closing a l vs n ((a.serve us l).events ++ before)
  | stop : Closing a l vs n (a.serve vs l).events

theorem Closing.cons
    (h : Closing (App.ofSettings s) ((App.ofSettings s).visit v l).link vs n before) :
    Closing (App.ofSettings s) l (v :: vs) n
      (((App.ofSettings s).visit v l).events ++ before) := by
  cases h with
  | @visit us ws u q front hv he hc =>
    rw [← List.append_assoc, ← serve_cons.2]
    exact .visit (by rw [hv]; rfl) (by rw [serve_cons.1]; exact he) hc
  | stop =>
    rw [← serve_cons.2]
    exact .stop

end Visits

end ModbusRpc
