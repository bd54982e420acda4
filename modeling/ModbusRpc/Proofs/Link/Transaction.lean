import ModbusRpc.Proofs.Link.Lifecycle

/-! # Transactions on a link

A use of a link either makes no request, and fails, or makes one, which the device hears on a
connected client for the right framer. What the device answers decides how the use ends.
-/

namespace ModbusRpc

variable {ρ : Type}

def Event.asked? : Event ρ → Option ρ
  | request _ r => some r
  | _ => none

namespace Link

variable {w : Wire} {plan : Plan ρ} {framer : Framer} {request : ρ} {l s : Link} {c : Client}
  {before : List (Moment ρ)} {r : Report ρ (Except Fault Response)}

/-- What happens up to the request of a use: the client is ready from the start, or is connected
without any failure. -/
structure Ready (w : Wire) (plan : Plan ρ) (framer : Framer) (l : Link) (before : List (Moment ρ))
    (s : Link) (c : Client) : Prop where
  client : s.client = some c
  framer_eq : s.framer = some framer
  connected : c.connected = true
  course : Course w l before s
  silent : ∀ m ∈ before, m.event.asked? = none
  created : ∀ m ∈ before, ∀ options n, m.event = .create options n → plan.create = .ok ()
  reached : (l.client = some c ∧ before = []) ∨
    ((∃ m ∈ before, m.event = .connect c.number) ∧ plan.connect = .ok true)

/-- A use that makes its request at the link `s`, after `before`. -/
structure Asks (w : Wire) (plan : Plan ρ) (framer : Framer) (request : ρ) (l : Link)
    (r : Report ρ (Except Fault Response)) (before : List (Moment ρ)) (s : Link) (c : Client) :
    Prop extends Ready w plan framer l before s c where
  value : r.value = verdict w (plan.reply request)
  link : r.link = ((heed w (plan.reply request) : Activity ρ Unit) s).link
  moments : r.moments = before ++ ⟨s, .request c.number request⟩ :: ⟨s, .reply c.number⟩ ::
    ((heed w (plan.reply request) : Activity ρ Unit) s).moments

structure Silent (plan : Plan ρ) (r : Report ρ (Except Fault Response)) : Prop where
  cause : plan.create ≠ .ok () ∨ plan.connect ≠ .ok true
  failed : ∃ fault, r.value = .error fault
  silent : ∀ m ∈ r.moments, m.event.asked? = none

theorem closeClient_silent :
    ∀ m ∈ ((closeClient w : Activity ρ Unit) l).moments, ∃ n, m.event = .close n := by
  cases hc : l.client with
  | none => simp [closeClient_of_none hc]
  | some c => simp [closeClient_of_some hc]

theorem heed_silent (answer : Except DeviceFault Response) :
    ∀ m ∈ ((heed w answer : Activity ρ Unit) l).moments, ∃ n, m.event = .close n := by
  cases answer with
  | ok r => simp [heed]
  | error fault =>
    by_cases hk : fault.kind = .stack .connection
    · obtain ⟨logs, hh⟩ := heed_of_broken (ρ := ρ) (w := w) (l := l) hk
      rw [hh]
      exact closeClient_silent
    · rw [heed_of_kept (by simpa using hk)]
      simp

theorem silent_of_close {m : Moment ρ} (h : ∃ n, m.event = .close n) : m.event.asked? = none := by
  obtain ⟨n, h⟩ := h
  rw [h]
  rfl

variable (w plan framer request l)

theorem execute_of_connected (hc : l.client = some c) (hf : l.framer = some framer)
    (hb : c.connected = true) :
    Asks w plan framer request l (execute w plan framer request l) [] l c := by
  have ha := arrive_of_connected w plan request hc hf hb
  refine ⟨⟨hc, hf, hb, .nil l, by simp, by simp, .inl ⟨hc, rfl⟩⟩, ?_, ?_, ?_⟩ <;>
    simp [execute, ha, settle_of_client hc]

variable {l} in
theorem execute_of_connection {logs : List LogRecord}
    (ha : arrive w plan framer request l = ⟨.ok .connection, s, before, logs⟩)
    (hc : s.client = some c) (hf : s.framer = some framer)
    (hs : ∀ m ∈ before, m.event.asked? = none)
    (ho : ∀ m ∈ before, ∀ options n, m.event = .create options n → plan.create = .ok ())
    (hm : ∃ m ∈ before, m.event = .connect c.number) :
    (∃ s c, Asks w plan framer request l (execute w plan framer request l) before s c) ∨
      Silent plan (execute w plan framer request l) := by
  cases hp : plan.connect with
  | error fault =>
    right
    refine ⟨.inr (by simp [hp]), ?_, ?_⟩ <;>
      simp [execute, ha, resume_of_connect_error w plan request hp]
    exact hs
  | ok connected =>
    cases connected with
    | false =>
      right
      obtain ⟨_, hr⟩ := resume_of_refused w plan request (l := s) hp
      refine ⟨.inr (by simp [hp]), ?_, ?_⟩
      · simp [execute, ha, hr]
      · intro m hm
        simp only [execute, ha, hr, Activity.bind_apply, Activity.pure_apply, List.append_nil,
          List.mem_append] at hm
        exact hm.elim (hs m) fun hm => silent_of_close (closeClient_silent m hm)
    | true =>
      left
      obtain ⟨_, hr⟩ := resume_of_connected w plan request hc hp
      have hc' : (s.setConnected true).client = some { c with connected := true } :=
        client_setConnected hc
      have hk : Course w l before (s.setConnected true) := by
        have h := follows_arrive (w := w) plan framer request l
        rw [ha] at h
        simpa using h.append (Change.turns true).course
      refine ⟨s.setConnected true, { c with connected := true },
        ⟨hc', hf, rfl, hk, hs, ho, .inr ⟨hm, hp⟩⟩, ?_, ?_, ?_⟩ <;>
        simp [execute, ha, hr, settle_of_client hc']

theorem execute_asks_or_silent :
    (∃ before s c, Asks w plan framer request l (execute w plan framer request l) before s c) ∨
      Silent plan (execute w plan framer request l) := by
  by_cases hs : l.Serves framer
  · obtain ⟨c, hc⟩ := Option.isSome_iff_exists.mp hs.1
    cases hb : c.connected with
    | true => exact .inl ⟨[], l, c, execute_of_connected w plan framer request l hc hs.2 hb⟩
    | false =>
      obtain ⟨logs, ha⟩ := arrive_of_lost w plan request hc hs.2 hb
      refine (execute_of_connection w plan framer request ha hc hs.2 ?_ ?_ ?_).imp_left
        fun h => ⟨_, h⟩
      all_goals simp [Event.asked?]
  · cases hp : plan.create with
    | error fault =>
      right
      obtain ⟨logs, ha⟩ := arrive_of_create_error w plan request hs hp
      refine ⟨.inl (by simp [hp]), ?_, ?_⟩
      · simp [execute, ha]
      · intro m hm
        simp only [execute, ha, Activity.bind_apply, Activity.pure_apply, List.append_nil,
          List.mem_append, List.mem_singleton] at hm
        rcases hm with hm | rfl
        · exact silent_of_close (closeClient_silent m hm)
        · rfl
    | ok _ =>
      obtain ⟨logs, ha⟩ := arrive_of_create_ok w plan request hs hp
      refine (execute_of_connection w plan framer request ha client_renew framer_renew
        ?_ (fun _ _ _ _ _ => hp) ?_).imp_left fun h => ⟨_, h⟩
      · intro m hm
        simp only [List.mem_append, List.mem_cons, List.not_mem_nil, or_false] at hm
        rcases hm with hm | rfl | rfl
        · exact silent_of_close (closeClient_silent m hm)
        · rfl
        · rfl
      · refine ⟨⟨((closeClient w : Activity ρ Unit) l).link.renew framer, .connect l.created⟩,
          by simp, ?_⟩
        rw [created_closeClient]

variable {w plan framer request l}

theorem Asks.events_asked (h : Asks w plan framer request l r before s c) :
    r.events.filterMap Event.asked? = [request] := by
  have hb : before.filterMap (Event.asked? ∘ Moment.event) = [] :=
    List.filterMap_eq_nil_iff.mpr h.silent
  have ha : ((heed w (plan.reply request) : Activity ρ Unit) s).moments.filterMap
      (Event.asked? ∘ Moment.event) = [] :=
    List.filterMap_eq_nil_iff.mpr fun m hm => silent_of_close (heed_silent _ m hm)
  simp only [Report.events, h.moments, List.map_append, List.map_cons, List.filterMap_append,
    List.filterMap_cons, List.filterMap_map, Event.asked?, hb, ha, List.nil_append]

theorem Silent.events_asked (h : Silent plan r) : r.events.filterMap Event.asked? = [] := by
  rw [Report.events, List.filterMap_map]
  exact List.filterMap_eq_nil_iff.mpr h.silent

theorem Asks.mem_moments (h : Asks w plan framer request l r before s c) {m : Moment ρ}
    (hm : m ∈ r.moments) : m ∈ before ∨ m.event = .request c.number request ∨
      m.event = .reply c.number ∨ ∃ n, m.event = .close n := by
  rw [h.moments, List.mem_append, List.mem_cons, List.mem_cons] at hm
  rcases hm with hm | rfl | rfl | hm
  · exact .inl hm
  · exact .inr (.inl rfl)
  · exact .inr (.inr (.inl rfl))
  · exact .inr (.inr (.inr (heed_silent _ m hm)))

/-- A use has only one moment at which it makes a request. -/
theorem Asks.moment_unique (h : Asks w plan framer request l r before s c)
    {before' after : List (Moment ρ)} {m : Moment ρ} (hm : r.moments = before' ++ m :: after)
    (ha : m.event.asked?.isSome) : before' = before ∧ m = ⟨s, .request c.number request⟩ := by
  rw [h.moments] at hm
  rcases List.append_eq_append_iff.mp hm with ⟨ns, hb, hn⟩ | ⟨ns, hb, hn⟩
  · cases ns with
    | nil => exact ⟨by simpa using hb, (List.cons.inj hn).1.symm⟩
    | cons n ns =>
      have hm' : m ∈ (⟨s, .reply c.number⟩ : Moment ρ) ::
          ((heed w (plan.reply request) : Activity ρ Unit) s).moments := by
        rw [(List.cons.inj hn).2]
        simp
      rcases List.mem_cons.mp hm' with rfl | hm'
      · simp [Event.asked?] at ha
      · simp [silent_of_close (heed_silent _ m hm')] at ha
  · cases ns with
    | nil => exact ⟨by simpa using hb.symm, (List.cons.inj hn).1⟩
    | cons n ns =>
      have hm' : m ∈ before := by simp [hb, (List.cons.inj hn).1]
      simp [h.silent m hm'] at ha

theorem Asks.create_ok (h : Asks w plan framer request l r before s c) {options : ClientOptions}
    {n : Option Nat} (he : .create options n ∈ r.events) : plan.create = .ok () := by
  obtain ⟨m, hm, he⟩ := List.mem_map.mp he
  rcases h.mem_moments hm with hm | hm | hm | ⟨_, hm⟩
  · exact h.created m hm options n he
  all_goals simp [hm] at he

theorem Asks.connect_ok (h : Asks w plan framer request l r before s c) {n : Nat}
    (he : .connect n ∈ r.events) : plan.connect = .ok true := by
  obtain ⟨m, hm, he⟩ := List.mem_map.mp he
  rcases h.mem_moments hm with hm | hm | hm | ⟨_, hm⟩
  · rcases h.reached with ⟨_, rfl⟩ | ⟨_, hp⟩
    · cases hm
    · exact hp
  all_goals simp [hm] at he

theorem Ready.history {es : List (Event ρ)} (h : Ready w plan framer l before s c)
    (hl : Ledger w l es) :
    (∀ options, .create options (some c.number) ∈ es ++ before.map Moment.event ↔
      options.wire = w ∧ options.framer = framer ∧ options.retries = 0) ∧
    .close c.number ∉ es ++ before.map Moment.event :=
  have hs := hl.course h.course
  ⟨hs.create_iff h.client h.framer_eq, hs.not_closed h.client⟩

theorem Ready.eq (h : Ready w plan framer l before s c) : c = ⟨c.number, true⟩ := by
  rw [← h.connected]

variable (w plan framer request)

/-- Every use makes at most one request, one if a client can be created and connected, and none if
it fails to create or to connect one. The request is the caller's own, made on the client of the
link while that is connected, has not been closed, and was created for the framer asked for; unless
the use found it connected, the use has connected it. -/
theorem execute_request_on_open_link (jobs : List (Job ρ)) :
    let h := inTurn (some w) jobs {}
    let r := execute w plan framer request h.link
    (r.events.filterMap Event.asked?).length ≤ 1 ∧
    (plan.create = .ok () → plan.connect = .ok true →
      r.events.filterMap Event.asked? = [request]) ∧
    (∀ options n, .create options n ∈ r.events → plan.create ≠ .ok () →
      r.events.filterMap Event.asked? = []) ∧
    (∀ n, .connect n ∈ r.events → plan.connect ≠ .ok true →
      r.events.filterMap Event.asked? = []) ∧
    ∀ before s n q after, r.moments = before ++ ⟨s, .request n q⟩ :: after →
      let past := h.events ++ before.map Moment.event
      q = request ∧ s.client = some ⟨n, true⟩ ∧ s.framer = some framer ∧
      (∀ options, .create options (some n) ∈ past ↔
        options.wire = w ∧ options.framer = framer ∧ options.retries = 0) ∧
      .close n ∉ past ∧
      (h.link.client = some ⟨n, true⟩ ∨
        (.connect n ∈ before.map Moment.event ∧ plan.connect = .ok true)) := by
  intro h r
  have hl : Ledger w h.link h.events := ledger_inTurn w jobs
  rcases execute_asks_or_silent w plan framer request h.link with ⟨before, s, c, ha⟩ | hs
  · refine ⟨by simp [r, ha.events_asked], fun _ _ => ha.events_asked, ?_, ?_, ?_⟩
    · intro options n he hp
      exact absurd (ha.create_ok he) hp
    · intro n he hp
      exact absurd (ha.connect_ok he) hp
    · intro before' s' n q after he
      obtain ⟨rfl, hm⟩ := ha.moment_unique he rfl
      simp only [Moment.mk.injEq, Event.request.injEq] at hm
      obtain ⟨rfl, rfl, rfl⟩ := hm
      obtain ⟨ho, hn⟩ := ha.history hl
      refine ⟨rfl, ha.eq ▸ ha.client, ha.framer_eq, ho, hn, ?_⟩
      rcases ha.reached with ⟨hc, _⟩ | ⟨⟨m, hm, he⟩, hp⟩
      · exact .inl (ha.eq ▸ hc)
      · exact .inr ⟨List.mem_map.mpr ⟨m, hm, he⟩, hp⟩
  · have hn : r.events.filterMap Event.asked? = [] := hs.events_asked
    refine ⟨by simp [hn], ?_, fun _ _ _ _ => hn, fun _ _ _ => hn, ?_⟩
    · intro hp hp'
      exact hs.cause.elim (absurd hp) (absurd hp')
    · intro before s n q after he
      have hm := hs.silent ⟨s, .request n q⟩ (by rw [he]; simp)
      cases hm

end Link

end ModbusRpc
