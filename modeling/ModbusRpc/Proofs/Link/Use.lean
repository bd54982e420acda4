import ModbusRpc.Proofs.Link.Sections
import ModbusRpc.Proofs.Success

/-! # What a use does

A use opens the link as far as it has to, asks, and hears. How far it gets tells what happens in it,
how it ends, and which client it leaves on the link.
-/

namespace ModbusRpc.Link

variable {ρ : Type} {w : Wire} {plan : Plan ρ} {framer : Framer} {request : ρ} {l s : Link}
  {n : Nat} {opening : List (Event ρ)}

/-- What a use does before it asks client `n`, if nothing fails. -/
inductive Opening (w : Wire) (framer : Framer) (l : Link) : List (Event ρ) → Nat → Prop where
  | ready {n : Nat} : l.client = some ⟨n, true⟩ → l.framer = some framer → Opening w framer l [] n
  | lost {n : Nat} : l.client = some ⟨n, false⟩ → l.framer = some framer →
      Opening w framer l [.connect n] n
  | absent : l.client = none →
      Opening w framer l [.create ⟨w, framer, 0⟩ (some l.created), .connect l.created] l.created
  | replaced {c : Client} : l.client = some c → l.framer ≠ some framer →
      Opening w framer l [.close c.number, .create ⟨w, framer, 0⟩ (some l.created),
        .connect l.created] l.created

/-- A use that gets a client, which it has to connect. -/
structure Attempts (l : Link) (plan : Plan ρ) (framer : Framer) : Prop where
  create : ¬ l.Serves framer → plan.create = .ok ()
  idle : ¬ (l.Serves framer ∧ l.connected = true)

/-- A use that gets a connected client: creating one succeeds if the link has none for the framer,
and connecting it if it is not connected. -/
structure Reaches (l : Link) (plan : Plan ρ) (framer : Framer) : Prop where
  create : ¬ l.Serves framer → plan.create = .ok ()
  connect : ¬ (l.Serves framer ∧ l.connected = true) → plan.connect = .ok true

structure Keeps (framer : Framer) (request : ρ) (opening : List (Event ρ)) (n : Nat)
    (es : List (Event ρ)) (m : Link) : Prop where
  client : m.client = some ⟨n, true⟩
  framer_eq : m.framer = some framer
  events : es = opening ++ [.request n request, .reply n]

structure Drops (request : ρ) (opening : List (Event ρ)) (n : Nat) (es : List (Event ρ))
    (m : Link) : Prop where
  client : m.client = none
  framer_eq : m.framer = none
  events : es = opening ++ [.request n request, .reply n, .close n]

/-- The events of a use, its end, and the link that it leaves, by where it fails. -/
inductive Use (w : Wire) (plan : Plan ρ) (framer : Framer) (request : ρ) (l : Link) :
    List (Event ρ) → Except Fault Response → Link → Prop where
  | uncreated {fault : DeviceFault} {m : Link} : ¬ l.Serves framer → plan.create = .error fault →
      m.client = none →
      Use w plan framer request l
        ((l.client.toList.map fun c => .close c.number) ++ [.create ⟨w, framer, 0⟩ none])
        (.error (.device fault)) m
  | unconnected {opening : List (Event ρ)} {n : Nat} {fault : DeviceFault} {m : Link} :
      Opening w framer l opening n → Attempts l plan framer → plan.connect = .error fault →
      m.client = some ⟨n, false⟩ → m.framer = some framer →
      Use w plan framer request l opening (.error (.device fault)) m
  | refused {opening : List (Event ρ)} {n : Nat} {m : Link} :
      Opening w framer l opening n → Attempts l plan framer → plan.connect = .ok false →
      m.client = none → m.framer = none →
      Use w plan framer request l (opening ++ [.close n])
        (.error (.link (.unreachable w.description))) m
  | kept {opening es : List (Event ρ)} {n : Nat} {m : Link} :
      Opening w framer l opening n → Reaches l plan framer →
      (∀ fault, plan.reply request = .error fault → fault.kind ≠ .stack .connection) →
      Keeps framer request opening n es m →
      Use w plan framer request l es (verdict w (plan.reply request)) m
  | broken {opening es : List (Event ρ)} {n : Nat} {fault : DeviceFault} {m : Link} :
      Opening w framer l opening n → Reaches l plan framer → plan.reply request = .error fault →
      fault.kind = .stack .connection → Drops request opening n es m →
      Use w plan framer request l es (.error (.link (.broken fault.message))) m

theorem events_closeClient :
    ((closeClient w : Activity ρ Unit) l).moments.map Moment.event =
      l.client.toList.map fun c => .close c.number := by
  cases hc : l.client with
  | none => simp [closeClient_of_none hc]
  | some c => simp [closeClient_of_some hc]

variable (request) in
/-- From the request on, if it is made at the link `s`. -/
theorem use_of_asked (ho : Opening w framer l opening n) (hr : Reaches l plan framer)
    (hc : s.client = some ⟨n, true⟩) (hf : s.framer = some framer) :
    let r := settle w plan request s
    Use w plan framer request l (opening ++ .request n request :: r.events) r.value r.link := by
  intro r
  by_cases hb : ∃ fault, plan.reply request = .error fault ∧ fault.kind = .stack .connection
  · obtain ⟨fault, ha, hk⟩ := hb
    obtain ⟨logs, hh⟩ := heed_of_broken (ρ := ρ) (w := w) (l := s) hk
    have he : r.events = [.reply n, .close n] := by
      simp [r, Report.events, settle_of_client hc, ha, hh, closeClient_of_some hc]
    have hv : r.value = .error (.link (.broken fault.message)) := by
      simp [r, settle_of_client hc, ha, verdict, failure, hk]
    rw [hv]
    refine .broken ho hr ha hk ⟨?_, ?_, by rw [he]⟩ <;>
      simp [r, settle_of_client hc, ha, hh, closeClient_of_some hc]
  · have hn : ∀ fault, plan.reply request = .error fault → fault.kind ≠ .stack .connection :=
      fun fault ha hk => hb ⟨fault, ha, hk⟩
    have hh : (heed w (plan.reply request) : Activity ρ Unit) s = ⟨(), s, [], []⟩ := heed_of_kept hn
    have he : r.events = [.reply n] := by simp [r, Report.events, settle_of_client hc, hh]
    have hv : r.value = verdict w (plan.reply request) := by simp [r, settle_of_client hc]
    rw [hv]
    refine .kept ho hr hn ⟨?_, ?_, by rw [he]⟩ <;> simp [r, settle_of_client hc, hh, hc, hf]

theorem use_of_connection {ms : List (Moment ρ)} {logs : List LogRecord}
    (ha : arrive w plan framer request l = ⟨.ok .connection, s, ms, logs⟩)
    (ho : Opening w framer l (ms.map Moment.event) n) (ht : Attempts l plan framer)
    (hc : s.client = some ⟨n, false⟩) (hf : s.framer = some framer) :
    let r := execute w plan framer request l
    Use w plan framer request l r.events r.value r.link := by
  intro r
  cases hp : plan.connect with
  | error fault =>
    have hr : r = ⟨.error (.device fault), s, ms, logs⟩ := by
      simp [r, execute, ha, resume_of_connect_error w plan request hp]
    rw [hr]
    exact .unconnected ho ht hp hc hf
  | ok connected =>
    cases connected with
    | false =>
      obtain ⟨logs', hs⟩ := resume_of_refused w plan request (l := s) hp
      have he : r.events = ms.map Moment.event ++ [.close n] := by
        simp [r, Report.events, execute, ha, hs, closeClient_of_some hc]
      have hv : r.value = .error (.link (.unreachable w.description)) := by
        simp [r, execute, ha, hs]
      rw [he, hv]
      refine .refused ho ht hp ?_ ?_ <;> simp [r, execute, ha, hs, closeClient_of_some hc]
    | true =>
      obtain ⟨logs', hs⟩ := resume_of_connected w plan request hc hp
      have hc' : (s.setConnected true).client = some ⟨n, true⟩ := client_setConnected hc
      have hu := use_of_asked request ho ⟨ht.create, fun _ => hp⟩ hc' hf
      simpa [r, execute, ha, hs, Report.events] using hu

variable (w plan framer request l)

theorem execute_use :
    let r := execute w plan framer request l
    Use w plan framer request l r.events r.value r.link := by
  intro r
  by_cases hs : l.Serves framer
  · obtain ⟨⟨n, connected⟩, hc⟩ := Option.isSome_iff_exists.mp hs.1
    have hl : l.connected = connected := by simp [Link.connected, hc]
    cases connected with
    | true =>
      have ha := arrive_of_connected w plan request hc hs.2 rfl
      have hr : Reaches l plan framer := ⟨fun hn => absurd hs hn, fun hn => absurd ⟨hs, hl⟩ hn⟩
      have hu := use_of_asked request (Opening.ready (w := w) hc hs.2) hr hc hs.2
      simpa [r, execute, ha, Report.events] using hu
    | false =>
      obtain ⟨logs, ha⟩ := arrive_of_lost w plan request hc hs.2 rfl
      have ht : Attempts l plan framer := ⟨fun hn => absurd hs hn, by simp [hl]⟩
      exact use_of_connection ha (.lost hc hs.2) ht hc hs.2
  · cases hp : plan.create with
    | error fault =>
      obtain ⟨logs, ha⟩ := arrive_of_create_error w plan request hs hp
      have he : r.events = (l.client.toList.map fun c => .close c.number) ++
          [.create ⟨w, framer, 0⟩ none] := by
        simp [r, Report.events, execute, ha, ← events_closeClient (w := w)]
      have hv : r.value = .error (.device fault) := by simp [r, execute, ha]
      rw [he, hv]
      refine .uncreated hs hp ?_
      simp [r, execute, ha, client_closeClient]
    | ok _ =>
      obtain ⟨logs, ha⟩ := arrive_of_create_ok w plan request hs hp
      have ht : Attempts l plan framer := ⟨fun _ => hp, fun hn => hs hn.1⟩
      refine use_of_connection (n := l.created) ha ?_ ht ?_ framer_renew
      · cases hc : l.client with
        | none => simpa [closeClient_of_none hc] using Opening.absent hc
        | some c =>
          have hf : l.framer ≠ some framer := fun e => hs (serves_of_client hc e)
          simpa [closeClient_of_some hc] using Opening.replaced hc hf
      · rw [client_renew, created_closeClient]

variable {w plan framer request l} {es : List (Event ρ)} {v : Except Fault Response} {m : Link}

namespace Use

theorem opens (h : Use w plan framer request l es v m)
    (hp : ¬ l.Serves framer → plan.create = .ok ()) :
    ∃ opening n, Opening w framer l opening n ∧ opening <+: es := by
  cases h with
  | uncreated hs hp' _ => cases (hp hs).symm.trans hp'
  | unconnected ho _ _ _ _ => exact ⟨_, _, ho, List.prefix_rfl⟩
  | refused ho _ _ _ _ => exact ⟨_, _, ho, List.prefix_append _ _⟩
  | kept ho _ _ hk => exact ⟨_, _, ho, hk.events ▸ List.prefix_append _ _⟩
  | broken ho _ _ _ hd => exact ⟨_, _, ho, hd.events ▸ List.prefix_append _ _⟩

theorem of_create_error (h : Use w plan framer request l es v m) (hs : ¬ l.Serves framer)
    {fault : DeviceFault} (hp : plan.create = .error fault) :
    es = (l.client.toList.map fun c => .close c.number) ++ [.create ⟨w, framer, 0⟩ none] ∧
      v = .error (.device fault) := by
  cases h with
  | uncreated _ hp' _ =>
    cases hp'.symm.trans hp
    exact ⟨rfl, rfl⟩
  | unconnected _ ht _ _ _ | refused _ ht _ _ _ => cases (ht.create hs).symm.trans hp
  | kept _ hr _ _ | broken _ hr _ _ _ => cases (hr.create hs).symm.trans hp

theorem of_request (h : Use w plan framer request l es v m) {q : ρ} (hq : .request n q ∈ es) :
    Reaches l plan framer := by
  cases h with
  | uncreated _ _ _ => simp at hq
  | unconnected ho _ _ _ _ => cases ho <;> simp at hq
  | refused ho _ _ _ _ => cases ho <;> simp at hq
  | kept _ hr _ _ => exact hr
  | broken _ hr _ _ _ => exact hr

/-- Once a client is connected, only the answer decides. -/
theorem of_reaches (h : Use w plan framer request l es v m) (hr : Reaches l plan framer) :
    ∃ opening n, Opening w framer l opening n ∧
      (((∀ fault, plan.reply request = .error fault → fault.kind ≠ .stack .connection) ∧
          v = verdict w (plan.reply request) ∧ Keeps framer request opening n es m) ∨
        ∃ fault, plan.reply request = .error fault ∧ fault.kind = .stack .connection ∧
          v = .error (.link (.broken fault.message)) ∧ Drops request opening n es m) := by
  cases h with
  | uncreated hs hp _ => cases (hr.create hs).symm.trans hp
  | unconnected _ ht hp _ _ => cases (hr.connect ht.idle).symm.trans hp
  | refused _ ht hp _ _ => cases (hr.connect ht.idle).symm.trans hp
  | kept ho _ hn hk => exact ⟨_, _, ho, .inl ⟨hn, rfl, hk⟩⟩
  | broken ho _ ha hk hd => exact ⟨_, _, ho, .inr ⟨_, ha, hk, rfl, hd⟩⟩

end Use

end ModbusRpc.Link
