import ModbusRpc.Proofs.Link.Use

/-! # Why a use fails

A device fails a use when the client is created, when it is connected, or instead of an answer. Only
what it reports instead of an answer is put in terms of the link. What it reports before comes out
as it is, and a connection that is merely refused is a fault of the link itself.
-/

namespace ModbusRpc.Link

variable {ρ : Type} {w : Wire} {plan : Plan ρ} {framer : Framer} {request : ρ} {l m : Link}
  {es : List (Event ρ)} {fault fault' : DeviceFault} {v v' : Except Fault Response}

/-- The device fails a use before its request is made: a client has to be created and cannot be, or
it has to be connected and connecting fails. -/
inductive FailsToOpen (plan : Plan ρ) (framer : Framer) (l : Link) (fault : DeviceFault) :
    Prop where
  | create : ¬ l.Serves framer → plan.create = .error fault → FailsToOpen plan framer l fault
  | connect : Attempts l plan framer → plan.connect = .error fault →
      FailsToOpen plan framer l fault

inductive Ends (w : Wire) (plan : Plan ρ) (framer : Framer) (request : ρ) (l : Link) :
    Except Fault Response → Prop where
  | unopened {fault : DeviceFault} : FailsToOpen plan framer l fault →
      Ends w plan framer request l (.error (.device fault))
  | refused : Attempts l plan framer → plan.connect = .ok false →
      Ends w plan framer request l (.error (.link (.unreachable w.description)))
  | answered : Reaches l plan framer →
      Ends w plan framer request l (verdict w (plan.reply request))

theorem verdict_of_broken (h : fault.kind = .stack .connection) :
    verdict w (.error fault) = .error (.link (.broken fault.message)) := by
  simp [verdict, failure, h]

theorem Use.ends (h : Use w plan framer request l es v m) : Ends w plan framer request l v := by
  cases h with
  | uncreated hs hp _ => exact .unopened (.create hs hp)
  | unconnected _ ht hp _ _ => exact .unopened (.connect ht hp)
  | refused _ ht hp _ _ => exact .refused ht hp
  | kept _ hr _ _ => exact .answered hr
  | broken _ hr ha hk _ =>
    have he : Ends w plan framer request l (verdict w (plan.reply request)) := .answered hr
    rwa [ha, verdict_of_broken hk] at he

theorem FailsToOpen.eq (h : FailsToOpen plan framer l fault)
    (h' : FailsToOpen plan framer l fault') : fault = fault' := by
  cases h with
  | create hs hp =>
    cases h' with
    | create _ hp' => exact Except.error.inj (hp.symm.trans hp')
    | connect ht _ => cases (ht.create hs).symm.trans hp
  | connect ht hp =>
    cases h' with
    | create hs hp' => cases (ht.create hs).symm.trans hp'
    | connect _ hp' => exact Except.error.inj (hp.symm.trans hp')

theorem FailsToOpen.connect_eq (h : FailsToOpen plan framer l fault)
    (ht : ¬ l.Serves framer → plan.create = .ok ()) : plan.connect = .error fault := by
  cases h with
  | create hs hp => cases (ht hs).symm.trans hp
  | connect _ hp => exact hp

theorem FailsToOpen.not_reaches (h : FailsToOpen plan framer l fault) :
    ¬ Reaches l plan framer := by
  intro hr
  cases h with
  | create hs hp => cases (hr.create hs).symm.trans hp
  | connect ht hp => cases (hr.connect ht.idle).symm.trans hp

theorem Ends.eq (h : Ends w plan framer request l v) (h' : Ends w plan framer request l v') :
    v = v' := by
  cases h with
  | unopened hf =>
    cases h' with
    | unopened hf' => rw [hf.eq hf']
    | refused ht hp => cases (hf.connect_eq ht.create).symm.trans hp
    | answered hr => exact absurd hr hf.not_reaches
  | refused ht hp =>
    cases h' with
    | unopened hf => cases (hf.connect_eq ht.create).symm.trans hp
    | refused _ _ => rfl
    | answered hr => cases (hr.connect ht.idle).symm.trans hp
  | answered hr =>
    cases h' with
    | unopened hf => exact absurd hr hf.not_reaches
    | refused ht hp => cases (hr.connect ht.idle).symm.trans hp
    | answered _ => rfl

theorem value_execute_eq_iff :
    (execute w plan framer request l).value = v ↔ Ends w plan framer request l v := by
  have hu : Ends w plan framer request l (execute w plan framer request l).value :=
    (execute_use w plan framer request l).ends
  exact ⟨fun e => e ▸ hu, hu.eq⟩

theorem faultsAre_execute {P : Fault → Prop}
    (ho : ∀ fault, FailsToOpen plan framer l fault → P (.device fault))
    (hr : Attempts l plan framer → plan.connect = .ok false →
      P (.link (.unreachable w.description)))
    (ha : ∀ fault, Reaches l plan framer → plan.reply request = .error fault →
      P (failure w fault)) :
    FaultsAre P (execute w plan framer request l).value := by
  have he := (execute_use w plan framer request l).ends
  generalize (execute w plan framer request l).value = v at he ⊢
  cases he with
  | unopened hf => exact .error (ho _ hf)
  | refused ht hp => exact .error (hr ht hp)
  | answered hc => exact .mapError fun fault hf => ha fault hc hf

theorem failure_of_stack {kind : StackKind} (hk : fault.kind = .stack kind) :
    ∃ f, failure w fault = .link f ∧ ((Fault.link f).isModbus ∨ (Fault.link f).isSystem) := by
  unfold failure
  rw [hk]
  cases kind with
  | inputOutput => exact ⟨_, rfl, .inl rfl⟩
  | connection => exact ⟨_, rfl, .inr rfl⟩
  | general | parameter | unknownUnit | notImplemented | registration => exact ⟨_, rfl, .inl rfl⟩

theorem Ends.of_stack {kind : StackKind} (hr : Reaches l plan framer)
    (ha : plan.reply request = .error fault) (hk : fault.kind = .stack kind) :
    ∃ f, Ends w plan framer request l (.error (.link f)) ∧
      ((Fault.link f).isModbus ∨ (Fault.link f).isSystem) := by
  obtain ⟨f, hf, ht⟩ := failure_of_stack (w := w) hk
  have he : Ends w plan framer request l (verdict w (plan.reply request)) := .answered hr
  rw [ha, verdict, mapError_error, hf] at he
  exact ⟨f, he, ht⟩

theorem failure_ne_stack {kind : StackKind} (hk : fault.kind = .stack kind) :
    failure w fault' ≠ .device fault := by
  unfold failure
  split
  · simp
  · simp
  · simp
  next hn =>
    rintro ⟨⟩
    exact hn kind hk

/-- A fault of the protocol stack ends a use as it is exactly if it kept the link from being
opened. -/
theorem execute_eq_stack_iff {kind : StackKind} (hk : fault.kind = .stack kind) :
    (execute w plan framer request l).value = .error (.device fault) ↔
      FailsToOpen plan framer l fault := by
  constructor
  · refine fun h => faultsAre_execute (P := fun f => f = .device fault → _) ?_ ?_ ?_ _ h rfl
    · rintro _ hf ⟨⟩
      exact hf
    · simp
    · exact fun _ _ _ he => absurd he (failure_ne_stack hk)
  · exact fun h => value_execute_eq_iff.mpr (.unopened h)

end ModbusRpc.Link
