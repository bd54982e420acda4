import Mathlib.Data.List.Nodup
import Mathlib.Data.List.Pairwise
import ModbusRpc.Proofs.Link.Course

/-! # The life of clients

The events on a link account for its state at any time: its client is the last one that was created,
all others have been closed once, in the order of their numbers, and nothing is done to a client
that has been closed. A link remembers the framer of its client exactly as long as it has one.
-/

namespace ModbusRpc

variable {ρ : Type}

namespace Event

def opened? : Event ρ → Option Nat
  | create _ number => number
  | _ => none

def closed? : Event ρ → Option Nat
  | close number => some number
  | _ => none

/-- The client that an event is about. -/
def client? : Event ρ → Option Nat
  | create _ number => number
  | connect number | request number _ | reply number | close number => some number

end Event

namespace Link

variable {w : Wire} {l m : Link} {es : List (Event ρ)} {ms : List (Moment ρ)} {e : Event ρ}

def Opened (es : List (Event ρ)) (n : Nat) : Prop := ∃ options, .create options (some n) ∈ es

def closings (es : List (Event ρ)) (n : Nat) : Nat := (es.filterMap Event.closed?).count n

def Has (l : Link) (n : Nat) : Prop := ∃ c, l.client = some c ∧ c.number = n

/-- How many clients a link no longer has. -/
def retired (l : Link) : Nat := if l.client.isSome then l.created - 1 else l.created

/-- The events so far account for the state of a link. -/
structure Ledger (w : Wire) (l : Link) (es : List (Event ρ)) : Prop where
  paired : l.framer.isSome = l.client.isSome
  latest : ∀ c, l.client = some c → l.created = c.number + 1
  opened : es.filterMap Event.opened? = List.range l.created
  closed : es.filterMap Event.closed? = List.range l.retired
  framed : ∀ c framer, l.client = some c → l.framer = some framer →
    .create ⟨w, framer, 0⟩ (some c.number) ∈ es
  quiet : es.Pairwise fun a b => ∀ n, a.closed? = some n → b.client? ≠ some n

@[simp] theorem retired_renew {framer : Framer} : (l.renew framer).retired = l.created := rfl
@[simp] theorem retired_forget : l.forget.retired = l.created := rfl

@[simp] theorem retired_setConnected {on : Bool} : (l.setConnected on).retired = l.retired := by
  simp [retired, setConnected]

theorem retired_of_none (hn : l.client = none) : l.retired = l.created := by simp [retired, hn]

theorem ledger_new : Ledger w {} ([] : List (Event ρ)) := by
  constructor <;> simp [retired]

namespace Ledger

theorem retired_of_client (h : Ledger w l es) {c : Client} (hc : l.client = some c) :
    l.retired = c.number := by
  simp [retired, hc, h.latest c hc]

theorem quiet_concat (h : Ledger w l es) (he : ∀ n, e.client? = some n → l.retired ≤ n) :
    (es ++ [e]).Pairwise fun a b => ∀ n, a.closed? = some n → b.client? ≠ some n := by
  refine List.pairwise_append.mpr ⟨h.quiet, List.pairwise_singleton _ _, ?_⟩
  intro a ha b hb n hn hc
  obtain rfl := List.mem_singleton.mp hb
  have hr : n ∈ List.range l.retired := h.closed ▸ List.mem_filterMap.mpr ⟨a, ha, hn⟩
  exact absurd (List.mem_range.mp hr) (Nat.not_lt.mpr (he n hc))

theorem use (h : Ledger w l es) (ho : e.opened? = none) (hc : e.closed? = none)
    (he : ∀ n, e.client? = some n → l.retired ≤ n) : Ledger w l (es ++ [e]) where
  paired := h.paired
  latest := h.latest
  opened := by simp [ho, h.opened]
  closed := by simp [hc, h.closed]
  framed c framer hl hf := List.mem_append_left _ (h.framed c framer hl hf)
  quiet := h.quiet_concat he

theorem renew (h : Ledger w l es) (hn : l.client = none) (framer : Framer) :
    Ledger w (l.renew framer) (es ++ [.create ⟨w, framer, 0⟩ (some l.created)]) where
  paired := rfl
  latest := by simp
  opened := by simp [Event.opened?, h.opened, List.range_succ]
  closed := by simp [Event.closed?, h.closed, retired_of_none hn]
  framed := by simp
  quiet := h.quiet_concat (by simp [Event.client?, retired_of_none hn])

theorem forget (h : Ledger w l es) {c : Client} (hc : l.client = some c) :
    Ledger w l.forget (es ++ [.close c.number]) where
  paired := rfl
  latest := by simp
  opened := by simp [Event.opened?, h.opened]
  closed := by
    simp [Event.closed?, h.closed, h.retired_of_client hc, h.latest c hc, List.range_succ]
  framed := by simp
  quiet := h.quiet_concat (by simp [Event.client?, h.retired_of_client hc])

theorem setConnected (h : Ledger w l es) (on : Bool) : Ledger w (l.setConnected on) es where
  paired := by simp [Link.setConnected, h.paired]
  latest c hc := by
    obtain ⟨d, hd, rfl⟩ := Option.map_eq_some_iff.mp hc
    exact h.latest d hd
  opened := h.opened
  closed := by simp [h.closed]
  framed c framer hc hf := by
    obtain ⟨d, hd, rfl⟩ := Option.map_eq_some_iff.mp hc
    exact h.framed d framer hd hf
  quiet := h.quiet

theorem change (h : Ledger w l es) (hc : Change w l ms m) :
    Ledger w m (es ++ ms.map Moment.event) := by
  cases hc with
  | opens hn => exact h.renew hn _
  | fails hn => exact h.use rfl rfl (by simp [Event.client?])
  | connects hl _ => exact h.use rfl rfl (by simp [Event.client?, h.retired_of_client hl])
  | asks hl _ => exact h.use rfl rfl (by simp [Event.client?, h.retired_of_client hl])
  | hears hl => exact h.use rfl rfl (by simp [Event.client?, h.retired_of_client hl])
  | closes hl => exact h.forget hl
  | turns on => simpa using h.setConnected on

theorem course (h : Ledger w l es) (hc : Course w l ms m) :
    Ledger w m (es ++ ms.map Moment.event) := by
  induction hc generalizing es with
  | nil => simpa using h
  | cons hc _ ih => simpa using ih (h.change hc)

end Ledger

theorem ledger_inTurn (w : Wire) (jobs : List (Job ρ)) :
    Ledger w (inTurn (some w) jobs {}).link (inTurn (some w) jobs {}).events := by
  simpa [Report.events] using ledger_new.course (follows_inTurn jobs {})

namespace Ledger

theorem opened_iff (h : Ledger w l es) {n : Nat} : Opened es n ↔ n < l.created := by
  rw [← List.mem_range, ← h.opened, List.mem_filterMap]
  constructor
  · rintro ⟨options, hm⟩
    exact ⟨_, hm, rfl⟩
  · rintro ⟨e, hm, he⟩
    cases e with
    | create options number =>
      obtain rfl : number = some n := he
      exact ⟨options, hm⟩
    | _ => simp [Event.opened?] at he

theorem closings_eq (h : Ledger w l es) (n : Nat) :
    closings es n = if n < l.retired then 1 else 0 := by
  rw [closings, h.closed]
  split
  case isTrue hn => exact List.count_eq_one_of_mem List.nodup_range (List.mem_range.mpr hn)
  case isFalse hn => exact List.count_eq_zero_of_not_mem fun hm => hn (List.mem_range.mp hm)

theorem closings_of_mem (h : Ledger w l es) {n : Nat} (hm : .close n ∈ es) :
    closings es n = 1 := by
  have hr : n ∈ List.range l.retired := h.closed ▸ List.mem_filterMap.mpr ⟨_, hm, rfl⟩
  rw [h.closings_eq, if_pos (List.mem_range.mp hr)]

theorem closings_of_client (h : Ledger w l es) {c : Client} (hc : l.client = some c) :
    closings es c.number = 0 := by
  rw [h.closings_eq, h.retired_of_client hc, if_neg (Nat.lt_irrefl _)]

theorem options_unique (h : Ledger w l es) {n : Nat} {o o' : ClientOptions}
    (ho : .create o (some n) ∈ es) (ho' : .create o' (some n) ∈ es) : o = o' := by
  have hd : (es.filterMap Event.opened?).Nodup := h.opened ▸ List.nodup_range
  have hp := List.pairwise_filterMap.mp hd
  have : Std.Symm fun a b : Event ρ =>
      ∀ n, a.opened? = some n → ∀ m, b.opened? = some m → n ≠ m :=
    ⟨fun _ _ hab n hn m hm => (hab m hm n hn).symm⟩
  by_contra hne
  exact hp.forall ho ho' (fun he => hne (Event.create.inj he).1) n rfl n rfl rfl

/-- The client of a link has been created once, for the framer that the link remembers. -/
theorem create_iff (h : Ledger w l es) {c : Client} {framer : Framer} (hc : l.client = some c)
    (hf : l.framer = some framer) (options : ClientOptions) :
    .create options (some c.number) ∈ es ↔
      options.wire = w ∧ options.framer = framer ∧ options.retries = 0 := by
  have ho := h.framed c framer hc hf
  constructor
  · intro hm
    rw [h.options_unique hm ho]
    exact ⟨rfl, rfl, rfl⟩
  · obtain ⟨wire, f, retries⟩ := options
    rintro ⟨rfl, rfl, rfl⟩
    exact ho

theorem not_closed (h : Ledger w l es) {c : Client} (hc : l.client = some c) :
    .close c.number ∉ es := by
  intro hm
  have hr : c.number ∈ List.range l.retired :=
    h.closed ▸ List.mem_filterMap.mpr ⟨_, hm, rfl⟩
  rw [h.retired_of_client hc] at hr
  exact absurd (List.mem_range.mp hr) (Nat.lt_irrefl _)

theorem has_iff (h : Ledger w l es) {n : Nat} (hn : n < l.created) : l.Has n ↔ ¬ n < l.retired := by
  constructor
  · rintro ⟨c, hc, rfl⟩
    simp [h.retired_of_client hc]
  · intro hr
    cases hc : l.client with
    | none => exact absurd (retired_of_none hc ▸ hn) hr
    | some c =>
      have hl := h.latest c hc
      rw [h.retired_of_client hc] at hr
      exact ⟨c, hc, by omega⟩

theorem not_client_after_close (h : Ledger w l es) {n : Nat} {before after : List (Event ρ)}
    (he : es = before ++ .close n :: after) : ∀ e ∈ after, e.client? ≠ some n := by
  subst he
  have hq := (List.pairwise_append.mp h.quiet).2.1
  intro e hm
  exact (List.pairwise_cons.mp hq).1 e hm n rfl

theorem has_of_unclosed (h : Ledger w l es) {n : Nat} (hn : Opened es n) (hc : closings es n = 0) :
    l.Has n := by
  refine (h.has_iff (h.opened_iff.mp hn)).mpr fun hr => ?_
  rw [h.closings_eq, if_pos hr] at hc
  cases hc

end Ledger

theorem run_close (w : Wire) (l : Link) :
    let s : Report ρ Outcome := Task.close.run (some w) l
    s.link.client = none ∧ s.link.connected = false ∧
      s.events = (l.client.toList.map fun c => .close c.number) ∧
      Task.close.run (some w) s.link = (⟨.ok none, s.link, [], []⟩ : Report ρ Outcome) := by
  intro s
  cases hc : l.client with
  | none => simp [s, Task.run, closeClient_of_none hc, hc, Link.connected, Report.events]
  | some c =>
    simp [s, Task.run, closeClient_of_some hc, closeClient_of_none client_forget, Report.events]

/-- Every job leaves a link with a framer exactly if it has a client, which was created for that
framer and has not been closed. All clients before it have been closed once, and nothing has been
done to them since. Closing the link closes its client, if it has one, and doing so again is of no
effect. -/
theorem inTurn_lifecycle (w : Wire) (jobs : List (Job ρ)) :
    let r := inTurn (some w) jobs {}
    let s : Report ρ Outcome := Task.close.run (some w) r.link
    ((r.link.framer = none ↔ r.link.client = none) ∧
      ∀ c framer, r.link.client = some c → r.link.framer = some framer →
        ∀ options, .create options (some c.number) ∈ r.events ↔
          options.wire = w ∧ options.framer = framer ∧ options.retries = 0) ∧
    (∀ n, Opened r.events n →
      (r.link.Has n ∧ closings r.events n = 0) ∨ (¬ r.link.Has n ∧ closings r.events n = 1)) ∧
    ((r.events.filterMap Event.opened?).Nodup ∧
      ∀ n n', Opened r.events n → closings r.events n = 0 →
        Opened r.events n' → closings r.events n' = 0 → n = n') ∧
    (∀ n before after, r.events = before ++ .close n :: after →
      ∀ e ∈ after, e.client? ≠ some n) ∧
    (s.link.client = none ∧ s.link.connected = false ∧
      s.events = (r.link.client.toList.map fun c => .close c.number) ∧
      Task.close.run (some w) s.link = (⟨.ok none, s.link, [], []⟩ : Report ρ Outcome)) := by
  intro r s
  have h : Ledger w r.link r.events := ledger_inTurn w jobs
  refine ⟨⟨?_, ?_⟩, ?_, ⟨h.opened ▸ List.nodup_range, ?_⟩, ?_, run_close w r.link⟩
  · rw [← Option.isNone_iff_eq_none, ← Option.isNone_iff_eq_none, ← Option.not_isSome,
      ← Option.not_isSome, h.paired]
  · intro c framer hc hf
    exact h.create_iff hc hf
  · intro n hn
    have hh := h.has_iff (h.opened_iff.mp hn)
    rw [h.closings_eq]
    by_cases hr : n < r.link.retired
    · exact .inr ⟨fun hl => hh.mp hl hr, if_pos hr⟩
    · exact .inl ⟨hh.mpr hr, if_neg hr⟩
  · intro n n' hn hc hn' hc'
    obtain ⟨c, hl, rfl⟩ := h.has_of_unclosed hn hc
    obtain ⟨c', hl', rfl⟩ := h.has_of_unclosed hn' hc'
    rw [Option.some.inj (hl.symm.trans hl')]
  · intro n before after he
    exact h.not_client_after_close he

end Link

end ModbusRpc
