import ModbusRpc.Link.Pool
import Mathlib.Algebra.Order.BigOperators.Group.Finset
import Mathlib.Data.List.Nodup

/-! # Orderly pools

In a pool of tasks, the lists of the pool tell where a member stands: in the queue if it waits for
the link, among those served from when it has taken the link, and the holder in between. A step is
one of three moves of a member, or none.
-/

namespace ModbusRpc.Link

variable {ρ : Type}

namespace Stand

def isQueued : Stand → Bool
  | queued => true
  | fresh | holding _ | ended _ => false

def isHolding : Stand → Bool
  | holding _ => true
  | fresh | queued | ended _ => false

/-- Whether a member has taken the link, and may have given it back. -/
def isServed : Stand → Bool
  | holding _ | ended _ => true
  | fresh | queued => false

/-- More than the sections that a member has still to come. -/
def weight : Stand → Nat
  | fresh => 4
  | queued => 3
  | holding .connection => 2
  | holding .answer => 1
  | ended _ => 0

end Stand

def Next.stand : Next → Stand
  | waits wait => .holding wait
  | ends outcome => .ended outcome

@[simp] theorem Next.isQueued_stand (next : Next) : next.stand.isQueued = false := by
  cases next <;> rfl

@[simp] theorem Next.isServed_stand (next : Next) : next.stand.isServed = true := by
  cases next <;> rfl

theorem Next.weight_stand_lt (next : Next) : next.stand.weight < Stand.queued.weight := by
  match next with
  | waits .connection | waits .answer => decide
  | ends _ => exact Nat.succ_pos _

/-- The holder goes on to what it has not yet waited for, or to its end. -/
theorem Task.weight_proceed_lt (w? : Option Wire) (task : Task ρ) (wait : Wait) (l : Link) :
    (task.proceed w? wait l).value.stand.weight < (Stand.holding wait).weight := by
  cases task with
  | close => cases wait <;> exact Nat.succ_pos _
  | execute plan framer request =>
    match w?, wait with
    | none, .connection | none, .answer | some _, .answer => exact Nat.succ_pos _
    | some w, .connection =>
      simp only [proceed, Activity.bind_apply]
      cases (resume w plan request l).value with
      | error fault => exact Nat.succ_pos _
      | ok _ => exact Nat.lt_succ_self 1

namespace Pool

variable {p : Pool ρ} {tasks : List (Task ρ)} {task : Task ρ} {i j : Nat} {s : Stand}
  {next : Next} {outcome : Outcome}

theorem stand?_setStand : (p.setStand i s).stand? j =
    if i = j then (p.stand? j).map fun _ => s else p.stand? j := by
  simp only [stand?, setStand, List.getElem?_modify]
  split <;> cases p.members[j]? <;> simp

theorem stand?_advance : (p.advance i next).stand? = (p.setStand i next.stand).stand? := by
  cases next <;> rfl

@[simp] theorem queue_advance : (p.advance i next).queue = p.queue := by cases next <;> rfl

@[simp] theorem served_advance : (p.advance i next).served = p.served := by cases next <;> rfl

theorem holder_advance :
    (p.advance i next).holder = if next.stand.isHolding then some i else none := by
  cases next <;> rfl

theorem jobs_setStand : (p.setStand i s).members.map Member.job = p.members.map Member.job := by
  refine List.ext_getElem? fun j => ?_
  simp only [setStand, List.getElem?_map, List.getElem?_modify]
  split <;> cases p.members[j]? <;> rfl

theorem jobs_advance :
    (p.advance i next).members.map Member.job = p.members.map Member.job := by
  cases next <;> exact jobs_setStand

theorem outcome?_eq_some_iff :
    p.outcome? i = some outcome ↔ p.stand? i = some (.ended outcome) := by
  unfold outcome?
  match p.stand? i with
  | none => simp
  | some (.ended _) => simp [Stand.outcome?]
  | some .fresh | some .queued | some (.holding _) => simp [Stand.outcome?]

theorem outcome?_setStand {t : Stand} (hs : p.stand? i = some s) (hn : s.outcome? = none)
    (ho : p.outcome? j = some outcome) : (p.setStand i t).outcome? j = some outcome := by
  have hne : i ≠ j := by
    rintro rfl
    simp [outcome?, hs, hn] at ho
  rw [← ho]
  simp [outcome?, stand?_setStand, hne]

/-- The lists of a pool tell where member `i` stands. -/
structure Placed (p : Pool ρ) (i : Nat) (s : Stand) : Prop where
  queue : i ∈ p.queue ↔ s.isQueued
  served : i ∈ p.served ↔ s.isServed
  holder : p.holder = some i ↔ s.isHolding

structure Orderly (tasks : List (Task ρ)) (p : Pool ρ) : Prop where
  jobs : p.members.map Member.job = tasks.map fun task => { task := some task }
  placed : ∀ i s, p.stand? i = some s → p.Placed i s
  nodup : (p.served ++ p.queue).Nodup
  bounded : ∀ i ∈ p.served ++ p.queue, i < tasks.length
  held : ∀ i, p.holder = some i → i ∈ p.served

theorem orderly_ofTasks : Orderly tasks (ofTasks tasks) := by
  refine ⟨by simp [ofTasks, ofJobs, Function.comp_def], ?_, List.nodup_nil, ?_, ?_⟩
  · intro i s h
    obtain rfl : s = .fresh := by
      cases ht : tasks[i]? with
      | none => simp [stand?, ofTasks, ofJobs, ht] at h
      | some task => simpa [stand?, ofTasks, ofJobs, ht, eq_comm] using h
    constructor <;> simp [ofTasks, ofJobs, Stand.isQueued, Stand.isServed, Stand.isHolding]
  all_goals simp [ofTasks, ofJobs]

/-- Member `i` has ended, or waits for the link while it is not its turn. -/
def Stuck (p : Pool ρ) (i : Nat) : Prop :=
  ∀ s, p.stand? i = some s →
    (∃ outcome, s = .ended outcome) ∨ (s = .queued ∧ ¬ (p.holder = none ∧ p.queue.head? = some i))

inductive Move (w? : Option Wire) (tasks : List (Task ρ)) (p : Pool ρ) (i : Nat) (l : Link) :
    Report ρ (Pool ρ) → Prop where
  | idles : p.Stuck i → Move w? tasks p i l ⟨p, l, [], []⟩
  | asks : p.stand? i = some .fresh →
      Move w? tasks p i l ⟨{ p.setStand i .queued with queue := p.queue ++ [i] }, l, [], []⟩
  | takes {task : Task ρ} {queue : List Nat} : tasks[i]? = some task → p.stand? i = some .queued →
      p.holder = none → p.queue = i :: queue →
      Move w? tasks p i l
        (let r := task.enter w? l
        ⟨{ p with queue, served := p.served ++ [i] }.advance i r.value, r.link, r.moments, r.logs⟩)
  | goes {task : Task ρ} {wait : Wait} : tasks[i]? = some task →
      p.stand? i = some (.holding wait) →
      Move w? tasks p i l
        (let r := task.proceed w? wait l
        ⟨p.advance i r.value, r.link, r.moments, r.logs⟩)

namespace Orderly

variable {w? : Option Wire} {l : Link}

theorem job_eq (h : Orderly tasks p) {m : Member ρ} (hm : p.members[i]? = some m) :
    ∃ task, tasks[i]? = some task ∧ m.job = { task := some task } := by
  have hj := congrArg (·[i]?) h.jobs
  simp only [List.getElem?_map, hm, Option.map_some] at hj
  obtain ⟨task, ht, he⟩ := Option.map_eq_some_iff.mp hj.symm
  exact ⟨task, ht, he.symm⟩

theorem step_move (h : Orderly tasks p) (i : Nat) (l : Link) :
    Move w? tasks p i l (p.step w? i l) := by
  cases hm : p.members[i]? with
  | none => simpa [step, hm] using Move.idles (by simp [Stuck, stand?, hm])
  | some m =>
    obtain ⟨task, ht, hj⟩ := h.job_eq hm
    have hs : p.stand? i = some m.stand := by simp [stand?, hm]
    cases hk : m.stand with
    | fresh => simpa [step, hm, hk, hj, start] using Move.asks (hk ▸ hs)
    | queued =>
      by_cases hf : p.holder = none ∧ p.queue.head? = some i
      · obtain ⟨queue, hq⟩ := List.head?_eq_some_iff.mp hf.2
        simpa [step, hm, hk, hj, take, hf, hq] using Move.takes ht (hk ▸ hs) hf.1 hq
      · have hi : p.Stuck i := by simpa [Stuck, stand?, hm, hk] using hf
        simpa [step, hm, hk, hj, take, hf] using Move.idles hi
    | holding wait => simpa [step, hm, hk, hj] using Move.goes ht (hk ▸ hs)
    | ended outcome =>
      simpa [step, hm, hk, hj] using Move.idles (by simp [Stuck, stand?, hm, hk])

/-- If member `i` moves, and the others stand where they stood, then all are placed. -/
theorem placed_of_setStand (h : Orderly tasks p) {q : Pool ρ}
    (hs : q.stand? = (p.setStand i s).stand?) (hi : q.Placed i s)
    (hq : ∀ j, i ≠ j → (j ∈ q.queue ↔ j ∈ p.queue) ∧ (j ∈ q.served ↔ j ∈ p.served) ∧
      (q.holder = some j ↔ p.holder = some j)) :
    ∀ j s, q.stand? j = some s → q.Placed j s := by
  intro j t hj
  rw [hs, stand?_setStand] at hj
  split at hj
  case isTrue e =>
    subst e
    obtain ⟨_, _, rfl⟩ := Option.map_eq_some_iff.mp hj
    exact hi
  case isFalse hne =>
    have hp := h.placed j t hj
    obtain ⟨h₁, h₂, h₃⟩ := hq j hne
    exact ⟨h₁.trans hp.queue, h₂.trans hp.served, h₃.trans hp.holder⟩

theorem lt_length (h : Orderly tasks p) (hs : p.stand? i = some s) : i < tasks.length := by
  obtain ⟨m, hm, _⟩ := Option.map_eq_some_iff.mp hs
  obtain ⟨task, ht, _⟩ := h.job_eq hm
  exact (List.getElem?_eq_some_iff.mp ht).1

theorem move (h : Orderly tasks p) {r : Report ρ (Pool ρ)} (hm : Move w? tasks p i l r) :
    Orderly tasks r.value := by
  cases hm with
  | idles _ => exact h
  | asks hs =>
    have hi := h.placed i _ hs
    have hq : i ∉ p.queue := by simp [hi.queue, Stand.isQueued]
    have hv : i ∉ p.served := by simp [hi.served, Stand.isServed]
    refine ⟨jobs_setStand.trans h.jobs, ?_, ?_, ?_, h.held⟩
    · refine h.placed_of_setStand rfl ⟨by simp [Stand.isQueued], hi.served, hi.holder⟩ ?_
      intro j hj
      simp [setStand, hj.symm]
    · show (p.served ++ (p.queue ++ [i])).Nodup
      rw [← List.append_assoc, List.nodup_append_comm, List.singleton_append, List.nodup_cons]
      exact ⟨by simp [hq, hv], h.nodup⟩
    · intro j hj
      rcases List.mem_append.mp (List.append_assoc .. ▸ hj) with hj | hj
      · exact h.bounded j hj
      · exact List.mem_singleton.mp hj ▸ h.lt_length hs
  | @takes task queue ht hs hf hq =>
    have hn : (p.served ++ [i] ++ queue).Nodup := by simpa [hq] using h.nodup
    -- The link passes from none to `i`, which leaves the queue for those served.
    refine ⟨jobs_advance.trans h.jobs, ?_, by simpa using hn, ?_, ?_⟩
    · refine h.placed_of_setStand stand?_advance ⟨?_, ?_, ?_⟩ ?_
      · have hi : i ∉ queue := by grind
        simp [hi]
      · simp
      · simp [holder_advance]
      · intro j hj
        simp [holder_advance, hf, hq, hj, hj.symm]
    · intro j hj
      refine h.bounded j ?_
      simpa [hq] using hj
    · intro j hj
      simp only [holder_advance, Option.ite_none_right_eq_some, Option.some.injEq] at hj
      simp [hj.2]
  | @goes task wait ht hs =>
    have hi := h.placed i _ hs
    have hq : i ∉ p.queue := by simp [hi.queue, Stand.isQueued]
    have hv : i ∈ p.served := hi.served.mpr rfl
    have hh : p.holder = some i := hi.holder.mpr rfl
    refine ⟨jobs_advance.trans h.jobs, ?_, by simpa using h.nodup, by simpa using h.bounded, ?_⟩
    · refine h.placed_of_setStand stand?_advance ⟨?_, ?_, ?_⟩ ?_
      · simp [hq]
      · simp [hv]
      · simp [holder_advance]
      · intro j hj
        simp [holder_advance, hh, hj]
    · intro j hj
      simp only [holder_advance, Option.ite_none_right_eq_some, Option.some.injEq] at hj
      simpa [← hj.2] using hv

end Orderly

/-! ### Progress -/

def weight (p : Pool ρ) : Nat :=
  ∑ i ∈ Finset.range p.members.length, ((p.stand? i).map Stand.weight).getD 0

theorem length_setStand : (p.setStand i s).members.length = p.members.length := by
  simp [setStand]

theorem length_advance : (p.advance i next).members.length = p.members.length := by
  cases next <;> exact length_setStand

theorem weight_lt {q : Pool ρ} {t : Stand} (hq : q.stand? = (p.setStand i t).stand?)
    (hl : q.members.length = p.members.length) (hs : p.stand? i = some s)
    (ht : t.weight < s.weight) : q.weight < p.weight := by
  have hi : ((q.stand? i).map Stand.weight).getD 0 < ((p.stand? i).map Stand.weight).getD 0 := by
    simpa [hq, stand?_setStand, hs] using ht
  unfold weight
  rw [hl]
  refine Finset.sum_lt_sum (fun j _ => ?_) ⟨i, ?_, hi⟩
  · by_cases hj : i = j
    · exact hj ▸ hi.le
    · simp [hq, stand?_setStand, hj]
  · obtain ⟨m, hm, _⟩ := Option.map_eq_some_iff.mp hs
    exact Finset.mem_range.mpr (List.getElem?_eq_some_iff.mp hm).1

theorem Move.weight_lt {w? : Option Wire} {l : Link} {r : Report ρ (Pool ρ)}
    (h : Move w? tasks p i l r) (hi : ¬ p.Stuck i) : r.value.weight < p.weight := by
  cases h with
  | idles hk => exact absurd hk hi
  | asks hs => exact Pool.weight_lt rfl length_setStand hs (by decide)
  | takes _ hs _ _ =>
    exact Pool.weight_lt stand?_advance length_advance hs (Next.weight_stand_lt _)
  | goes _ hs =>
    exact Pool.weight_lt stand?_advance length_advance hs (Task.weight_proceed_lt _ _ _ _)

namespace Orderly

variable {w? : Option Wire}

theorem exists_stand (h : Orderly tasks p) (hi : i < tasks.length) : ∃ s, p.stand? i = some s := by
  have hl : p.members.length = tasks.length := by simpa using congrArg List.length h.jobs
  exact ⟨_, by rw [stand?, List.getElem?_eq_getElem (hl ▸ hi)]; rfl⟩

theorem isServed_of_done (h : Orderly tasks p) (hd : ∀ i < tasks.length, (p.outcome? i).isSome)
    (hi : i < tasks.length) : i ∈ p.served ∧ i ∉ p.queue := by
  obtain ⟨outcome, ho⟩ := Option.isSome_iff_exists.mp (hd i hi)
  have hp := h.placed i _ (outcome?_eq_some_iff.mp ho)
  exact ⟨hp.served.mpr rfl, fun hq => Bool.noConfusion (hp.queue.mp hq)⟩

theorem queue_of_done (h : Orderly tasks p) (hd : ∀ i < tasks.length, (p.outcome? i).isSome) :
    p.queue = [] := by
  refine List.eq_nil_iff_forall_not_mem.mpr fun i hi => ?_
  exact (h.isServed_of_done hd (h.bounded i (List.mem_append_right _ hi))).2 hi

theorem served_of_done (h : Orderly tasks p) (hd : ∀ i < tasks.length, (p.outcome? i).isSome) :
    p.served.Perm (List.range tasks.length) := by
  refine (List.perm_ext_iff_of_nodup (List.nodup_append.mp h.nodup).1 List.nodup_range).mpr ?_
  intro i
  rw [List.mem_range]
  constructor
  · intro hi
    exact h.bounded i (List.mem_append_left _ hi)
  · intro hi
    exact (h.isServed_of_done hd hi).1

/-- While some member has not ended, some member can go on. -/
theorem exists_not_stuck (h : Orderly tasks p) (hi : i < tasks.length) (ho : p.outcome? i = none) :
    ∃ j, ¬ p.Stuck j := by
  cases hh : p.holder with
  | some j =>
    obtain ⟨s, hs⟩ := h.exists_stand (h.bounded j (List.mem_append_left _ (h.held j hh)))
    have hk := (h.placed j s hs).holder.mp hh
    refine ⟨j, fun hk' => ?_⟩
    rcases hk' s hs with ⟨_, rfl⟩ | ⟨rfl, _⟩ <;> simp [Stand.isHolding] at hk
  | none =>
    cases hq : p.queue with
    | cons j queue =>
      have hj : j ∈ p.queue := by simp [hq]
      obtain ⟨s, hs⟩ := h.exists_stand (h.bounded j (List.mem_append_right _ hj))
      have hk := (h.placed j s hs).queue.mp hj
      refine ⟨j, fun hk' => ?_⟩
      rcases hk' s hs with ⟨_, rfl⟩ | ⟨_, hf⟩
      · simp [Stand.isQueued] at hk
      · simp [hh, hq] at hf
    | nil =>
      obtain ⟨s, hs⟩ := h.exists_stand hi
      refine ⟨i, fun hk => ?_⟩
      rcases hk s hs with ⟨_, rfl⟩ | ⟨rfl, _⟩
      · simp [outcome?, hs, Stand.outcome?] at ho
      · have hk := (h.placed i _ hs).queue.mpr rfl
        simp [hq] at hk

theorem exists_run (h : Orderly tasks p) (l : Link) :
    ∃ schedule, ∀ i < tasks.length, ((p.run w? schedule l).value.outcome? i).isSome := by
  induction hw : p.weight using Nat.strong_induction_on generalizing p l with
  | _ n ih =>
    by_cases hd : ∀ i < tasks.length, (p.outcome? i).isSome
    · exact ⟨[], hd⟩
    · push Not at hd
      obtain ⟨i, hi, ho⟩ := hd
      obtain ⟨j, hj⟩ := h.exists_not_stuck hi (by simpa using ho)
      have hm : Move w? tasks p j l (p.step w? j l) := h.step_move j l
      obtain ⟨schedule, hr⟩ := ih _ (hw ▸ hm.weight_lt hj) (h.move hm) (p.step w? j l).link rfl
      exact ⟨j :: schedule, hr⟩

end Orderly

end Pool

end ModbusRpc.Link
