import ModbusRpc.Proofs.Link.Standing
import ModbusRpc.Proofs.Link.Transaction

/-! # Serial runs

However the sections of a pool of tasks interleave, what happens to the link is what happens if the
tasks are run as a whole, one after another, in the order in which they took the link. The invariant
is that the tasks served so far make up such a row, of which the last may be underway: what it has
still to do brings it to the end that it has as a whole.
-/

namespace ModbusRpc.Link

variable {ρ α : Type}

/-! ### Tasks underway -/

namespace Task

variable (w? : Option Wire)

def await : Task ρ → Wait → Activity ρ Outcome
  | close, _ => pure (.ok none)
  | execute plan _ request, wait =>
    match w?, wait with
    | none, _ => pure (.error (.link .noEndpoint))
    | some w, .connection => do
      match ← resume w plan request with
      | .error fault => pure (.error fault)
      | .ok () =>
        let outcome ← settle w plan request
        pure (outcome.map some)
    | some w, .answer => do
      let outcome ← settle w plan request
      pure (outcome.map some)

def finish (task : Task ρ) : Next → Activity ρ Outcome
  | .waits wait => task.await w? wait
  | .ends outcome => pure outcome

theorem enter_finish (task : Task ρ) (l : Link) :
    (task.enter w? >>= task.finish w?) l = task.run w? l := by
  cases task with
  | close =>
    cases w? with
    | none => rfl
    | some w => simp [enter, finish, run]
  | execute plan framer request =>
    cases w? with
    | none => rfl
    | some w =>
      simp only [enter, run, Link.execute, Activity.bind_apply]
      cases (arrive w plan framer request l).value with
      | error fault => simp [finish, Except.map]
      | ok wait =>
        cases wait with
        | answer => simp [finish, await]
        | connection =>
          simp only [Activity.pure_apply, Activity.bind_apply, finish, await]
          cases (resume w plan request (arrive w plan framer request l).link).value with
          | error fault => simp [Except.map]
          | ok _ => simp

theorem proceed_finish (task : Task ρ) (wait : Wait) (l : Link) :
    (task.proceed w? wait >>= task.finish w?) l = task.await w? wait l := by
  cases task with
  | close => rfl
  | execute plan framer request =>
    cases w? with
    | none => rfl
    | some w =>
      cases wait with
      | answer => simp [proceed, finish, await]
      | connection =>
        simp only [proceed, await, Activity.bind_apply]
        cases (resume w plan request l).value with
        | error fault => simp [finish]
        | ok _ => simp [finish, await]

/-- The task, begun on the link `l`, has come to `s` and `next` by some moments and records. -/
def Underway (task : Task ρ) (l : Link) (next : Next) (s : Link) (ms : List (Moment ρ))
    (logs : List LogRecord) : Prop :=
  task.run w? l =
    let r := task.finish w? next s
    ⟨r.value, r.link, ms ++ r.moments, logs ++ r.logs⟩

theorem underway_enter (task : Task ρ) (l : Link) :
    let r := task.enter w? l
    task.Underway w? l r.value r.link r.moments r.logs :=
  (enter_finish w? task l).symm

variable {w?}

theorem Underway.proceed {task : Task ρ} {l s : Link} {wait : Wait} {ms : List (Moment ρ)}
    {logs : List LogRecord} (h : task.Underway w? l (.waits wait) s ms logs) :
    let r := task.proceed w? wait s
    task.Underway w? l r.value r.link (ms ++ r.moments) (logs ++ r.logs) := by
  unfold Underway
  rw [h]
  simp only [finish, ← proceed_finish, Activity.bind_apply, List.append_assoc]

theorem Underway.ends {task : Task ρ} {l s : Link} {outcome : Outcome} {ms : List (Moment ρ)}
    {logs : List LogRecord} (h : task.Underway w? l (.ends outcome) s ms logs) :
    task.run w? l = ⟨outcome, s, ms, logs⟩ := by
  simpa [Underway, finish] using h

end Task

/-! ### Rows of tasks -/

/-- What tasks have done so far, each moment under the number of its task. -/
structure History (ρ : Type) where
  outcomes : List (Nat × Outcome)
  link : Link
  trace : List (Nat × Moment ρ)
  logs : List LogRecord

namespace History

def begin (l : Link) : History ρ := ⟨[], l, [], []⟩

def add (h : History ρ) (i : Nat) (r : Report ρ Outcome) : History ρ :=
  ⟨h.outcomes ++ [(i, r.value)], r.link, h.trace ++ r.moments.map (i, ·), h.logs ++ r.logs⟩

end History

variable {w? : Option Wire} {tasks : List (Task ρ)} {l : Link} {row : List Nat} {h : History ρ}

/-- What a row of tasks does from the link `l`, each run as a whole. -/
inductive Row (w? : Option Wire) (tasks : List (Task ρ)) (l : Link) :
    List Nat → History ρ → Prop where
  | nil : Row w? tasks l [] (.begin l)
  | snoc {row : List Nat} {h : History ρ} {i : Nat} {task : Task ρ} : Row w? tasks l row h →
      tasks[i]? = some task → Row w? tasks l (row ++ [i]) (h.add i (task.run w? h.link))

theorem inTurn_append (jobs jobs' : List (Job ρ)) :
    inTurn w? (jobs ++ jobs') l =
      let r := inTurn w? jobs l
      let s := inTurn w? jobs' r.link
      ⟨r.value ++ s.value, s.link, r.moments ++ s.moments, r.logs ++ s.logs⟩ := by
  induction jobs generalizing l with
  | nil => simp [inTurn]
  | cons job jobs ih => simp [inTurn, ih]

namespace Row

theorem inTurn_eq (hr : Row w? tasks l row h) :
    inTurn w? ((row.filterMap (tasks[·]?)).map fun task => { task := some task }) l =
      ⟨h.outcomes.map Prod.snd, h.link, h.trace.map Prod.snd, h.logs⟩ := by
  induction hr with
  | nil => rfl
  | @snoc row h i task _ ht ih =>
    rw [List.filterMap_append, List.map_append, inTurn_append, ih]
    simp [ht, inTurn, Job.run, History.add, Function.comp_def]

theorem outcomes_fst (hr : Row w? tasks l row h) : h.outcomes.map Prod.fst = row := by
  induction hr with
  | nil => rfl
  | snoc _ _ ih => simp [History.add, ih]

theorem mem_row (hr : Row w? tasks l row h) : ∀ x ∈ h.trace, x.1 ∈ row := by
  induction hr with
  | nil => simp [History.begin]
  | @snoc row h i task _ _ ih =>
    intro x hx
    rcases List.mem_append.mp hx with hx | hx
    · exact List.mem_append_left _ (ih x hx)
    · obtain ⟨m, _, rfl⟩ := List.mem_map.mp hx
      exact List.mem_append_right _ (List.mem_singleton_self i)

theorem trace_sorted (hr : Row w? tasks l row h) (hn : row.Nodup) :
    h.trace.Pairwise fun x y => row.idxOf x.1 ≤ row.idxOf y.1 := by
  induction hr with
  | nil => exact List.Pairwise.nil
  | @snoc row h i task hr _ ih =>
    have hi : i ∉ row := fun hm => (List.nodup_append.mp hn).2.2 i hm i (by simp) rfl
    refine List.pairwise_append.mpr ⟨?_, ?_, ?_⟩
    · refine (ih (List.nodup_append.mp hn).1).imp_of_mem fun hx hy hxy => ?_
      rwa [List.idxOf_append_of_mem (hr.mem_row _ hx), List.idxOf_append_of_mem (hr.mem_row _ hy)]
    · exact List.pairwise_map.mpr (List.pairwise_of_forall fun _ _ => le_rfl)
    · intro x hx y hy
      obtain ⟨m, _, rfl⟩ := List.mem_map.mp hy
      rw [List.idxOf_append_of_mem (hr.mem_row _ hx), List.idxOf_append_of_notMem hi]
      exact (List.idxOf_le_length).trans (Nat.le_add_right _ _)

/-- Every outcome of a row is that of a whole run of its task, to which all moments under the number
of the task belong. -/
theorem outcome_run (hr : Row w? tasks l row h) (hn : row.Nodup) {i : Nat} {outcome : Outcome}
    (ho : (i, outcome) ∈ h.outcomes) :
    ∃ task s, tasks[i]? = some task ∧ outcome = (task.run w? s).value ∧
      ∀ m, (i, m) ∈ h.trace ↔ m ∈ (task.run w? s).moments := by
  induction hr with
  | nil => simp [History.begin] at ho
  | @snoc row h j task hr ht ih =>
    have hj : j ∉ row := fun hm => (List.nodup_append.mp hn).2.2 j hm j (by simp) rfl
    rcases List.mem_append.mp ho with ho | ho
    · obtain ⟨task', s, ht', hv, hm⟩ := ih (List.nodup_append.mp hn).1 ho
      have hi : i ∈ row := hr.outcomes_fst ▸ List.mem_map_of_mem ho
      have hji : j ≠ i := fun e => hj (e ▸ hi)
      refine ⟨task', s, ht', hv, fun m => ?_⟩
      simp [History.add, hm m, hji]
    · obtain ⟨rfl, rfl⟩ := Prod.mk.inj (List.mem_singleton.mp ho)
      have hi : ∀ m, (i, m) ∉ h.trace := fun m hm => hj (hr.mem_row _ hm)
      exact ⟨task, h.link, ht, rfl, fun m => by simp [History.add, hi m]⟩

end Row

/-! ### Answers -/

/-- Every request is made by the task that has it, and directly followed by its reply, which the
same task hears on the same link. -/
def Answered (tasks : List (Task ρ)) (trace : List (Nat × Moment ρ)) : Prop :=
  ∀ before i s n q after, trace = before ++ (i, ⟨s, .request n q⟩) :: after →
    (∃ plan framer, tasks[i]? = some (.execute plan framer q)) ∧
      ∃ rest, after = (i, ⟨s, .reply n⟩) :: rest

theorem answered_nil : Answered tasks [] := by
  intro before i s n q after he
  simp at he

theorem Answered.append {trace trace' : List (Nat × Moment ρ)} (ha : Answered tasks trace)
    (hb : Answered tasks trace') : Answered tasks (trace ++ trace') := by
  intro before i s n q after he
  rcases List.append_eq_append_iff.mp he with ⟨zs, hz, he⟩ | ⟨zs, hz, he⟩
  · exact hb zs i s n q after he
  · cases zs with
    | nil => exact hb [] i s n q after he.symm
    | cons z zs =>
      obtain ⟨rfl, rfl⟩ := List.cons.inj he
      obtain ⟨ht, rest, rfl⟩ := ha before i s n q zs hz
      exact ⟨ht, rest ++ trace', rfl⟩

theorem answered_of_silent {i : Nat} {ms : List (Moment ρ)}
    (hs : ∀ m ∈ ms, m.event.asked? = none) : Answered tasks (ms.map (i, ·)) := by
  intro before j s n q after he
  have hm : (j, ⟨s, .request n q⟩) ∈ ms.map (i, ·) := by simp [he]
  obtain ⟨m, hm, he⟩ := List.mem_map.mp hm
  have ha := hs m hm
  rw [(Prod.mk.inj he).2] at ha
  cases ha

theorem answered_task (w : Wire) {i : Nat} {task : Task ρ} (ht : tasks[i]? = some task)
    (s : Link) : Answered tasks ((task.run (some w) s).moments.map (i, ·)) := by
  cases task with
  | close =>
    apply answered_of_silent
    intro m hm
    have hm' : m ∈ ((closeClient w : Activity ρ Unit) s).moments := by simpa [Task.run] using hm
    exact silent_of_close (closeClient_silent m hm')
  | execute plan framer request =>
    have he : (Task.run (some w) (.execute plan framer request) s).moments =
        (execute w plan framer request s).moments := by simp [Task.run]
    rw [he]
    rcases execute_asks_or_silent w plan framer request s with ⟨before, t, c, ha⟩ | hs
    · intro before' j u n q after he
      obtain ⟨ms, ns, hm, hb, hn⟩ := List.map_eq_append_iff.mp he
      obtain ⟨m, ns, rfl, hj, rfl⟩ := List.map_eq_cons_iff.mp hn
      obtain ⟨rfl, rfl⟩ := Prod.mk.inj hj
      obtain ⟨rfl, hu⟩ := ha.moment_unique hm rfl
      simp only [Moment.mk.injEq, Event.request.injEq] at hu
      obtain ⟨rfl, rfl, rfl⟩ := hu
      rw [ha.moments, List.append_cancel_left_eq] at hm
      obtain ⟨-, rfl⟩ := List.cons.inj hm
      exact ⟨⟨plan, framer, ht⟩, _, rfl⟩
    · exact answered_of_silent hs.silent

theorem Row.answered {w : Wire} (hr : Row (some w) tasks l row h) : Answered tasks h.trace := by
  induction hr with
  | nil => exact answered_nil
  | snoc _ ht ih => exact ih.append (answered_task w ht _)

/-! ### The invariant -/

def Settles (p : Pool ρ) (h : History ρ) : Prop := ∀ x ∈ h.outcomes, p.outcome? x.1 = some x.2

theorem Settles.setStand {p : Pool ρ} (hx : Settles p h) {i : Nat} {s t : Stand}
    (hs : p.stand? i = some s) (hn : s.outcome? = none) : Settles (p.setStand i t) h := by
  intro x hm
  exact Pool.outcome?_setStand hs hn (hx x hm)

theorem Row.mem_outcomes (hr : Row w? tasks l row h) {p : Pool ρ} (hx : Settles p h) {i : Nat}
    {outcome : Outcome} (hi : i ∈ row) (ho : p.outcome? i = some outcome) :
    (i, outcome) ∈ h.outcomes := by
  rw [← hr.outcomes_fst] at hi
  obtain ⟨x, hm, rfl⟩ := List.mem_map.mp hi
  obtain rfl : x.2 = outcome := Option.some.inj ((hx x hm).symm.trans ho)
  exact hm

/-- What has happened to the link of a pool is a row of the tasks served so far, of which the last
is still underway if it has the link. -/
inductive Serial (w? : Option Wire) (tasks : List (Task ρ)) (l : Link) (p : Pool ρ) :
    Link → List (Nat × Moment ρ) → List LogRecord → Prop where
  | free {h : History ρ} : p.holder = none → Row w? tasks l p.served h →
      Settles p h → Serial w? tasks l p h.link h.trace h.logs
  | held {row : List Nat} {h : History ρ} {i : Nat} {task : Task ρ} {wait : Wait} {s : Link}
      {ms : List (Moment ρ)} {logs : List LogRecord} : p.holder = some i →
      Row w? tasks l row h → Settles p h → p.served = row ++ [i] → tasks[i]? = some task →
      p.stand? i = some (.holding wait) →
      task.Underway w? h.link (.waits wait) s ms logs →
      Serial w? tasks l p s (h.trace ++ ms.map (i, ·)) (h.logs ++ logs)

namespace Serial

variable {p : Pool ρ} {s : Link} {trace : List (Nat × Moment ρ)} {logs : List LogRecord}

theorem advance {i : Nat} {task : Task ρ} {next : Next} {ms : List (Moment ρ)} {p : Pool ρ}
    {t : Stand} (hr : Row w? tasks l row h) (hx : Settles p h) (hv : p.served = row ++ [i])
    (ht : tasks[i]? = some task) (hs : p.stand? i = some t) (hn : t.outcome? = none)
    (hu : task.Underway w? h.link next s ms logs) :
    Serial w? tasks l (p.advance i next) s (h.trace ++ ms.map (i, ·)) (h.logs ++ logs) := by
  have hx' : Settles (p.advance i next) h := by
    intro x hm
    rw [Pool.outcome?, Pool.stand?_advance]
    exact hx.setStand hs hn x hm
  have hs' : (p.advance i next).stand? i = some next.stand := by
    simp [Pool.stand?_advance, Pool.stand?_setStand, hs]
  cases next with
  | waits wait => exact .held rfl hr hx' (by simpa using hv) ht hs' hu
  | ends outcome =>
    have hr' := hr.snoc ht
    rw [hu.ends] at hr'
    refine .free (h := h.add i ⟨outcome, s, ms, logs⟩) rfl (by simpa [hv] using hr') ?_
    intro x hm
    rcases List.mem_append.mp hm with hm | hm
    · exact hx' x hm
    · obtain rfl := List.mem_singleton.mp hm
      exact Pool.outcome?_eq_some_iff.mpr hs'

theorem move (hs : Serial w? tasks l p s trace logs) (ho : Pool.Orderly tasks p) {i : Nat}
    {r : Report ρ (Pool ρ)} (hm : Pool.Move w? tasks p i s r) :
    Serial w? tasks l r.value r.link (trace ++ r.moments.map (i, ·)) (logs ++ r.logs) := by
  cases hm with
  | idles _ => simpa using hs
  | asks hf =>
    rw [List.map_nil, List.append_nil, List.append_nil]
    cases hs with
    | free hh hr hx => exact .free hh hr (hx.setStand hf rfl)
    | @held row h j task wait s ms logs hh hr hx hv ht hk hu =>
      have hne : i ≠ j := by
        rintro rfl
        simp [hf] at hk
      refine .held hh hr (hx.setStand hf rfl) hv ht ?_ hu
      exact (Pool.stand?_setStand.trans (if_neg hne)).trans hk
  | @takes task queue ht hq hn _ =>
    cases hs with
    | free _ hr hx =>
      let q : Pool ρ := { p with queue, served := p.served ++ [i] }
      exact advance (p := q) hr hx rfl ht hq rfl (task.underway_enter w? _)
    -- The link is free, so no task is underway.
    | held hh => simp [hn] at hh
  | @goes task wait ht hk =>
    -- Who holds the link is the one whose task is underway.
    have hi : p.holder = some i := (ho.placed i _ hk).holder.mpr rfl
    cases hs with
    | free hh => simp [hh] at hi
    | @held row h j task' wait' s ms logs hh hr hx hv ht' hk' hu =>
      obtain rfl : j = i := Option.some.inj (hh.symm.trans hi)
      obtain rfl : task' = task := Option.some.inj (ht'.symm.trans ht)
      obtain rfl : wait' = wait := by simpa [hk] using hk'.symm
      rw [List.append_assoc, List.append_assoc, ← List.map_append]
      exact advance hr hx hv ht hk rfl hu.proceed

end Serial

end ModbusRpc.Link
