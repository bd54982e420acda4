import ModbusRpc.Proofs.Link.Serial

/-! # Interleaved tasks

The moments of a pool, each under the number of the member whose turn it was. In every run of a pool
of tasks, those of a member stay together, each request is directly followed by its reply, and once
all members have ended they have done what they do one after another.
-/

namespace ModbusRpc.Link

variable {ρ : Type}

/-- What happens in a run of a pool, and at whose turn. -/
def Pool.trace (w? : Option Wire) : List Nat → Pool ρ → Link → List (Nat × Moment ρ)
  | [], _, _ => []
  | i :: is, p, l =>
    let r := p.step w? i l
    r.moments.map (i, ·) ++ trace w? is r.value r.link

variable {w? : Option Wire} {tasks : List (Task ρ)} {p : Pool ρ} {l s : Link}
  {trace : List (Nat × Moment ρ)} {logs : List LogRecord} {schedule : List Nat} {i : Nat}

theorem trace_snd : (p.trace w? schedule l).map Prod.snd = (p.run w? schedule l).moments := by
  induction schedule generalizing p l with
  | nil => rfl
  | cons i is ih => simp [Pool.trace, Pool.run, ih, Function.comp_def]

theorem run_append (schedule' : List Nat) :
    (p.run w? (schedule ++ schedule') l).value =
      let r := p.run w? schedule l
      (r.value.run w? schedule' r.link).value := by
  induction schedule generalizing p l with
  | nil => rfl
  | cons i is ih => simp [Pool.run, ih]

namespace Serial

theorem run (hs : Serial w? tasks l p s trace logs) (ho : Pool.Orderly tasks p)
    (schedule : List Nat) :
    let r := p.run w? schedule s
    Pool.Orderly tasks r.value ∧
      Serial w? tasks l r.value r.link (trace ++ p.trace w? schedule s) (logs ++ r.logs) := by
  induction schedule generalizing p s trace logs with
  | nil => simpa [Pool.run, Pool.trace] using ⟨ho, hs⟩
  | cons i is ih =>
    have hm : Pool.Move w? tasks p i s (p.step w? i s) := ho.step_move i s
    simpa [Pool.run, Pool.trace] using ih (hs.move ho hm) (ho.move hm)

theorem ofTasks (schedule : List Nat) :
    let p := Pool.ofTasks tasks
    let r := p.run w? schedule l
    Pool.Orderly tasks r.value ∧
      Serial w? tasks l r.value r.link (p.trace w? schedule l) r.logs := by
  have hs : Serial w? tasks l (Pool.ofTasks tasks) l [] [] :=
    .free (h := .begin l) rfl .nil (by simp [Settles, History.begin])
  simpa using hs.run Pool.orderly_ofTasks schedule

/-- The holder has still to do the rest of a row of all that have been served. -/
theorem exists_row (hs : Serial w? tasks l p s trace logs) :
    ∃ h rest, Row w? tasks l p.served h ∧ h.trace = trace ++ rest := by
  cases hs with
  | @free h _ hr _ => exact ⟨h, [], hr, (List.append_nil _).symm⟩
  | @held row h i task wait s ms logs _ hr _ hv ht _ hu =>
    refine ⟨_, (task.await w? wait s).moments.map (i, ·), hv ▸ hr.snoc ht, ?_⟩
    rw [Task.Underway] at hu
    simp only [History.add, hu, Task.finish, List.map_append, List.append_assoc]

theorem unmixed (hs : Serial w? tasks l p s trace logs) (ho : Pool.Orderly tasks p)
    {before between after : List (Nat × Moment ρ)} {x y : Nat × Moment ρ}
    (he : trace = before ++ x :: between ++ y :: after) (hxy : x.1 = y.1) :
    ∀ z ∈ between, z.1 = x.1 := by
  obtain ⟨h, rest, hr, ht⟩ := hs.exists_row
  have hp := hr.trace_sorted (List.nodup_append.mp ho.nodup).1
  intro z hz
  have hz' : z ∈ h.trace := by simp [ht, he, hz]
  rw [ht, he, List.append_assoc, List.append_assoc, List.cons_append] at hp
  obtain ⟨hx, hp⟩ := List.pairwise_cons.mp (List.pairwise_append.mp hp).2.1
  have hxz := hx z (by simp [hz])
  have hzy := (List.pairwise_append.mp hp).2.2 z hz y (by simp)
  refine (List.idxOf_inj (hr.mem_row z hz')).mp (le_antisymm ?_ hxz)
  rwa [← hxy] at hzy

theorem answered {w : Wire} (hs : Serial (some w) tasks l p s trace logs)
    {before after : List (Nat × Moment ρ)} {t : Link} {n : Nat} {q : ρ}
    (he : trace = before ++ (i, ⟨t, .request n q⟩) :: after) :
    (∃ plan framer, tasks[i]? = some (.execute plan framer q)) ∧
      ((after = [] ∧ p.holder = some i) ∨ ∃ rest, after = (i, ⟨t, .reply n⟩) :: rest) := by
  obtain ⟨h, rest, hr, ht⟩ := hs.exists_row
  rw [he, List.append_assoc] at ht
  obtain ⟨hq, rest', hc⟩ := hr.answered before i t n q _ ht
  refine ⟨hq, ?_⟩
  cases after with
  | cons x after =>
    obtain ⟨rfl, _⟩ := List.cons.inj hc
    exact .inr ⟨after, rfl⟩
  | nil =>
    refine .inl ⟨rfl, ?_⟩
    cases hs with
    | free _ hr _ =>
      obtain ⟨_, rest, hc⟩ := hr.answered before i t n q [] he
      cases hc
    | @held row h j task wait s ms logs hh hr _ _ _ _ _ =>
      -- The last moment is a request, so it is not one of those before the task underway.
      rcases List.eq_nil_or_concat ms with rfl | ⟨ms, m, rfl⟩
      · rw [List.map_nil, List.append_nil] at he
        obtain ⟨_, rest, hc⟩ := hr.answered before i t n q [] he
        cases hc
      · rw [List.concat_eq_append, List.map_append, ← List.append_assoc] at he
        obtain ⟨hj, _⟩ := Prod.mk.inj (List.singleton_inj.mp (List.append_inj_right' he rfl))
        exact hj ▸ hh

theorem outcome_run (hs : Serial w? tasks l p s trace logs) (ho : Pool.Orderly tasks p)
    {outcome : Outcome} (hi : p.outcome? i = some outcome) :
    ∃ task s, tasks[i]? = some task ∧ outcome = (task.run w? s).value ∧
      ∀ m, (i, m) ∈ trace ↔ m ∈ (task.run w? s).moments := by
  have hk : p.stand? i = some (.ended outcome) := Pool.outcome?_eq_some_iff.mp hi
  have hv : i ∈ p.served := (ho.placed i _ hk).served.mpr rfl
  have hn : p.served.Nodup := (List.nodup_append.mp ho.nodup).1
  cases hs with
  | free _ hr hx =>
    exact hr.outcome_run hn (hr.mem_outcomes hx hv hi)
  | @held row h j task wait s ms logs _ hr hx hv' _ hk' _ =>
    have hne : j ≠ i := by
      rintro rfl
      simp [hk] at hk'
    rw [hv'] at hv hn
    have hi' : i ∈ row := by simpa [hne.symm] using hv
    obtain ⟨task', t, ht', hv', hm⟩ :=
      hr.outcome_run (List.nodup_append.mp hn).1 (hr.mem_outcomes hx hi' hi)
    refine ⟨task', t, ht', hv', fun m => ?_⟩
    rw [← hm m]
    simp [hne]

theorem holder_of_done (hs : Serial w? tasks l p s trace logs) (ho : Pool.Orderly tasks p)
    (hd : ∀ i < tasks.length, (p.outcome? i).isSome) : p.holder = none := by
  cases hs with
  | free hh => exact hh
  | @held row h i task wait s ms logs _ _ _ hv _ hk _ =>
    have hi := hd i (ho.bounded i (by simp [hv]))
    simp [Pool.outcome?, hk, Stand.outcome?] at hi

/-- Once all members have ended, they have done what they do in a row. -/
theorem inTurn_of_done (hs : Serial w? tasks l p s trace logs) (ho : Pool.Orderly tasks p)
    (hd : ∀ i < tasks.length, (p.outcome? i).isSome) :
    let r := inTurn w? ((p.served.filterMap (tasks[·]?)).map fun task => { task := some task }) l
    s = r.link ∧ trace.map Prod.snd = r.moments ∧ logs = r.logs ∧
      p.served.map p.outcome? = r.value.map some := by
  have hh := hs.holder_of_done ho hd
  cases hs with
  | held hh' => simp [hh] at hh'
  | @free h _ hr hx =>
    rw [hr.inTurn_eq]
    refine ⟨rfl, rfl, rfl, ?_⟩
    rw [← hr.outcomes_fst, List.map_map, List.map_map]
    exact List.map_congr_left hx

end Serial

theorem execute_outcome (w : Wire) (plan : Plan ρ) (framer : Framer) (request : ρ) (l : Link) :
    let r : Report ρ Outcome := Task.run (some w) (.execute plan framer request) l
    ((∃ s n, ⟨s, .request n request⟩ ∈ r.moments ∧ ⟨s, .reply n⟩ ∈ r.moments) ∧
      r.value = (verdict w (plan.reply request)).map some) ∨
    ((∀ m ∈ r.moments, m.event.asked? = none) ∧ ∃ fault, r.value = .error fault) := by
  intro r
  have hm : r.moments = (execute w plan framer request l).moments := by simp [r, Task.run]
  have hv : r.value = (execute w plan framer request l).value.map some := rfl
  rw [hm, hv]
  rcases execute_asks_or_silent w plan framer request l with ⟨before, s, c, ha⟩ | hs
  · left
    rw [ha.value]
    exact ⟨⟨s, c.number, by simp [ha.moments], by simp [ha.moments]⟩, rfl⟩
  · right
    obtain ⟨fault, hf⟩ := hs.failed
    exact ⟨hs.silent, fault, by rw [hf]; rfl⟩

/-- However tasks interleave on a link, the moments of one are never mixed with those of another,
and a request is its task's own and directly followed by its reply, from which the outcome of the
task comes. When all tasks have ended, which is always within reach, the link is free, and outcomes,
moments, records and the link are those of the tasks run one after another in the order in which
they took the link. -/
theorem run_interleaved (w : Wire) (tasks : List (Task ρ)) (schedule : List Nat) (l : Link) :
    let p := Pool.ofTasks tasks
    let r := p.run (some w) schedule l
    let trace := p.trace (some w) schedule l
    let s := inTurn (some w)
      ((r.value.served.filterMap (tasks[·]?)).map fun task => { task := some task }) l
    trace.map Prod.snd = r.moments ∧
    (∀ before x between y after, trace = before ++ x :: between ++ y :: after → x.1 = y.1 →
      ∀ z ∈ between, z.1 = x.1) ∧
    (∀ before i t n q after, trace = before ++ (i, ⟨t, .request n q⟩) :: after →
      (∃ plan framer, tasks[i]? = some (.execute plan framer q)) ∧
      ((after = [] ∧ r.value.holder = some i) ∨ ∃ rest, after = (i, ⟨t, .reply n⟩) :: rest)) ∧
    (∀ i plan framer request outcome, tasks[i]? = some (.execute plan framer request) →
      r.value.outcome? i = some outcome →
      ((∃ t n, (i, ⟨t, .request n request⟩) ∈ trace ∧ (i, ⟨t, .reply n⟩) ∈ trace) ∧
        outcome = (verdict w (plan.reply request)).map some) ∨
      ((∀ m, (i, m) ∈ trace → m.event.asked? = none) ∧ ∃ fault, outcome = .error fault)) ∧
    ((∀ i < tasks.length, (r.value.outcome? i).isSome) →
      r.value.holder = none ∧ r.value.queue = [] ∧
      r.value.served.Perm (List.range tasks.length) ∧
      r.link = s.link ∧ r.moments = s.moments ∧ r.logs = s.logs ∧
      r.value.served.map r.value.outcome? = s.value.map some) ∧
    ∃ more, ∀ i < tasks.length,
      ((p.run (some w) (schedule ++ more) l).value.outcome? i).isSome := by
  intro p r trace s
  have ⟨ho, hs⟩ : Pool.Orderly tasks r.value ∧
      Serial (some w) tasks l r.value r.link trace r.logs := Serial.ofTasks schedule
  refine ⟨trace_snd, ?_, ?_, ?_, ?_, ?_⟩
  · intro before x between y after he hxy
    exact hs.unmixed ho he hxy
  · intro before i t n q after he
    exact hs.answered he
  · intro i plan framer request outcome ht hi
    obtain ⟨task, t, ht', rfl, hm⟩ := hs.outcome_run ho hi
    obtain rfl := Option.some.inj (ht.symm.trans ht')
    rcases execute_outcome w plan framer request t with ⟨⟨u, n, hq, hr⟩, hv⟩ | ⟨hn, hv⟩
    · exact .inl ⟨⟨u, n, (hm _).mpr hq, (hm _).mpr hr⟩, hv⟩
    · exact .inr ⟨fun m hm' => hn m ((hm m).mp hm'), hv⟩
  · intro hd
    obtain ⟨hl, hm, hk, hv⟩ := hs.inTurn_of_done ho hd
    rw [trace_snd] at hm
    exact ⟨hs.holder_of_done ho hd, ho.queue_of_done hd, ho.served_of_done hd, hl, hm, hk, hv⟩
  · obtain ⟨more, hm⟩ := ho.exists_run r.link
    refine ⟨more, ?_⟩
    rw [run_append]
    exact hm

end ModbusRpc.Link
