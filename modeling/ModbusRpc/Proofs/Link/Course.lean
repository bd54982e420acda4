import ModbusRpc.Proofs.Link.Sections

/-! # Courses of a link

A course is a row of changes of a link. Each change asks something of the link: only a link without
a client gets one, only a client that is not connected is connected, and only a connected client is
asked. Whatever is done with a link follows a course.
-/

namespace ModbusRpc.Link

variable {ρ α β : Type} {w : Wire}

inductive Change (w : Wire) (l : Link) : List (Moment ρ) → Link → Prop where
  | opens {framer : Framer} : l.client = none →
      Change w l [⟨l, .create ⟨w, framer, 0⟩ (some l.created)⟩] (l.renew framer)
  | fails {framer : Framer} : l.client = none →
      Change w l [⟨l, .create ⟨w, framer, 0⟩ none⟩] l
  | connects {c : Client} : l.client = some c → c.connected = false →
      Change w l [⟨l, .connect c.number⟩] l
  | asks {c : Client} {request : ρ} : l.client = some c → c.connected = true →
      Change w l [⟨l, .request c.number request⟩] l
  | hears {c : Client} : l.client = some c → Change w l [⟨l, .reply c.number⟩] l
  | closes {c : Client} : l.client = some c → Change w l [⟨l, .close c.number⟩] l.forget
  | turns (on : Bool) : Change w l [] (l.setConnected on)

inductive Course (w : Wire) : Link → List (Moment ρ) → Link → Prop where
  | nil (l : Link) : Course w l [] l
  | cons {l m n : Link} {ms ns : List (Moment ρ)} :
      Change w l ms m → Course w m ns n → Course w l (ms ++ ns) n

theorem Change.course {l m : Link} {ms : List (Moment ρ)} (h : Change w l ms m) :
    Course w l ms m := by
  simpa using Course.cons h (.nil m)

theorem Course.append {l m n : Link} {ms ns : List (Moment ρ)} (h : Course w l ms m)
    (h' : Course w m ns n) : Course w l (ms ++ ns) n := by
  induction h with
  | nil => exact h'
  | cons hc _ ih =>
    rw [List.append_assoc]
    exact .cons hc (ih h')

def Follows (w : Wire) (x : Activity ρ α) : Prop :=
  ∀ l, Course w l (x l).moments (x l).link

theorem follows_pure (a : α) : Follows w (pure a : Activity ρ α) := fun l => .nil l

theorem follows_modify_setConnected (on : Bool) :
    Follows w (Activity.modify (setConnected · on) : Activity ρ Unit) :=
  fun _ => (Change.turns on).course

theorem Follows.bind {x : Activity ρ α} {f : α → Activity ρ β} (h : Follows w x)
    (h' : ∀ a, Follows w (f a)) : Follows w (x >>= f) :=
  fun l => (h l).append (h' _ _)

section Sections

variable (plan : Plan ρ) (framer : Framer) (request : ρ)

theorem follows_closeClient : Follows w (closeClient w : Activity ρ Unit) := by
  intro l
  cases hc : l.client with
  | none => simpa [closeClient_of_none hc] using Course.nil l
  | some c => simpa [closeClient_of_some hc] using (Change.closes hc).course

theorem follows_arrive : Follows w (arrive w plan framer request) := by
  intro l
  have hd := follows_closeClient (ρ := ρ) (w := w) l
  have hn : ((closeClient w : Activity ρ Unit) l).link.client = none := client_closeClient
  by_cases hs : l.Serves framer
  · obtain ⟨c, hc⟩ := Option.isSome_iff_exists.mp hs.1
    cases hb : c.connected with
    | true =>
      rw [arrive_of_connected w plan request hc hs.2 hb]
      exact (Change.asks hc hb).course
    | false =>
      obtain ⟨logs, ha⟩ := arrive_of_lost w plan request hc hs.2 hb
      rw [ha]
      exact (Change.connects hc hb).course
  · cases hp : plan.create with
    | error fault =>
      obtain ⟨logs, ha⟩ := arrive_of_create_error w plan request hs hp
      rw [ha]
      exact hd.append (Change.fails hn).course
    | ok _ =>
      obtain ⟨logs, ha⟩ := arrive_of_create_ok w plan request hs hp
      rw [ha, ← created_closeClient (ρ := ρ) (w := w)]
      exact hd.append (.cons (.opens hn) (Change.connects client_renew rfl).course)

theorem follows_resume : Follows w (resume w plan request) := by
  intro l
  cases hp : plan.connect with
  | error fault => simpa [resume_of_connect_error w plan request hp] using Course.nil l
  | ok connected =>
    cases connected with
    | false =>
      obtain ⟨logs, hr⟩ := resume_of_refused w plan request (l := l) hp
      rw [hr]
      exact follows_closeClient l
    | true =>
      cases hc : l.client with
      | none =>
        simpa [resume, hp, client_setConnected_of_none hc] using
          (Change.turns (w := w) (ρ := ρ) (l := l) true).course
      | some c =>
        obtain ⟨logs, hr⟩ := resume_of_connected w plan request hc hp
        rw [hr]
        exact .cons (.turns true) (Change.asks (client_setConnected hc) rfl).course

theorem follows_heed (answer : Except DeviceFault Response) :
    Follows w (heed w answer : Activity ρ Unit) := by
  cases answer with
  | ok r => exact follows_pure ()
  | error fault =>
    by_cases hk : fault.kind = .stack .connection
    · simp only [heed, hk, if_true]
      exact Follows.bind (fun l => .nil l) fun _ => follows_closeClient
    · simp only [heed, hk, if_false]
      exact follows_pure ()

theorem follows_settle : Follows w (settle w plan request) := by
  intro l
  have hh := follows_heed (ρ := ρ) (w := w) (plan.reply request) l
  cases hc : l.client with
  | none => simpa [settle, hc] using hh
  | some c => simpa [settle, hc] using (Change.hears hc).course.append hh

theorem follows_execute : Follows w (execute w plan framer request) := by
  refine (follows_arrive plan framer request).bind fun v => ?_
  match v with
  | .error _ => exact follows_pure _
  | .ok .answer => exact follows_settle plan request
  | .ok .connection =>
    refine (follows_resume plan request).bind fun u => ?_
    match u with
    | .error _ => exact follows_pure _
    | .ok () => exact follows_settle plan request

end Sections

theorem follows_task (task : Task ρ) : Follows w (task.run (some w)) := by
  cases task with
  | close => exact follows_closeClient.bind fun _ => follows_pure _
  | execute plan framer request =>
    exact (follows_execute plan framer request).bind fun _ => follows_pure _

theorem follows_job (job : Job ρ) : Follows w (job.run (some w)) := by
  have hl : Follows w (Activity.modify lose : Activity ρ Unit) := follows_modify_setConnected false
  match job with
  | ⟨false, none⟩ => exact follows_pure _
  | ⟨false, some task⟩ => exact follows_task task
  | ⟨true, none⟩ => exact hl.bind fun _ => follows_pure _
  | ⟨true, some task⟩ => exact hl.bind fun _ => follows_task task

theorem follows_inTurn (jobs : List (Job ρ)) : Follows w (inTurn (some w) jobs) := by
  induction jobs with
  | nil => exact follows_pure _
  | cons job jobs ih => exact (follows_job job).bind fun _ => ih.bind fun _ => follows_pure _

end ModbusRpc.Link
