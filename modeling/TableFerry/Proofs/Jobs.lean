import TableFerry.Database.Session
/-! What the runs of jobs ensure. A job only ever adds to the trace, so a run is described by its result,
by the events that it added and by the world it ended in. `Job.Ensures` states a property of these three,
and one rule for each way of building jobs brings it down to the requests. -/

namespace TableFerry.Job

variable {σ α β : Type}

/-- The run of a job from a world adds events to the trace and meets `post` with its result, these events
and its last world. -/
def Ensures (job : Job σ α) (world : World σ)
    (post : Except Fault α → List Event → World σ → Prop) : Prop :=
  ∃ events, (job.run world).2.trace = world.trace ++ events ∧
    post (job.run world).1 events (job.run world).2

variable {job : Job σ α} {world : World σ}
variable {post : Except Fault α → List Event → World σ → Prop}

theorem ensures_iff (job : Job σ α) {result : Except Fault α} {events : List Event} {final : World σ}
    (ran : job.run world = (result, final)) (grown : final.trace = world.trace ++ events) :
    job.Ensures world post ↔ post result events final := by
  simp only [Ensures, ran]
  constructor
  · intro ensured
    rcases ensured with ⟨added, same, met⟩
    rw [grown] at same
    rwa [List.append_cancel_left same]
  · intro met
    exact ⟨events, grown, met⟩

theorem Ensures.imp {weaker : Except Fault α → List Event → World σ → Prop}
    (ensured : job.Ensures world post)
    (implies : ∀ result events final, post result events final → weaker result events final) :
    job.Ensures world weaker := by
  rcases ensured with ⟨events, grown, met⟩
  exact ⟨events, grown, implies _ _ _ met⟩

/-- From a world the job comes to a result and a last world, and these are the events it adds on the way. -/
def Runs (job : Job σ α) (world : World σ) (result : Except Fault α) (events : List Event) (final : World σ) :
    Prop :=
  job.run world = (result, final) ∧ final.trace = world.trace ++ events

theorem Runs.met {result : Except Fault α} {events : List Event} {final : World σ}
    (runs : job.Runs world result events final) (ensured : job.Ensures world post) : post result events final :=
  (ensures_iff job runs.1 runs.2).mp ensured

theorem Ensures.runs (ensured : job.Ensures world post) :
    job.Ensures world fun result events final => job.Runs world result events final ∧ post result events final := by
  rcases ensured with ⟨events, grown, met⟩
  exact ⟨events, grown, ⟨rfl, grown⟩, met⟩

theorem Ensures.and {other : Except Fault α → List Event → World σ → Prop} (ensured : job.Ensures world post)
    (also : job.Ensures world other) :
    job.Ensures world fun result events final => post result events final ∧ other result events final := by
  apply ensured.runs.imp
  intro result events final outcome
  rcases outcome with ⟨runs, met⟩
  exact ⟨met, runs.met also⟩

theorem ok_of_toOption {result : Except Fault α} {value : α} (given : result.toOption = some value) :
    result = .ok value := by
  cases result with
  | ok found =>
      cases given
      rfl
  | error fault => cases given

/-! Sequences. -/

theorem run_bind (next : α → Job σ β) :
    (job >>= next).run world =
      match (job.run world).1 with
      | .ok value => (next value).run (job.run world).2
      | .error fault => (.error fault, (job.run world).2) := by
  change ExceptT.bindCont next (job.run world).1 (job.run world).2 = _
  cases (job.run world).1 <;> rfl

theorem ensures_bind {next : α → Job σ β} {post : Except Fault β → List Event → World σ → Prop}
    (first : job.Ensures world fun result events middle =>
      match result with
      | .ok value => (next value).Ensures middle fun result more final => post result (events ++ more) final
      | .error fault => post (.error fault) events middle) :
    (job >>= next).Ensures world post := by
  rcases first with ⟨events, grown, met⟩
  cases ran : (job.run world).1 with
  | error fault =>
      simp only [ran] at met
      refine ⟨events, ?_, ?_⟩
      · simpa only [run_bind, ran] using grown
      · simpa only [run_bind, ran] using met
  | ok value =>
      simp only [ran] at met
      rcases met with ⟨more, longer, reached⟩
      refine ⟨events ++ more, ?_, ?_⟩
      · simpa only [run_bind, ran, ← List.append_assoc, ← grown] using longer
      · simpa only [run_bind, ran] using reached

theorem Ensures.bind {next : α → Job σ β} {last : Except Fault β → List Event → World σ → Prop}
    (first : job.Ensures world post)
    (ok : ∀ value events middle, post (.ok value) events middle →
      (next value).Ensures middle fun result more final => last result (events ++ more) final)
    (error : ∀ fault events middle, post (.error fault) events middle → last (.error fault) events middle) :
    (job >>= next).Ensures world last := by
  apply ensures_bind
  apply first.imp
  intro result events middle met
  cases result with
  | ok value => exact ok value events middle met
  | error fault => exact error fault events middle met

/-! Single steps. -/

@[simp] theorem ensures_pure (value : α) :
    (pure value : Job σ α).Ensures world post ↔ post (.ok value) [] world :=
  ensures_iff (pure value : Job σ α) rfl (List.append_nil _).symm

@[simp] theorem ensures_throw (fault : Fault) :
    (throw fault : Job σ α).Ensures world post ↔ post (.error fault) [] world :=
  ensures_iff (throw fault : Job σ α) rfl (List.append_nil _).symm

@[simp] theorem ensures_ofExcept (result : Except Fault α) :
    (ofExcept result : Job σ α).Ensures world post ↔ post result [] world :=
  ensures_iff (ofExcept result) rfl (List.append_nil _).symm

@[simp] theorem ensures_get {post : Except Fault (World σ) → List Event → World σ → Prop} :
    (get : Job σ (World σ)).Ensures world post ↔ post (.ok world) [] world :=
  ensures_iff (get : Job σ (World σ)) rfl (List.append_nil _).symm

@[simp] theorem ensures_clock {post : Except Fault Number.Double → List Event → World σ → Prop} :
    (clock : Job σ Number.Double).Ensures world post ↔ post (.ok (world.now world.state)) [] world :=
  ensures_iff clock rfl (List.append_nil _).symm

@[simp] theorem ensures_answer (f : Answer σ α) :
    (answer f).Ensures world post ↔
      post (f world.state).1 [] { world with state := (f world.state).2 } :=
  ensures_iff (answer f) rfl (List.append_nil _).symm

section Unit

variable {post : Except Fault Unit → List Event → World σ → Prop}

theorem ensures_modify {f : World σ → World σ} (same : (f world).trace = world.trace) :
    (modify f : Job σ Unit).Ensures world post ↔ post (.ok ()) [] (f world) :=
  ensures_iff (modify f : Job σ Unit) rfl (same.trans (List.append_nil _).symm)

@[simp] theorem ensures_trace (event : Event) :
    (trace event).Ensures world post ↔
      post (.ok ()) [event] { world with trace := world.trace ++ [event] } :=
  ensures_iff (trace event) rfl rfl

@[simp] theorem ensures_note (level : Level) (text : String) :
    (note level text).Ensures world post ↔
      post (.ok ()) [] { world with
        draft := { world.draft with log := world.draft.log ++ [⟨level, text⟩] } } :=
  ensures_iff (note level text) rfl (List.append_nil _).symm

@[simp] theorem ensures_noteAll (lines : List LogLine) :
    (noteAll lines).Ensures world post ↔
      post (.ok ()) [] { world with draft := { world.draft with log := world.draft.log ++ lines } } :=
  ensures_iff (noteAll lines) rfl (List.append_nil _).symm

@[simp] theorem ensures_enter (stage : Stage) :
    (enter stage).Ensures world post ↔ post (.ok ()) [] { world with stage := stage } :=
  ensures_iff (enter stage) rfl (List.append_nil _).symm

@[simp] theorem ensures_change (f : σ → σ) :
    (change f).Ensures world post ↔ post (.ok ()) [] { world with state := f world.state } :=
  ensures_iff (change f) rfl (List.append_nil _).symm

@[simp] theorem ensures_send (db : Database σ) (request : Request) :
    (db.send request).Ensures world post ↔
      post (.ok ()) [.sent db.label request]
        { world with trace := world.trace ++ [.sent db.label request] } :=
  ensures_trace _

end Unit

@[simp] theorem ensures_draft (drafting : Drafting α) :
    (draft drafting).Ensures world post ↔
      post (drafting.run world.draft).1 [] { world with draft := (drafting.run world.draft).2 } :=
  ensures_iff (draft drafting) rfl (List.append_nil _).symm

@[simp] theorem ensures_attempt {post : Except Fault (Except Fault α) → List Event → World σ → Prop} :
    job.attempt.Ensures world post ↔
      job.Ensures world fun result events final => post (.ok result) events final :=
  Iff.rfl

/-! Jobs whose events are all of one sort. -/

/-- Every run of the job adds only allowed events and gives only good values. -/
def Keeps (allowed : Event → Prop) (good : α → Prop) (job : Job σ α) : Prop :=
  ∀ world, job.Ensures world fun result events _ =>
    (∀ event ∈ events, allowed event) ∧ ∀ value, result = .ok value → good value

section Keeps

variable {allowed : Event → Prop} {good : α → Prop} {fine : β → Prop}

theorem Keeps.imp {better : α → Prop} (kept : job.Keeps allowed good)
    (implies : ∀ value, good value → better value) : job.Keeps allowed better := by
  intro world
  apply (kept world).imp
  intro result events final outcome
  rcases outcome with ⟨events_allowed, value_good⟩
  exact ⟨events_allowed, fun value given => implies value (value_good value given)⟩

theorem Keeps.bind {next : α → Job σ β} (first : job.Keeps allowed good)
    (then_ : ∀ value, good value → (next value).Keeps allowed fine) :
    (job >>= next).Keeps allowed fine := by
  intro world
  apply (first world).bind
  · intro value events middle outcome
    rcases outcome with ⟨before, value_good⟩
    apply (then_ value (value_good value rfl) middle).imp
    intro result more final outcome
    rcases outcome with ⟨after, last_fine⟩
    refine ⟨?_, last_fine⟩
    intro event member
    rcases List.mem_append.mp member with early | late
    · exact before event early
    · exact after event late
  · intro fault events middle outcome
    rcases outcome with ⟨before, _⟩
    exact ⟨before, fun value given => nomatch given⟩

theorem keeps_pure {value : α} (value_good : good value) : (pure value : Job σ α).Keeps allowed good := by
  intro world
  rw [ensures_pure]
  refine ⟨(fun event member => nomatch member), ?_⟩
  intro _ same
  cases same
  exact value_good

theorem keeps_throw (fault : Fault) : (throw fault : Job σ α).Keeps allowed good := by
  intro world
  rw [ensures_throw]
  exact ⟨(fun event member => nomatch member), fun value given => nomatch given⟩

theorem keeps_throw_bind (fault : Fault) (next : β → Job σ α) :
    ((throw fault : Job σ β) >>= next).Keeps allowed good :=
  keeps_throw fault

/-- A job that adds nothing to the trace keeps to any sort of events. -/
theorem keeps_silent (silent : ∀ world, job.Ensures world fun result events _ =>
      events = [] ∧ ∀ value, result = .ok value → good value) : job.Keeps allowed good := by
  intro world
  apply (silent world).imp
  intro result events final outcome
  rcases outcome with ⟨rfl, value_good⟩
  exact ⟨(fun event member => nomatch member), value_good⟩

theorem keeps_ofExcept {result : Except Fault α} (value_good : ∀ value, result = .ok value → good value) :
    (ofExcept result : Job σ α).Keeps allowed good := by
  apply keeps_silent
  intro world
  rw [ensures_ofExcept]
  exact ⟨rfl, value_good⟩

theorem keeps_answer (f : Answer σ α) : (answer f).Keeps allowed fun _ => True :=
  keeps_silent fun _ => (ensures_answer f).mpr ⟨rfl, fun _ _ => trivial⟩

theorem keeps_draft {drafting : Drafting α}
    (value_good : ∀ draft value, (drafting.run draft).1 = .ok value → good value) :
    (draft drafting : Job σ α).Keeps allowed good :=
  keeps_silent fun world => (ensures_draft drafting).mpr ⟨rfl, value_good world.draft⟩

theorem keeps_get : (get : Job σ (World σ)).Keeps allowed fun _ => True :=
  keeps_silent fun _ => ensures_get.mpr ⟨rfl, fun _ _ => trivial⟩

theorem keeps_clock : (clock : Job σ Number.Double).Keeps allowed fun _ => True :=
  keeps_silent fun _ => ensures_clock.mpr ⟨rfl, fun _ _ => trivial⟩

theorem keeps_note (level : Level) (text : String) :
    (note level text : Job σ Unit).Keeps allowed fun _ => True :=
  keeps_silent fun _ => (ensures_note level text).mpr ⟨rfl, fun _ _ => trivial⟩

theorem keeps_noteAll (lines : List LogLine) :
    (noteAll lines : Job σ Unit).Keeps allowed fun _ => True :=
  keeps_silent fun _ => (ensures_noteAll lines).mpr ⟨rfl, fun _ _ => trivial⟩

theorem keeps_enter (stage : Stage) : (enter stage : Job σ Unit).Keeps allowed fun _ => True :=
  keeps_silent fun _ => (ensures_enter stage).mpr ⟨rfl, fun _ _ => trivial⟩

theorem keeps_change (f : σ → σ) : (change f).Keeps allowed fun _ => True :=
  keeps_silent fun _ => (ensures_change f).mpr ⟨rfl, fun _ _ => trivial⟩

theorem keeps_trace {event : Event} (event_allowed : allowed event) :
    (trace event : Job σ Unit).Keeps allowed fun _ => True := by
  intro world
  rw [ensures_trace]
  exact ⟨fun _ member => List.mem_singleton.mp member ▸ event_allowed, fun _ _ => trivial⟩

theorem keeps_send {db : Database σ} {request : Request} (sent_allowed : allowed (.sent db.label request)) :
    (db.send request).Keeps allowed fun _ => True :=
  keeps_trace sent_allowed

theorem Keeps.attempt (kept : job.Keeps allowed good) :
    job.attempt.Keeps allowed fun result => ∀ value, result = .ok value → good value := by
  intro world
  rw [ensures_attempt]
  apply (kept world).imp
  intro result events final outcome
  rcases outcome with ⟨events_allowed, value_good⟩
  refine ⟨events_allowed, ?_⟩
  intro _ same
  cases same
  exact value_good

theorem keeps_mapM {γ : Type} {each : γ → Job σ α} (kept : ∀ item, (each item).Keeps allowed good) (items : List γ) :
    (items.mapM each).Keeps allowed fun _ => True := by
  induction items with
  | nil => exact keeps_pure trivial
  | cons head tail ih =>
      rw [List.mapM_cons]
      apply (kept head).bind
      intro _ _
      apply ih.bind
      intro _ _
      exact keeps_pure trivial

theorem keeps_foldlM {γ : Type} {step : α → γ → Job σ α}
    (kept : ∀ value item, (step value item).Keeps allowed fun _ => True) (items : List γ) (value : α) :
    (items.foldlM step value).Keeps allowed fun _ => True := by
  induction items generalizing value with
  | nil => exact keeps_pure trivial
  | cons head tail ih =>
      rw [List.foldlM_cons]
      apply (kept value head).bind
      intro next _
      exact ih next

end Keeps

/-! Jobs that lead from one world to the next by a relation. -/

/-- The relation holds of every run; it sees whether the job succeeded. -/
def Follows (relation : Bool → World σ → List Event → World σ → Prop) (job : Job σ α) : Prop :=
  ∀ world, job.Ensures world fun result events final => relation result.isOk world events final

/-- A relation that holds as long as nothing is sent, announced or answered, that a failure does not break, and
that holds of two steps if it holds of each. -/
structure Closed (relation : Bool → World σ → List Event → World σ → Prop) : Prop where
  quiet : ∀ world draft stage, relation true world [] { world with draft := draft, stage := stage }
  breaks : ∀ {world events final}, relation true world events final → relation false world events final
  trans : ∀ {first second world events middle more final}, relation first world events middle →
    relation second middle more final → relation (first && second) world (events ++ more) final

section Follows

variable {relation : Bool → World σ → List Event → World σ → Prop}

theorem Closed.follows (closed : Closed relation)
    (quiet : ∀ world, job.Ensures world fun _ events final =>
      events = [] ∧ ∃ draft stage, final = { world with draft := draft, stage := stage }) :
    job.Follows relation := by
  intro world
  apply (quiet world).imp
  intro result events final outcome
  rcases outcome with ⟨rfl, draft, stage, rfl⟩
  cases result with
  | ok value => exact closed.quiet world draft stage
  | error fault => exact closed.breaks (closed.quiet world draft stage)

theorem Closed.bind {next : α → Job σ β} (closed : Closed relation) (first : job.Follows relation)
    (then_ : ∀ value, (next value).Follows relation) : (job >>= next).Follows relation := by
  intro world
  apply (first world).bind
  · intro value events middle related
    apply (then_ value middle).imp
    intro result more final goes_on
    exact closed.trans related goes_on
  · intro fault events middle related
    exact related

theorem Closed.pure (closed : Closed relation) (value : α) : (pure value : Job σ α).Follows relation :=
  closed.follows fun world => (ensures_pure value).mpr ⟨rfl, world.draft, world.stage, rfl⟩

theorem Closed.throw (closed : Closed relation) (fault : Fault) : (throw fault : Job σ α).Follows relation :=
  closed.follows fun world => (ensures_throw fault).mpr ⟨rfl, world.draft, world.stage, rfl⟩

theorem Closed.ofExcept (closed : Closed relation) (result : Except Fault α) :
    (ofExcept result : Job σ α).Follows relation :=
  closed.follows fun world => (ensures_ofExcept result).mpr ⟨rfl, world.draft, world.stage, rfl⟩

theorem Closed.note (closed : Closed relation) (level : Level) (text : String) :
    (note level text : Job σ Unit).Follows relation :=
  closed.follows fun world => (ensures_note level text).mpr ⟨rfl, _, world.stage, rfl⟩

theorem Closed.noteAll (closed : Closed relation) (lines : List LogLine) :
    (noteAll lines : Job σ Unit).Follows relation :=
  closed.follows fun world => (ensures_noteAll lines).mpr ⟨rfl, _, world.stage, rfl⟩

theorem Closed.enter (closed : Closed relation) (stage : Stage) : (enter stage : Job σ Unit).Follows relation :=
  closed.follows fun world => (ensures_enter stage).mpr ⟨rfl, world.draft, stage, rfl⟩

theorem Closed.draft (closed : Closed relation) (drafting : Drafting α) :
    (draft drafting : Job σ α).Follows relation :=
  closed.follows fun world => (ensures_draft drafting).mpr ⟨rfl, _, world.stage, rfl⟩

theorem Closed.clock (closed : Closed relation) : (clock : Job σ Number.Double).Follows relation :=
  closed.follows fun world => ensures_clock.mpr ⟨rfl, world.draft, world.stage, rfl⟩

theorem Closed.get (closed : Closed relation) : (get : Job σ (World σ)).Follows relation :=
  closed.follows fun world => ensures_get.mpr ⟨rfl, world.draft, world.stage, rfl⟩

/-- What follows a job in any case goes on from a failure as well. -/
theorem Closed.finally (closed : Closed relation) (first : job.Follows relation) {last : Job σ Unit}
    (then_ : last.Follows relation)
    (succeeds : ∀ world, last.Ensures world fun result _ _ => result = .ok ()) :
    (do
      let result ← job.attempt
      last
      Job.ofExcept result).Follows relation := by
  intro world
  apply ensures_bind
  rw [ensures_attempt]
  apply (first world).imp
  intro result events middle related
  apply ensures_bind
  apply ((then_ middle).and (succeeds middle)).imp
  intro closing more final outcome
  rcases outcome with ⟨goes_on, rfl⟩
  rw [ensures_ofExcept, List.append_nil]
  have both : relation (result.isOk && true) world (events ++ more) final := closed.trans related goes_on
  rwa [Bool.and_true] at both

/-- A relation that does not see failures holds of attempts as well. -/
theorem Follows.attempt (follows : job.Follows relation)
    (mends : ∀ {world events final}, relation false world events final → relation true world events final) :
    job.attempt.Follows relation := by
  intro world
  rw [ensures_attempt]
  apply (follows world).imp
  intro result events final related
  cases result with
  | ok value => exact related
  | error fault => exact mends related

end Follows

/-! Jobs that never miss an event. -/

section Emits

variable {event : Event}

/-- Every run of the job adds the event. -/
def Emits (event : Event) (job : Job σ α) : Prop := ∀ world, job.Ensures world fun _ events _ => event ∈ events

theorem Emits.bind {next : α → Job σ β} (emits : job.Emits event)
    (grows : ∀ value, (next value).Keeps (fun _ => True) fun _ => True) : (job >>= next).Emits event := by
  intro world
  apply (emits world).bind
  · intro value events middle member
    apply (grows value middle).imp
    intro result more final _
    exact List.mem_append_left more member
  · intro fault events middle member
    exact member

/-- An event that comes after a first step. -/
theorem emits_behind {next : α → Job σ β} {good : α → Prop}
    (first : ∀ world, job.Ensures world fun result _ _ => ∃ value, result = .ok value ∧ good value)
    (then_ : ∀ value, good value → (next value).Emits event) : (job >>= next).Emits event := by
  intro world
  apply ensures_bind
  apply (first world).imp
  intro result events middle outcome
  rcases outcome with ⟨value, rfl, value_good⟩
  apply (then_ value value_good middle).imp
  intro result more final member
  exact List.mem_append_right events member

/-- An event that comes after a first step whose value does not matter. -/
theorem emits_step {next : α → Job σ β}
    (first : ∀ world, job.Ensures world fun result _ _ => ∃ value, result = .ok value)
    (then_ : ∀ value, (next value).Emits event) : (job >>= next).Emits event := by
  intro world
  apply ensures_bind
  apply (first world).imp
  intro result events middle outcome
  rcases outcome with ⟨value, rfl⟩
  apply (then_ value middle).imp
  intro result more final member
  exact List.mem_append_right events member

theorem Emits.attempt (emits : job.Emits event) : job.attempt.Emits event :=
  fun world => ensures_attempt.mpr (emits world)

theorem emits_send (db : Database σ) (request : Request) : (db.send request).Emits (.sent db.label request) :=
  fun _ => (ensures_send db request).mpr List.mem_cons_self

end Emits

/-! Jobs that succeed. -/

/-- An answer gives `value` in every kept state and leads to a kept state. -/
def Gives (kept : σ → Prop) (answer : Answer σ α) (value : α) : Prop :=
  ∀ state, kept state → ∃ next, kept next ∧ answer state = (.ok value, next)

/-- An answer fails in no kept state and leads to a kept state. -/
def Succeeds (kept : σ → Prop) (answer : Answer σ α) : Prop :=
  ∀ state, kept state → ∃ value next, kept next ∧ answer state = (.ok value, next)

/-- From a kept state the job gives `value`, adds `events` and ends in a kept state. -/
def Performs (kept : σ → Prop) (job : Job σ α) (value : α) (events : List Event) : Prop :=
  ∀ world, kept world.state → job.Ensures world fun result added final =>
    result = .ok value ∧ added = events ∧ kept final.state

section Performs

variable {kept : σ → Prop} {value : α} {events : List Event}

theorem Performs.bind {next : α → Job σ β} {last : β} {more : List Event}
    (first : job.Performs kept value events) (then_ : (next value).Performs kept last more) :
    (job >>= next).Performs kept last (events ++ more) := by
  intro world start
  apply ensures_bind
  apply (first world start).imp
  intro result added middle outcome
  rcases outcome with ⟨rfl, rfl, middle_kept⟩
  apply (then_ middle middle_kept).imp
  intro result added' final outcome
  rcases outcome with ⟨rfl, rfl, final_kept⟩
  exact ⟨rfl, rfl, final_kept⟩

theorem performs_pure (value : α) : (pure value : Job σ α).Performs kept value [] :=
  fun _ start => (ensures_pure value).mpr ⟨rfl, rfl, start⟩

theorem performs_ofExcept {result : Except Fault α} (given : result = .ok value) :
    (ofExcept result : Job σ α).Performs kept value [] :=
  fun _ start => (ensures_ofExcept result).mpr ⟨given, rfl, start⟩

theorem performs_note (level : Level) (text : String) :
    (note level text : Job σ Unit).Performs kept () [] :=
  fun _ start => (ensures_note level text).mpr ⟨rfl, rfl, start⟩

theorem performs_noteAll (lines : List LogLine) : (noteAll lines : Job σ Unit).Performs kept () [] :=
  fun _ start => (ensures_noteAll lines).mpr ⟨rfl, rfl, start⟩

theorem performs_send (db : Database σ) (request : Request) :
    (db.send request).Performs kept () [.sent db.label request] :=
  fun _ start => (ensures_send db request).mpr ⟨rfl, rfl, start⟩

theorem performs_answer {f : Answer σ α} (given : Gives kept f value) :
    (answer f).Performs kept value [] := by
  intro world start
  obtain ⟨next, next_kept, answered⟩ := given world.state start
  rw [ensures_answer, answered]
  exact ⟨rfl, rfl, next_kept⟩

/-- An answer whose value does not matter. -/
theorem performs_answer_then {f : Answer σ α} {next : α → Job σ β} {last : β} {more : List Event}
    (succeeds : Succeeds kept f) (then_ : ∀ value, (next value).Performs kept last more) :
    (answer f >>= next).Performs kept last more := by
  intro world start
  obtain ⟨value, state, state_kept, answered⟩ := succeeds world.state start
  apply ensures_bind
  rw [ensures_answer, answered]
  exact then_ value _ state_kept

theorem Performs.attempt (performed : job.Performs kept value events) :
    job.attempt.Performs kept (.ok value) events := by
  intro world start
  rw [ensures_attempt]
  apply (performed world start).imp
  intro result added final outcome
  rcases outcome with ⟨rfl, rfl, final_kept⟩
  exact ⟨rfl, rfl, final_kept⟩

end Performs

/-- From a kept state the job succeeds with a value and events that meet `post`, and ends in a kept state. -/
def Yields (kept : σ → Prop) (job : Job σ α) (post : α → List Event → Prop) : Prop :=
  ∀ world, kept world.state → job.Ensures world fun result events final =>
    ∃ value, result = .ok value ∧ post value events ∧ kept final.state

section Yields

variable {kept : σ → Prop} {post : α → List Event → Prop} {last : β → List Event → Prop}

theorem Performs.yields {value : α} {events : List Event} (performed : job.Performs kept value events)
    (met : post value events) : job.Yields kept post := by
  intro world start
  apply (performed world start).imp
  intro result added final outcome
  rcases outcome with ⟨rfl, rfl, final_kept⟩
  exact ⟨value, rfl, met, final_kept⟩

theorem Yields.bind {next : α → Job σ β} (first : job.Yields kept post)
    (then_ : ∀ value events, post value events →
      (next value).Yields kept fun value more => last value (events ++ more)) :
    (job >>= next).Yields kept last := by
  intro world start
  apply ensures_bind
  apply (first world start).imp
  intro result events middle outcome
  rcases outcome with ⟨value, rfl, met, middle_kept⟩
  exact then_ value events met middle middle_kept

/-- A first step that is known beforehand. -/
theorem Performs.yields_bind {next : α → Job σ β} {value : α} {events : List Event}
    (performed : job.Performs kept value events)
    (then_ : (next value).Yields kept fun value more => last value (events ++ more)) :
    (job >>= next).Yields kept last := by
  have first : job.Yields kept fun given added => given = value ∧ added = events := performed.yields ⟨rfl, rfl⟩
  apply first.bind
  intro given added outcome
  rcases outcome with ⟨rfl, rfl⟩
  exact then_

theorem Yields.attempt_bind {next : Except Fault α → Job σ β} (yields : job.Yields kept post)
    (then_ : ∀ value events, post value events →
      (next (.ok value)).Yields kept fun value more => last value (events ++ more)) :
    (job.attempt >>= next).Yields kept last := by
  intro world start
  apply ensures_bind
  rw [ensures_attempt]
  apply (yields world start).imp
  intro result events middle outcome
  rcases outcome with ⟨value, rfl, met, middle_kept⟩
  exact then_ value events met middle middle_kept

theorem yields_answer {f : Answer σ α}
    (gives : ∀ state, kept state → ∃ value next, post value [] ∧ kept next ∧ f state = (.ok value, next)) :
    (answer f).Yields kept post := by
  intro world start
  obtain ⟨value, next, met, next_kept, answered⟩ := gives world.state start
  rw [ensures_answer, answered]
  exact ⟨value, rfl, met, next_kept⟩

end Yields

/-- From a state with `before` the job succeeds and ends in a state with `after`. -/
def Passes (before after : σ → Prop) (job : Job σ α) : Prop :=
  ∀ world, before world.state → job.Ensures world fun result _ final =>
    (∃ value, result = .ok value) ∧ after final.state

section Passes

variable {before between after : σ → Prop}

theorem Passes.bind {next : α → Job σ β} (first : job.Passes before between)
    (then_ : ∀ value, (next value).Passes between after) : (job >>= next).Passes before after := by
  intro world start
  apply ensures_bind
  apply (first world start).imp
  intro result events middle outcome
  rcases outcome with ⟨⟨value, rfl⟩, reached⟩
  exact then_ value middle reached

theorem Passes.attempt_bind {next : Except Fault α → Job σ β} (first : job.Passes before between)
    (then_ : ∀ value, (next (.ok value)).Passes between after) :
    (job.attempt >>= next).Passes before after := by
  intro world start
  apply ensures_bind
  rw [ensures_attempt]
  apply (first world start).imp
  intro result events middle outcome
  rcases outcome with ⟨⟨value, rfl⟩, reached⟩
  exact then_ value middle reached

theorem passes_pure (value : α) : (pure value : Job σ α).Passes before before :=
  fun _ start => (ensures_pure value).mpr ⟨⟨value, rfl⟩, start⟩

theorem passes_note (level : Level) (text : String) : (note level text : Job σ Unit).Passes before before :=
  fun _ start => (ensures_note level text).mpr ⟨⟨(), rfl⟩, start⟩

theorem passes_send (db : Database σ) (request : Request) : (db.send request).Passes before before :=
  fun _ start => (ensures_send db request).mpr ⟨⟨(), rfl⟩, start⟩

theorem passes_change {f : σ → σ} (leads : ∀ state, before state → after (f state)) :
    (change f).Passes before after :=
  fun world start => (ensures_change f).mpr ⟨⟨(), rfl⟩, leads world.state start⟩

theorem passes_answer {f : Answer σ α}
    (leads : ∀ state, before state → ∃ value next, after next ∧ f state = (.ok value, next)) :
    (answer f).Passes before after := by
  intro world start
  obtain ⟨value, next, reached, answered⟩ := leads world.state start
  rw [ensures_answer, answered]
  exact ⟨⟨value, rfl⟩, reached⟩

end Passes

end TableFerry.Job

namespace TableFerry.Database

variable {σ α : Type} {job : Job σ α} {world : World σ}
variable {post : Except Fault α → List Event → World σ → Prop}

theorem ensures_withConnection (db : Database σ)
    (refused : ∀ fault state, db.connect world.state = (.error fault, state) →
      post (.error fault) [] { world with state := state })
    (opened : ∀ state, db.connect world.state = (.ok (), state) →
      job.Ensures { world with state := state, trace := world.trace ++ [.sent db.label .connect] }
        fun result events final =>
          post result (.sent db.label .connect :: events ++ [.sent db.label .close])
            { final with trace := final.trace ++ [.sent db.label .close] }) :
    (db.withConnection job).Ensures world post := by
  apply Job.ensures_bind
  rw [Job.ensures_answer]
  cases answered : db.connect world.state with
  | mk result state =>
      cases result with
      | error fault => exact refused fault state answered
      | ok value =>
          apply Job.ensures_bind
          rw [Job.ensures_send]
          apply Job.ensures_bind
          rw [Job.ensures_attempt]
          apply (opened state answered).imp
          intro result events final met
          apply Job.ensures_bind
          rw [Job.ensures_send]
          simpa using met

theorem ensures_bracket (db : Database σ) (enter leave undo : Request) (onEnter onLeave onUndo : σ → σ)
    (inside : job.Ensures
      { world with state := onEnter world.state, trace := world.trace ++ [.sent db.label enter] }
      fun result events final =>
        match result with
        | .ok value =>
          post (.ok value) (.sent db.label enter :: events ++ [.sent db.label leave])
            { final with state := onLeave final.state, trace := final.trace ++ [.sent db.label leave] }
        | .error fault =>
          post (.error fault) (.sent db.label enter :: events ++ [.sent db.label undo])
            { final with state := onUndo final.state, trace := final.trace ++ [.sent db.label undo] }) :
    (db.bracket enter leave undo onEnter onLeave onUndo job).Ensures world post := by
  apply Job.ensures_bind
  rw [Job.ensures_send]
  apply Job.ensures_bind
  rw [Job.ensures_change]
  apply Job.ensures_bind
  rw [Job.ensures_attempt]
  apply inside.imp
  intro result events final met
  cases result with
  | ok value =>
      apply Job.ensures_bind
      rw [Job.ensures_send]
      apply Job.ensures_bind
      rw [Job.ensures_change]
      simpa using met
  | error fault =>
      apply Job.ensures_bind
      rw [Job.ensures_send]
      apply Job.ensures_bind
      rw [Job.ensures_change]
      simpa using met

/-- What ends a transaction in which a job came to a result. -/
def ending (db : Database σ) : Except Fault α → Request × Answer σ Unit
  | .ok _ => (.commit, db.commit)
  | .error _ => (.rollback, db.rollback)

theorem ensures_withTransaction (db : Database σ)
    (refused : ∀ fault state, db.begin world.state = (.error fault, state) →
      post (.error fault) [.sent db.label .begin]
        { world with state := state, trace := world.trace ++ [.sent db.label .begin] })
    (opened : ∀ state, db.begin world.state = (.ok (), state) →
      job.Ensures { world with state := state, trace := world.trace ++ [.sent db.label .begin] }
        fun result events final => ∀ answered state, (db.ending result).2 final.state = (answered, state) →
          post (answered.bind fun _ => result)
            (.sent db.label .begin :: events ++ [.sent db.label (db.ending result).1])
            { final with state := state, trace := final.trace ++ [.sent db.label (db.ending result).1] }) :
    (db.withTransaction job).Ensures world post := by
  apply Job.ensures_bind
  rw [Job.ensures_send]
  apply Job.ensures_bind
  rw [Job.ensures_answer]
  dsimp only
  cases begun : db.begin world.state with
  | mk result state =>
      cases result with
      | error fault => exact refused fault state begun
      | ok value =>
          apply Job.ensures_bind
          rw [Job.ensures_attempt]
          apply (opened state begun).imp
          intro result events final met
          have ended := met _ _ rfl
          cases result with
          | ok value =>
              apply Job.ensures_bind
              rw [Job.ensures_send]
              apply Job.ensures_bind
              rw [Job.ensures_answer]
              cases committed : (db.commit final.state).1 <;> simpa [ending, committed, Except.bind] using ended
          | error fault =>
              apply Job.ensures_bind
              rw [Job.ensures_send]
              apply Job.ensures_bind
              rw [Job.ensures_answer]
              cases rolled : (db.rollback final.state).1 <;> simpa [ending, rolled, Except.bind] using ended

section Keeps

variable {allowed : Event → Prop} {good : α → Prop}

theorem keeps_withConnection (db : Database σ) (kept : job.Keeps allowed good)
    (connects : allowed (.sent db.label .connect)) (closes : allowed (.sent db.label .close)) :
    (db.withConnection job).Keeps allowed good := by
  apply (Job.keeps_answer db.connect).bind
  intro _ _
  apply (Job.keeps_send connects).bind
  intro _ _
  apply kept.attempt.bind
  intro result result_good
  apply (Job.keeps_send closes).bind
  intro _ _
  exact Job.keeps_ofExcept result_good

theorem keeps_bracket (db : Database σ) {enter leave undo : Request} {onEnter onLeave onUndo : σ → σ}
    (kept : job.Keeps allowed good) (enters : allowed (.sent db.label enter))
    (leaves : allowed (.sent db.label leave)) (undoes : allowed (.sent db.label undo)) :
    (db.bracket enter leave undo onEnter onLeave onUndo job).Keeps allowed good := by
  apply (Job.keeps_send enters).bind
  intro _ _
  apply (Job.keeps_change onEnter).bind
  intro _ _
  apply kept.attempt.bind
  intro result result_good
  cases result with
  | ok value =>
      apply (Job.keeps_send leaves).bind
      intro _ _
      apply (Job.keeps_change onLeave).bind
      intro _ _
      exact Job.keeps_pure (result_good value rfl)
  | error fault =>
      apply (Job.keeps_send undoes).bind
      intro _ _
      apply (Job.keeps_change onUndo).bind
      intro _ _
      exact Job.keeps_throw fault

end Keeps

theorem performs_withConnection {kept : σ → Prop} {value : α} {events : List Event} (db : Database σ)
    (connects : Job.Gives kept db.connect ()) (performed : job.Performs kept value events) :
    (db.withConnection job).Performs kept value
      (.sent db.label .connect :: events ++ [.sent db.label .close]) := by
  have closed : (db.send .close >>= fun _ => Job.ofExcept (.ok value)).Performs kept value
      [.sent db.label .close] :=
    (Job.performs_send db .close).bind (Job.performs_ofExcept rfl)
  have inside : (job.attempt >>= fun result => db.send .close >>= fun _ => Job.ofExcept result).Performs kept
      value (events ++ [.sent db.label .close]) :=
    performed.attempt.bind closed
  exact (Job.performs_answer connects).bind ((Job.performs_send db .connect).bind inside)

end TableFerry.Database
