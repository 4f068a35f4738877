import TableFerry.Proofs.CatalogueNames
import TableFerry.Proofs.DrawnChoices
import TableFerry.Proofs.RebuildTargets
/-! Which tables a job creates. From a state in which certain tables were created, a job that succeeds creates certain
more; the statements for each of them are executed in one piece, and nothing else that is executed creates a table. One
rule for each way of building jobs brings this down to the statements. -/

namespace TableFerry

open Compiler (createsTable LeavesTables)
open Job (Gives Succeeds)
open Worker (executed?)

/-- What is executed, with the databases it goes to, creates the tables of `made` and no others: the statements of each
go to the database `label` in one piece, and the first of them creates the table. -/
inductive CreationScript (label : String) : List (String × List String) → List (String × String) → Prop
  | quiet {sent : List (String × String)} (leaves : ∀ entry ∈ sent, createsTable entry.2 = false) :
      CreationScript label [] sent
  | table {sent rest : List (String × String)} {made : List (String × List String)} {name head : String}
      {tail : List String} (before : ∀ entry ∈ sent, createsTable entry.2 = false)
      (creates : createsTable head = true) (behind : ∀ sql ∈ tail, createsTable sql = false)
      (later : CreationScript label made rest) :
      CreationScript label ((name, head :: tail) :: made) (sent ++ ((head :: tail).map ((label, ·)) ++ rest))

namespace CreationScript

variable {label : String} {made more : List (String × List String)} {sent rest : List (String × String)}

theorem after_quiet (leaves : ∀ entry ∈ sent, createsTable entry.2 = false) (later : CreationScript label made rest) :
    CreationScript label made (sent ++ rest) := by
  have all {others : List (String × String)} (also : ∀ entry ∈ others, createsTable entry.2 = false) :
      ∀ entry ∈ sent ++ others, createsTable entry.2 = false :=
    fun entry member => (List.mem_append.mp member).elim (leaves entry) (also entry)
  cases later with
  | quiet also => exact .quiet (all also)
  | table before creates behind later =>
      rw [← List.append_assoc]
      exact .table (all before) creates behind later

theorem append (first : CreationScript label made sent) (second : CreationScript label more rest) :
    CreationScript label (made ++ more) (sent ++ rest) := by
  induction first with
  | quiet leaves => exact second.after_quiet leaves
  | table before creates behind _ ih =>
      rw [List.append_assoc, List.append_assoc]
      exact .table before creates behind ih

end CreationScript

namespace Job

variable {σ α β : Type} {label : String} {holds : List String → σ → Prop} {created : List String}
variable {post : α → List (String × List String) → Prop} {last : β → List (String × List String) → Prop}
variable {good : α → Prop}

/-- From a state in which the tables of `created` were created, the job succeeds and creates those of `made`. -/
def Makes (label : String) (holds : List String → σ → Prop) (created : List String) (job : Job σ α)
    (post : α → List (String × List String) → Prop) : Prop :=
  ∀ world, holds created world.state → job.Ensures world fun result events final =>
    ∃ value made, result = .ok value ∧ post value made ∧ CreationScript label made (events.filterMap executed?) ∧
      holds (created ++ made.map (·.1)) final.state

/-- The job succeeds with a good value and creates nothing. -/
def Idle (label : String) (holds : List String → σ → Prop) (created : List String) (job : Job σ α)
    (good : α → Prop) : Prop :=
  job.Makes label holds created fun value made => made = [] ∧ good value

theorem Makes.imp {job : Job σ α} {weaker : α → List (String × List String) → Prop}
    (makes : job.Makes label holds created post) (implies : ∀ value made, post value made → weaker value made) :
    job.Makes label holds created weaker := by
  intro world start
  apply (makes world start).imp
  intro result events final outcome
  rcases outcome with ⟨value, made, given, met, rest⟩
  exact ⟨value, made, given, implies value made met, rest⟩

theorem Makes.bind {job : Job σ α} {next : α → Job σ β} (first : job.Makes label holds created post)
    (then_ : ∀ value made, post value made →
      (next value).Makes label holds (created ++ made.map (·.1)) fun value more => last value (made ++ more)) :
    (job >>= next).Makes label holds created last := by
  intro world start
  apply ensures_bind
  apply (first world start).imp
  intro result events middle outcome
  rcases outcome with ⟨value, made, rfl, met, script, reached⟩
  apply (then_ value made met middle reached).imp
  intro result later final outcome
  rcases outcome with ⟨value, more, rfl, met, further, ended⟩
  refine ⟨value, made ++ more, rfl, met, ?_, ?_⟩
  · rw [List.filterMap_append]
    exact script.append further
  · rw [List.map_append, ← List.append_assoc]
    exact ended

/-- A step that creates nothing, and what follows. -/
theorem Idle.bind {job : Job σ α} {next : α → Job σ β} (first : job.Idle label holds created good)
    (then_ : ∀ value, good value → (next value).Makes label holds created last) :
    (job >>= next).Makes label holds created last := by
  apply Makes.bind first
  intro value made outcome
  rcases outcome with ⟨rfl, value_good⟩
  rw [List.map_nil, List.append_nil]
  exact then_ value value_good

theorem makes_pure {value : α} (met : post value []) : (pure value : Job σ α).Makes label holds created post := by
  intro world start
  refine (ensures_pure value).mpr ⟨value, [], rfl, met, .quiet nofun, ?_⟩
  rwa [List.map_nil, List.append_nil]

theorem idle_pure {value : α} (value_good : good value) : (pure value : Job σ α).Idle label holds created good :=
  makes_pure ⟨rfl, value_good⟩

/-- A loop that creates nothing keeps what holds along the items that it went through. -/
theorem idle_foldlM {γ : Type} {step : α → γ → Job σ α} {along : List γ → α → Prop} {items : List γ} {start : α}
    (begins : along [] start)
    (each : ∀ before item after value, items = before ++ item :: after → along before value →
      (step value item).Idle label holds created (along (before ++ [item]))) :
    (items.foldlM step start).Idle label holds created (along items) := by
  have behind (before after : List γ) (value : α) (all : items = before ++ after) (met : along before value) :
      (after.foldlM step value).Idle label holds created (along items) := by
    induction after generalizing before value with
    | nil =>
        rw [all, List.append_nil]
        exact idle_pure met
    | cons item after ih =>
        rw [List.foldlM_cons]
        apply Idle.bind (each before item after value all met)
        intro next reached
        exact ih (before ++ [item]) next (by rw [all, List.append_assoc]; rfl) reached
  exact behind [] items start rfl begins

theorem Makes.attempt {job : Job σ α} (makes : job.Makes label holds created post) :
    job.attempt.Makes label holds created fun result made => ∃ value, result = .ok value ∧ post value made := by
  intro world start
  rw [ensures_attempt]
  apply (makes world start).imp
  intro result events final outcome
  rcases outcome with ⟨value, made, rfl, met, rest⟩
  exact ⟨.ok value, made, rfl, ⟨value, rfl, met⟩, rest⟩

theorem Idle.attempt {job : Job σ α} (idle : job.Idle label holds created good) :
    job.attempt.Idle label holds created fun result => ∃ value, result = .ok value ∧ good value := by
  apply (Makes.attempt idle).imp
  rintro result made ⟨value, given, none_made, value_good⟩
  exact ⟨none_made, value, given, value_good⟩

/-- A job of known value and events, none of which creates a table. -/
theorem Performs.idle {job : Job σ α} {value : α} {events : List Event}
    (performed : job.Performs (holds created) value events)
    (leaves : ∀ entry ∈ events.filterMap executed?, createsTable entry.2 = false) :
    job.Idle label holds created (· = value) := by
  intro world start
  apply (performed world start).imp
  intro result added final outcome
  rcases outcome with ⟨rfl, rfl, reached⟩
  refine ⟨value, [], rfl, ⟨rfl, rfl⟩, .quiet leaves, ?_⟩
  rwa [List.map_nil, List.append_nil]

theorem idle_ofExcept {result : Except Fault α} {value : α} (given : result = .ok value) :
    (ofExcept result : Job σ α).Idle label holds created (· = value) :=
  (performs_ofExcept given).idle nofun

theorem idle_note (level : Level) (text : String) :
    (note level text : Job σ Unit).Idle label holds created fun _ => True :=
  ((performs_note level text).idle nofun).imp fun _ _ outcome => ⟨outcome.1, trivial⟩

theorem idle_noteAll (lines : List LogLine) :
    (noteAll lines : Job σ Unit).Idle label holds created fun _ => True :=
  ((performs_noteAll lines).idle nofun).imp fun _ _ outcome => ⟨outcome.1, trivial⟩

theorem idle_announce (listeners : List Listener) (event : Lifecycle) :
    (announce listeners event : Job σ Unit).Idle label holds created fun _ => True := by
  apply ((performs_announcement listeners event).idle ?_).imp fun _ _ outcome => ⟨outcome.1, trivial⟩
  intro entry member
  obtain ⟨sent, among, same⟩ := List.mem_filterMap.mp member
  rw [List.eq_of_mem_replicate among] at same
  cases same

theorem idle_trace {event : Event} (other : executed? event = none) :
    (trace event : Job σ Unit).Idle label holds created fun _ => True := by
  intro world start
  refine (ensures_trace event).mpr ⟨(), [], rfl, ⟨rfl, trivial⟩, .quiet ?_, ?_⟩
  · rw [List.filterMap_cons_none other]
    exact nofun
  · rwa [List.map_nil, List.append_nil]

theorem idle_send (db : Database σ) (request : Request) (other : ∀ sql, request ≠ .execute sql) :
    (db.send request).Idle label holds created fun _ => True := by
  apply idle_trace
  cases request with
  | execute sql => exact absurd rfl (other sql)
  | _ => rfl

theorem idle_answer {f : Answer σ α} (succeeds : Succeeds (holds created) f) :
    (answer f).Idle label holds created fun _ => True := by
  intro world start
  obtain ⟨value, next, reached, answered⟩ := succeeds world.state start
  rw [ensures_answer, answered]
  refine ⟨value, [], rfl, ⟨rfl, trivial⟩, .quiet nofun, ?_⟩
  rwa [List.map_nil, List.append_nil]

theorem idle_answer_of {f : Answer σ α} {value : α} (gives : Gives (holds created) f value) :
    (answer f).Idle label holds created (· = value) :=
  (performs_answer gives).idle nofun

theorem idle_silent {job : Job σ α} (silent : ∀ world : World σ, job.Ensures world fun result events final =>
      (∃ value, result = .ok value) ∧ events = [] ∧ final.state = world.state) :
    job.Idle label holds created fun _ => True := by
  intro world start
  apply (silent world).imp
  intro result events final outcome
  rcases outcome with ⟨⟨value, rfl⟩, rfl, same⟩
  refine ⟨value, [], rfl, ⟨rfl, trivial⟩, .quiet nofun, ?_⟩
  rwa [List.map_nil, List.append_nil, same]

theorem idle_enter (stage : Stage) : (enter stage : Job σ Unit).Idle label holds created fun _ => True :=
  idle_silent fun _ => (ensures_enter stage).mpr ⟨⟨(), rfl⟩, rfl, rfl⟩

theorem idle_modify {f : World σ → World σ} (traced : ∀ world, (f world).trace = world.trace)
    (kept : ∀ world, (f world).state = world.state) :
    (modify f : Job σ Unit).Idle label holds created fun _ => True :=
  idle_silent fun world => (ensures_modify (traced world)).mpr ⟨⟨(), rfl⟩, rfl, kept world⟩

theorem idle_clock : (clock : Job σ Number.Double).Idle label holds created fun _ => True :=
  idle_silent fun _ => ensures_clock.mpr ⟨⟨_, rfl⟩, rfl, rfl⟩

/-- The job succeeds, executes these statements, and leads from one sort of state to another. -/
def Executes (before after : σ → Prop) (job : Job σ α) (sent : List (String × String)) : Prop :=
  ∀ world, before world.state → job.Ensures world fun result events final =>
    (∃ value, result = .ok value) ∧ events.filterMap executed? = sent ∧ after final.state

theorem Executes.bind {before between after : σ → Prop} {job : Job σ α} {next : α → Job σ β}
    {sent more : List (String × String)} (first : job.Executes before between sent)
    (then_ : ∀ value, (next value).Executes between after more) :
    (job >>= next).Executes before after (sent ++ more) := by
  intro world start
  apply ensures_bind
  apply (first world start).imp
  intro result events middle outcome
  rcases outcome with ⟨⟨value, rfl⟩, rfl, reached⟩
  apply (then_ value middle reached).imp
  intro result later final outcome
  rcases outcome with ⟨given, rfl, ended⟩
  exact ⟨given, List.filterMap_append, ended⟩

theorem executes_pure {before : σ → Prop} (value : α) : (pure value : Job σ α).Executes before before [] :=
  fun _ start => (ensures_pure value).mpr ⟨⟨value, rfl⟩, rfl, start⟩

end Job

namespace Database

variable {σ α : Type} {label : String} {holds : List String → σ → Prop} {created : List String} {job : Job σ α}
variable {post : α → List (String × List String) → Prop} (db : Database σ)

theorem makes_withConnection (connects : Gives (holds created) db.connect ())
    (makes : job.Makes label holds created post) : (db.withConnection job).Makes label holds created post := by
  apply (Job.idle_answer_of connects).bind
  intro _ _
  apply (Job.idle_send db .connect nofun).bind
  intro _ _
  apply makes.attempt.bind
  rintro _ made ⟨value, rfl, met⟩
  apply (Job.idle_send db .close nofun).bind
  intro _ _
  apply Job.makes_pure
  rwa [List.append_nil]

theorem makes_withTransaction (begins : Gives (holds created) db.begin ())
    (commits : ∀ created, Gives (holds created) db.commit ()) (makes : job.Makes label holds created post) :
    (db.withTransaction job).Makes label holds created post := by
  apply (Job.idle_send db .begin nofun).bind
  intro _ _
  apply (Job.idle_answer_of begins).bind
  intro _ _
  apply makes.attempt.bind
  rintro _ made ⟨value, rfl, met⟩
  apply (Job.idle_send db .commit nofun).bind
  intro _ _
  apply (Job.idle_answer_of (commits _)).bind
  intro _ _
  apply Job.makes_pure
  rwa [List.append_nil]

theorem makes_withSavepoint (entered : ∀ created state, holds created state → holds created (db.savepoint state))
    (released : ∀ created state, holds created state → holds created (db.release state))
    (makes : job.Makes label holds created post) : (db.withSavepoint job).Makes label holds created post := by
  have moved (f : σ → σ) {created : List String} (kept : ∀ state, holds created state → holds created (f state)) :
      (Job.change f).Idle label holds created fun _ => True :=
    Job.idle_answer (f := fun state => (.ok (), f state)) fun state start => ⟨(), f state, kept state start, rfl⟩
  apply (Job.idle_send db .savepoint nofun).bind
  intro _ _
  apply Job.Idle.bind (moved db.savepoint (entered created))
  intro _ _
  apply makes.attempt.bind
  rintro _ made ⟨value, rfl, met⟩
  apply (Job.idle_send db .release nofun).bind
  intro _ _
  apply Job.Idle.bind (moved db.release (released _))
  intro _ _
  apply Job.makes_pure
  rwa [List.append_nil]

theorem idle_run {sql : String} {good : Value → Prop} (leaves : createsTable sql = false)
    (answers : ∀ state, holds created state → ∃ value next, good value ∧ holds created next ∧
      db.execute sql state = (.ok value, next)) :
    (db.run sql).Idle label holds created good := by
  intro world start
  obtain ⟨value, next, value_good, reached, answered⟩ := answers world.state start
  apply Job.ensures_bind
  rw [Job.ensures_note]
  apply Job.ensures_bind
  rw [Job.ensures_send]
  dsimp only
  rw [Job.ensures_answer, answered]
  refine ⟨value, [], rfl, ⟨rfl, value_good⟩, .quiet ?_, ?_⟩
  · intro entry member
    rw [List.mem_singleton.mp (member : entry ∈ [(db.label, sql)])]
    exact leaves
  · rwa [List.map_nil, List.append_nil]

theorem idle_number {sql : String} {value : Value} {count : Int} (leaves : createsTable sql = false)
    (given : Gives (holds created) (db.execute sql) value)
    (counts : (if value.truthy then value.toWholeOrFault else .ok 0) = .ok count) :
    (db.number sql).Idle label holds created (· = count) := by
  have answered : (db.run sql).Idle label holds created (· = value) := by
    apply db.idle_run leaves
    intro state start
    obtain ⟨next, reached, answered⟩ := given state start
    exact ⟨value, next, rfl, reached, answered⟩
  apply Job.Idle.bind answered
  rintro _ rfl
  split at counts
  · rename_i truthy
    rw [if_pos truthy]
    exact Job.idle_ofExcept counts
  · rename_i falsy
    rw [if_neg falsy]
    cases counts
    exact Job.idle_pure rfl

variable {before between after : σ → Prop}

theorem executes_run {sql : String} (answers : ∀ state, before state → ∃ value next, after next ∧
      db.execute sql state = (.ok value, next)) : (db.run sql).Executes before after [(db.label, sql)] := by
  intro world start
  obtain ⟨value, next, reached, answered⟩ := answers world.state start
  apply Job.ensures_bind
  rw [Job.ensures_note]
  apply Job.ensures_bind
  rw [Job.ensures_send]
  dsimp only
  rw [Job.ensures_answer, answered]
  exact ⟨⟨value, rfl⟩, rfl, reached⟩

theorem executes_withSavepoint {sent : List (String × String)}
    (entered : ∀ state, before state → before (db.savepoint state))
    (released : ∀ state, after state → after (db.release state)) (executes : job.Executes before after sent) :
    (db.withSavepoint job).Executes before after sent := by
  intro world start
  apply ensures_bracket
  apply (executes _ (entered _ start)).imp
  intro result events final outcome
  rcases outcome with ⟨⟨value, rfl⟩, rfl, reached⟩
  refine ⟨⟨value, rfl⟩, ?_, released _ reached⟩
  rw [List.cons_append, List.filterMap_cons, List.filterMap_append]
  exact List.append_nil _

/-- The first statement of a batch, in a savepoint or not, and the rest. -/
theorem executes_runBatch_cons (tolerance : Tolerance) (savepoint : Bool) {sql : String} {rest : List String}
    {more : List (String × String)}
    (answers : ∀ state, before state → ∃ value next, between next ∧ db.execute sql state = (.ok value, next))
    (entered : ∀ state, before state → before (db.savepoint state))
    (released : ∀ state, between state → between (db.release state))
    (then_ : ∀ result, (db.runBatch tolerance savepoint rest result).Executes between after more)
    (result : BatchResult) :
    (db.runBatch tolerance savepoint (sql :: rest) result).Executes before after ((db.label, sql) :: more) := by
  have statement : (do let _ ← db.run sql : Job σ Unit).Executes before between [(db.label, sql)] :=
    (db.executes_run answers).bind fun _ => Job.executes_pure ()
  have guarded :
      (if savepoint then db.withSavepoint (do let _ ← db.run sql) else do let _ ← db.run sql : Job σ Unit).Executes
        before between [(db.label, sql)] := by
    split
    · exact db.executes_withSavepoint entered released statement
    · exact statement
  rw [runBatch]
  intro world start
  apply Job.ensures_bind
  rw [Job.ensures_attempt]
  apply (guarded world start).imp
  intro answered events middle outcome
  rcases outcome with ⟨⟨value, rfl⟩, sent, reached⟩
  apply (then_ _ middle reached).imp
  intro result later final outcome
  rcases outcome with ⟨given, rfl, ended⟩
  refine ⟨given, ?_, ended⟩
  rw [List.filterMap_append, sent]
  rfl

/-- Statements that are all accepted are all executed. -/
theorem executes_runBatch (tolerance : Tolerance) (savepoint : Bool) (statements : List String)
    (answers : ∀ sql ∈ statements, Succeeds before (db.execute sql))
    (entered : ∀ state, before state → before (db.savepoint state))
    (released : ∀ state, before state → before (db.release state)) (result : BatchResult) :
    (db.runBatch tolerance savepoint statements result).Executes before before (statements.map ((db.label, ·))) := by
  induction statements generalizing result with
  | nil => exact Job.executes_pure result
  | cons head tail ih =>
      exact db.executes_runBatch_cons tolerance savepoint (answers head List.mem_cons_self) entered released
        (ih fun sql member => answers sql (List.mem_cons_of_mem _ member)) result

end Database

end TableFerry
