import NetconfGate.Channel.Reception
import NetconfGate.Proofs.Channel.Course

/-!
# The turns of a reception

What an event can do to a reception, guards included: either nothing or the one
thing that the event is about. What others do aside is told by what it spares.
The two turns of a loop on a connection are the taking in of it as a whole, and
the two of an unbind are the unbind as a whole.
-/

namespace NetconfGate.Channel

namespace Service

/-- What a loop decides on a connection that it has numbered. -/
def fate (s : Service) (readable : Bool) : Fate :=
  if readable then if s.group.draining then .refused else .handed s.group.tasks.length
  else .unreadable

/-- All that the decision does to the group is to admit the task. -/
theorem settle_eq (s : Service) (c : Connection) (readable : Bool) :
    ∃ arrivals tasks,
      s.settle c readable =
        (s.fate readable, { s with group := { s.group with tasks := tasks }, arrivals := arrivals }) ∧
      (tasks = s.group.tasks ∧ (∀ task, s.fate readable ≠ .handed task) ∨
        tasks = s.group.tasks ++ [none] ∧ s.group.draining = false ∧
          s.fate readable = .handed s.group.tasks.length) := by
  cases readable with
  | false => exact ⟨s.arrivals, s.group.tasks, rfl, Or.inl ⟨rfl, by simp [fate]⟩⟩
  | true =>
      rcases s.group.enrol_eq with ⟨drains, refused⟩ | ⟨isOpen, taken⟩
      · have decided : s.fate true = .refused := by simp [fate, drains]
        refine ⟨s.arrivals ++ [⟨c.acceptor, c.id, c.token, none⟩], s.group.tasks, ?_,
          Or.inl ⟨rfl, by simp [decided]⟩⟩
        simp only [settle, refused, decided, if_true]
      · have decided : s.fate true = .handed s.group.tasks.length := by simp [fate, isOpen]
        refine ⟨s.arrivals ++ [⟨c.acceptor, c.id, c.token, some s.group.tasks.length⟩],
          s.group.tasks ++ [none], ?_, Or.inr ⟨rfl, isOpen, decided⟩⟩
        simp only [settle, taken, decided, if_true]

/-- A loop that goes on with a readable connection at once takes it in. -/
theorem settle_take (s : Service) (index : Nat) (loop : Loop) :
    let taken := s.take
    let c : Connection := ⟨index, loop.acceptor, taken.1, taken.2.1, .held true⟩
    (taken.2.2.settle c true).2 = (s.accept loop).2 ∧
      { c with fate := (taken.2.2.settle c true).1 }.task? = (s.accept loop).1.task := by
  intro taken c
  rcases s.drawId.2.group.token.2.enrol_eq with ⟨_, refused⟩ | ⟨_, admitted⟩
  · have after : taken.2.2.group.enrol = .error .groupShutdown := refused
    dsimp only [settle, accept]
    rw [after, refused]
    exact ⟨rfl, rfl⟩
  · have after : taken.2.2.group.enrol = s.drawId.2.group.token.2.enrol := rfl
    dsimp only [settle, accept]
    rw [after, admitted]
    exact ⟨rfl, rfl⟩

theorem modify_stopped (s : Service) {loop : Nat} {l : Loop} (found : s.loops[loop]? = some l) :
    s.loops.modify loop (fun loop => { loop with stopped := true }) =
      s.loops.set loop { l with stopped := true } := by
  have within := (List.getElem?_eq_some_iff.mp found).1
  apply List.ext_getElem?
  intro other
  by_cases same : loop = other
  · subst same
    rw [List.getElem?_modify_eq, List.getElem?_set_self within, found]
    rfl
  · rw [List.getElem?_modify_ne _ _ same, List.getElem?_set_ne same]

/-- A loop that ends as soon as its acceptor gives it up ends as with an unbind
that is told as a whole. -/
theorem unbind_eq_release (s : Service) (acceptor : Nat) :
    (s.unbind acceptor).service =
      match s.release acceptor with
      | (none, _) => s
      | (some loop, later) =>
          match later.loops[loop]? with
          | none => later
          | some loop => later.finish loop.task .completed := by
  unfold unbind release
  cases bound : s.acceptors[acceptor]?.join with
  | none => rfl
  | some index =>
      cases found : s.loops[index]? with
      | none =>
          have beyond : s.loops.modify index (fun loop => { loop with stopped := true }) =
              s.loops := by
            apply List.modify_eq_self
            exact List.getElem?_eq_none_iff.mp found
          simp [beyond, found]
      | some loop =>
          have inside := (List.getElem?_eq_some_iff.mp found).1
          simp only [found, s.modify_stopped found, List.getElem?_set_self inside]
          split <;> rfl

theorem loopRuns_iff (s : Service) (loop : Nat) :
    s.loopRuns loop = true ↔
      ∃ l, s.loops[loop]? = some l ∧ s.group.isRunning l.task = true := by
  unfold loopRuns
  cases s.loops[loop]? <;> simp

end Service

namespace Reception

/-- What an event that does something does. -/
inductive Turn (r : Reception) : Event → Reception → Prop where
  | idle (event : Event) : r.Turn event r
  | aside {event : Course.Event} (isAside : r.isAside event = true) :
      r.Turn (.aside event) { r with course := r.course.step event }
  | unbinds {acceptor loop : Nat}
      (bound : r.service.acceptors[acceptor]? = some (some loop)) :
      r.Turn (.unbinds acceptor)
        { r.withService
            { r.service with
              acceptors := r.service.acceptors.set acceptor none
              loops := r.service.loops.modify loop fun loop => { loop with stopped := true } } with
          released := r.released ++ [loop] }
  | returns {loop : Nat} (released : loop ∈ r.released)
      (ended : r.service.loopRuns loop = false) :
      r.Turn (.returns loop) { r with returned := r.returned ++ [loop] }
  | stops {loop : Nat} {l : Loop} (found : r.service.loops[loop]? = some l)
      (told : r.service.isStopping l = true) (free : r.holds loop = false) :
      r.Turn (.stops loop) (r.withService (r.service.finish l.task .completed))
  | takes {loop : Nat} {l : Loop} {readable : Bool} (found : r.service.loops[loop]? = some l)
      (runs : r.service.group.isRunning l.task = true) (free : r.holds loop = false) :
      r.Turn (.takes loop readable)
        { r.withService r.service.take.2.2 with
          connections := r.connections ++
            [⟨loop, l.acceptor, r.service.take.1, r.service.take.2.1, .held readable⟩] }
  | settles {connection : Nat} {c : Connection} {readable : Bool}
      (found : r.connections[connection]? = some c) (held : c.fate = .held readable) :
      r.Turn (.settles connection)
        { r.withService (r.service.settle c readable).2 with
          connections :=
            r.connections.set connection { c with fate := r.service.fate readable } }
  | calls {connection task : Nat} {c : Connection}
      (found : r.connections[connection]? = some c) (handed : c.task? = some task)
      (runs : r.service.group.isRunning task = true)
      (uncalled : r.hasCalled connection = false) :
      r.Turn (.calls connection) { r with calls := r.calls ++ [⟨c.acceptor, connection⟩] }
  | answers {connection task : Nat} {c : Connection} {answer : Answer}
      (found : r.connections[connection]? = some c) (handed : c.task? = some task)
      (runs : r.service.group.isRunning task = true)
      (called : r.hasCalled connection = true) :
      r.Turn (.answers connection answer)
        { r.withService (r.service.finish task answer.outcome) with
          answers := r.answers ++ [(connection, answer)] }
  | drops {connection task : Nat} {c : Connection}
      (found : r.connections[connection]? = some c) (handed : c.task? = some task)
      (runs : r.service.group.isRunning task = true)
      (cancelled : r.service.group.cancelled = true) :
      r.Turn (.drops connection) (r.withService (r.service.finish task .cancelled))
  | misses {attempt : Nat} {attempts : List Attempt} {cause : SystemError} :
      r.Turn (.misses attempt cause)
        { r with
          course := { r.course with service := r.service.drawId.2, attempts := attempts }
          missed := r.missed ++ [r.service.drawId.1] }

theorem runningTask?_eq_some {r : Reception} {connection task : Nat} :
    r.runningTask? connection = some task ↔
      ∃ c, r.connections[connection]? = some c ∧ c.task? = some task ∧
        r.service.group.isRunning task = true := by
  unfold runningTask?
  rw [Option.filter_eq_some_iff, Option.bind_eq_some_iff]
  constructor
  · rintro ⟨⟨c, found, handed⟩, runs⟩
    exact ⟨c, found, handed, runs⟩
  · rintro ⟨c, found, handed, runs⟩
    exact ⟨⟨c, found, handed⟩, runs⟩

theorem turn_step (r : Reception) (event : Event) : r.Turn event (r.step event) := by
  cases event with
  | aside event =>
      change r.Turn _ (r.aside event)
      unfold aside
      split
      · rename_i isAside
        exact .aside isAside
      · exact .idle _
  | unbinds acceptor =>
      change r.Turn _ (r.unbind acceptor)
      unfold unbind Service.release
      cases found : r.service.acceptors[acceptor]? with
      | none =>
          change r.Turn _ { r with released := r.released ++ [] }
          rw [List.append_nil]
          exact .idle _
      | some bound =>
          cases bound with
          | none =>
              change r.Turn _ { r with released := r.released ++ [] }
              rw [List.append_nil]
              exact .idle _
          | some loop => exact .unbinds found
  | returns loop =>
      change r.Turn _ (r.endUnbind loop)
      unfold endUnbind
      split
      · rename_i both
        rw [Bool.and_eq_true, List.contains_iff_mem, Bool.not_eq_true'] at both
        exact .returns both.1 both.2
      · exact .idle _
  | stops loop =>
      change r.Turn _ (r.stop loop)
      unfold stop
      split
      · exact .idle _
      · rename_i l found
        split
        · rename_i both
          rw [Bool.and_eq_true, Bool.not_eq_true'] at both
          exact .stops found both.1 both.2
        · exact .idle _
  | takes loop readable =>
      change r.Turn _ (r.take loop readable)
      unfold take
      split
      · exact .idle _
      · rename_i l found
        split
        · rename_i both
          rw [canTake, Bool.and_eq_true, Bool.not_eq_true', Service.loopRuns_iff] at both
          obtain ⟨⟨other, same, runs⟩, free⟩ := both
          cases found.symm.trans same
          exact .takes found runs free
        · exact .idle _
  | settles connection =>
      change r.Turn _ (r.settle connection)
      unfold settle
      split
      · exact .idle _
      · rename_i c found
        split
        · rename_i readable held
          obtain ⟨arrivals, tasks, settled, _⟩ := r.service.settle_eq c readable
          have turn := Turn.settles (r := r) found held
          rw [settled] at turn ⊢
          exact turn
        · exact .idle _
  | calls connection =>
      change r.Turn _ (r.call connection)
      unfold call
      split
      · exact .idle _
      · rename_i c found
        split
        · rename_i both
          rw [Bool.and_eq_true, Bool.not_eq_true', Option.isSome_iff_exists] at both
          obtain ⟨⟨task, running⟩, uncalled⟩ := both
          obtain ⟨other, same, handed, runs⟩ := runningTask?_eq_some.mp running
          cases found.symm.trans same
          exact .calls found handed runs uncalled
        · exact .idle _
  | answers connection answer =>
      change r.Turn _ (r.answer connection answer)
      unfold Reception.answer
      split
      · exact .idle _
      · rename_i task running
        obtain ⟨c, found, handed, runs⟩ := runningTask?_eq_some.mp running
        split
        · rename_i called
          exact .answers found handed runs called
        · exact .idle _
  | drops connection =>
      change r.Turn _ (r.drop connection)
      unfold drop
      split
      · exact .idle _
      · rename_i task running
        obtain ⟨c, found, handed, runs⟩ := runningTask?_eq_some.mp running
        split
        · rename_i cancelled
          exact .drops found handed runs cancelled
        · exact .idle _
  | misses attempt cause =>
      change r.Turn _ (r.miss attempt cause)
      unfold miss
      split
      · exact .idle _
      · split
        · exact .idle _
        · exact .misses

end Reception

/-! ## What others do -/

/-- The signals stay up, tasks are added at most, and these go on as before. -/
structure Group.Spares (g later : Group) (tasks : List Nat) : Prop where
  draining : g.draining = true → later.draining = true
  cancelled : g.cancelled = true → later.cancelled = true
  length : g.tasks.length ≤ later.tasks.length
  running : ∀ task ∈ tasks, later.isRunning task = g.isRunning task

/-- One connection at most is numbered, and one loop at most is added, as the
task that comes next. -/
structure Service.Spares (s later : Service) (tasks : List Nat) : Prop where
  group : s.group.Spares later.group tasks
  numbers : later.counter = s.counter ∧ later.departures = s.departures ∨
    later.counter = s.drawId.2.counter ∧
      ∃ token, later.departures = s.departures ++ [⟨s.drawId.1, token⟩]
  bindings : later.loops = s.loops ∧
      (later.acceptors = s.acceptors ∨ later.acceptors = s.acceptors ++ [none]) ∨
    ∃ acceptor address, acceptor < s.acceptors.length ∧ s.localAddress? acceptor = none ∧
      s.group.draining = false ∧ later.group.tasks = s.group.tasks ++ [none] ∧
      later.loops = s.loops ++ [⟨acceptor, s.group.tasks.length, address, false⟩] ∧
      later.acceptors = s.acceptors.set acceptor (some s.loops.length)

namespace Group

variable {g : Group} {tasks : List Nat}

theorem Spares.of_tasks {later : Group}
    (draining : g.draining = true → later.draining = true)
    (cancelled : g.cancelled = true → later.cancelled = true) (same : later.tasks = g.tasks) :
    g.Spares later tasks := by
  refine ⟨draining, cancelled, Nat.le_of_eq (congrArg List.length same.symm), ?_⟩
  intro task _
  rw [isRunning, isRunning, same]

theorem spares_append (inside : ∀ task ∈ tasks, task < g.tasks.length) :
    g.Spares { g with tasks := g.tasks ++ [none] } tasks := by
  refine ⟨id, id, by simp, ?_⟩
  intro task among
  rw [isRunning, List.getElem?_append_left (inside task among)]
  rfl

theorem spares_finish {task : Nat} (other : task ∉ tasks) (outcome : Outcome) :
    g.Spares (g.finish task outcome) tasks := by
  refine ⟨by simp, by simp, by simp, ?_⟩
  intro one among
  have different : one ≠ task := by
    rintro rfl
    exact other among
  simp [isRunning_finish, different]

end Group

namespace Service

variable {s : Service} {tasks : List Nat}

/-- Work of the group alone. -/
theorem Spares.of_group {later : Group} (spares : s.group.Spares later tasks) :
    s.Spares { s with group := later } tasks :=
  ⟨spares, Or.inl ⟨rfl, rfl⟩, Or.inl ⟨rfl, Or.inl rfl⟩⟩

theorem Spares.refl (s : Service) (tasks : List Nat) : s.Spares s tasks :=
  .of_group (.of_tasks id id rfl)

theorem spares_listen (inside : ∀ task ∈ tasks, task < s.group.tasks.length) {acceptor : Nat}
    (exists_ : acceptor < s.acceptors.length) (address : Address) :
    s.Spares (s.listen acceptor address).2 tasks := by
  unfold listen
  split
  · exact .refl s tasks
  · rename_i unbound
    rcases s.spawn_eq with ⟨_, refused⟩ | ⟨isOpen, admitted⟩
    · rw [refused]
      exact .refl s tasks
    · rw [admitted]
      exact ⟨Group.spares_append inside, Or.inl ⟨rfl, rfl⟩,
        Or.inr ⟨acceptor, address, exists_, unbound, isOpen, rfl, rfl, rfl⟩⟩

theorem spares_attempt (address : Address) (timeout : Duration) :
    s.Spares (s.attempt address timeout).2 tasks := by
  unfold attempt
  split
  · exact .refl s tasks
  · exact .of_group (.of_tasks id id rfl)

theorem spares_pursue (a : Attempt) (news : Option News) (newsFirst : Bool) :
    s.Spares (s.pursue a news newsFirst).2 tasks := by
  cases stage : a.stage with
  | ended result => simpa only [pursue, stage] using Spares.refl s tasks
  | waiting token =>
      cases news with
      | none =>
          simp only [pursue, stage]
          split <;> exact .refl s tasks
      | some news =>
          simp only [pursue, stage]
          split
          · exact .refl s tasks
          · cases news with
            | accepted =>
                exact ⟨.of_tasks id id rfl, Or.inr ⟨rfl, token, rfl⟩, Or.inl ⟨rfl, Or.inl rfl⟩⟩
            | refused cause => exact .refl s tasks
            | late => exact .refl s tasks

theorem spares_perform (inside : ∀ task ∈ tasks, task < s.group.tasks.length)
    {operation : Operation} (others : ∀ task outcome, operation = .ends task outcome → task ∉ tasks) :
    s.Spares (s.perform operation).1 tasks := by
  cases operation with
  | spawn =>
      rcases s.perform_spawn with ⟨_, refused⟩ | ⟨_, admitted⟩
      · rw [refused]
        exact .refl s tasks
      · rw [admitted]
        exact .of_group (Group.spares_append inside)
  | ends task outcome =>
      rw [perform_ends]
      exact .of_group (Group.spares_finish (others task outcome rfl) outcome)
  | drain => exact .of_group (.of_tasks (fun _ => rfl) id rfl)
  | cancel => exact .of_group (.of_tasks (fun _ => rfl) (fun _ => rfl) rfl)
  | beginClose mode =>
      change s.Spares (s.beginClose mode) tasks
      unfold beginClose
      split
      · exact .refl s tasks
      · cases mode with
        | graceful =>
            exact ⟨.of_tasks (fun _ => rfl) id rfl, Or.inl ⟨rfl, rfl⟩, Or.inl ⟨rfl, Or.inl rfl⟩⟩
        | immediate =>
            exact ⟨.of_tasks (fun _ => rfl) (fun _ => rfl) rfl, Or.inl ⟨rfl, rfl⟩,
              Or.inl ⟨rfl, Or.inl rfl⟩⟩
  | takeToken => exact .of_group (.of_tasks id id rfl)
  | cancelToken token => exact .of_group (.of_tasks id id rfl)
  | cancelDrain => exact .of_group (.of_tasks (fun _ => rfl) id rfl)

end Service

namespace Reception

/-- Others leave the loops and the connections alone. -/
theorem spares_aside {r : Reception} (inside : ∀ task ∈ r.tasks, task < r.service.group.tasks.length)
    {event : Course.Event} (isAside : r.isAside event = true) :
    r.service.Spares (r.course.step event).service r.tasks := by
  cases event with
  | operation operation =>
      have others (task : Nat) (outcome : Outcome) (ends : operation = .ends task outcome) :
          task ∉ r.tasks := by
        subst ends
        simpa [Reception.isAside] using isAside
      have performed := Service.spares_perform inside others
      cases operation with
      | beginClose mode =>
          change r.service.Spares (r.course.close mode).service r.tasks
          unfold Course.close
          split
          · exact .refl _ _
          · exact performed
      | _ => exact performed
  | resumes late =>
      change r.service.Spares (r.course.resume late).service r.tasks
      unfold Course.resume
      split
      · exact .refl _ _
      · rename_i stage _
        have resumed := (⟨r.course.service, stage⟩ : CloseCall).service_resume late
        dsimp only at resumed ⊢
        rw [resumed]
        split
        · exact .of_group (.of_tasks (fun _ => rfl) (fun _ => rfl) rfl)
        · exact .refl _ _
  | acceptor => exact ⟨.of_tasks id id rfl, Or.inl ⟨rfl, rfl⟩, Or.inl ⟨rfl, Or.inr rfl⟩⟩
  | listens acceptor address =>
      exact Service.spares_listen inside (of_decide_eq_true isAside) address
  | unbinds acceptor => cases isAside
  | accepts loop => cases isAside
  | dials address timeout => exact Service.spares_attempt address timeout
  | pursues attempt news newsFirst =>
      change r.service.Spares (r.course.pursue attempt news newsFirst).service r.tasks
      unfold Course.pursue
      split
      · exact .refl _ _
      · exact Service.spares_pursue _ news newsFirst

end Reception

end NetconfGate.Channel
