import TemplateRegistry.Proofs.CachedInvariant
/-!
# Cached reads are linearizable

A read through the caches gives what the store behind would have given at some
instant while the read was in progress, whatever other clients read and write
meanwhile, whenever entries expire or make room for others, and whether writes
succeed, fail or are given up.

* `gives_transition` — where the result of a read comes from;
* `accounted_of_isRun` — every result of a run comes from an instant at which
  the read was in progress;
* `cached_reads_linearizable` — the theorem, in terms of the store behind.
-/

namespace TemplateRegistry

/-! ### Where results come from -/

/-- What a read gives, once this is settled. -/
inductive Stage.Gives : Stage → (shelf : Shelf) → String →
    Except EngineError shelf.Item → Prop
  | keeping (shelf : Shelf) (name : String) (item : shelf.Item) (ticket : Nat) :
      Gives (.keeping shelf name item ticket) shelf name (.ok item)
  | answered (shelf : Shelf) (name : String)
      (result : Except EngineError shelf.Item) :
      Gives (.answered shelf name (.ended result)) shelf name result

/-- A client that was given the item of a name had asked for it. -/
theorem Stage.Gives.call_eq {stage : Stage} {shelf : Shelf} {name : String}
    {result : Except EngineError shelf.Item}
    (h : stage.Gives shelf name result) :
    stage.client.call = shelf.read name := by
  cases h <;> cases shelf <;> rfl

/-- A client that has just started was given nothing. -/
theorem not_gives_start (call : StoreCall) (shelf : Shelf) (name : String)
    (result : Except EngineError shelf.Item) :
    ¬ (Stage.start call).Gives shelf name result := by
  intro h
  cases call <;> cases h

/-- What the store holds is what a read of it gives. -/
theorem read_of_holds {s : Memory} {shelf : Shelf} {name : String}
    {item : shelf.Item} (h : s.Holds shelf name item) :
    (s.read shelf name).map shelf.core = .ok (shelf.core item) := by
  obtain ⟨found, hfound, hcore⟩ := Option.map_eq_some_iff.mp h
  unfold Memory.read
  rw [hfound, ← hcore]
  rfl

/-- **The instant of a read.**  What a read gives is settled by a look into the
cache or by a load, and is what the store behind has at that instant. -/
theorem gives_transition {before after : Memory × Caches} {stages : List Stage}
    {stage moved : Stage} (h : Sound before stages)
    (htransition : Transition before stage moved after) {shelf : Shelf}
    {name : String} {result : Except EngineError shelf.Item}
    (hgives : moved.Gives shelf name result) :
    stage.Gives shelf name result ∨
      result.map shelf.core = (before.1.read shelf name).map shelf.core := by
  cases hgives with
  | keeping shelf name item ticket =>
      cases htransition with
      | loaded hread =>
          exact Or.inr (congrArg (Except.map shelf.core) hread.symm)
  | answered shelf name result =>
      cases htransition with
      | @hit s caches shelf name now item cache hget =>
          have hitem :=
            (Cache.coherent_get (h.coherent shelf) now name).2 item
              (by rw [hget])
          exact Or.inr (read_of_holds hitem).symm
      | absent hread =>
          exact Or.inr (congrArg (Except.map shelf.core) hread.symm)
      | @kept s caches shelf name item ticket now =>
          exact Or.inl (.keeping shelf name item ticket)

/-- A client whose read has ended with a result is at a stage that gives it. -/
theorem gives_of_done {s : Memory × Caches} {stage : Stage}
    (hfine : stage.Fine s) {shelf : Shelf} {name : String}
    {result : Except EngineError shelf.Item}
    (hclient : stage.client = shelf.reader name (.done (.ended result))) :
    stage.Gives shelf name result := by
  cases stage with
  | looking other found => cases other <;> cases shelf <;> cases hclient
  | loading other found ticket => cases other <;> cases shelf <;> cases hclient
  | keeping other found item ticket =>
      obtain ⟨rfl, rfl, hrest⟩ := reader_eq hclient
      cases hrest
  | answered other found outcome =>
      obtain ⟨rfl, rfl, hrest⟩ := reader_eq hclient
      cases hrest
      exact .answered other found result
  | naming id author notes => cases shelf <;> cases hclient
  | announcing other found call => cases shelf <;> cases hclient
  | writing other found call => cases shelf <;> cases hclient
  | ending other found call outcome => cases shelf <;> cases hclient
  | asking call => cases shelf <;> cases hclient
  | finished call outcome =>
      cases shelf with
      | templates =>
          cases hclient
          exact (hfine trivial).elim
      | components =>
          cases hclient
          exact (hfine trivial).elim

/-! ### Every run -/

open Sharing (System Step IsRun InProgress)

/-- The state of a cached store whose caches are empty. -/
def withEmptyCaches (s : Memory) (timeToLive : Duration) (capacity : Nat) :
    Memory × Caches :=
  (s, ⟨.empty timeToLive capacity, .empty timeToLive capacity⟩)

/-- Nothing is wrong with empty caches. -/
theorem sound_withEmptyCaches {s : Memory} (hs : s.Consistent)
    (timeToLive : Duration) (capacity : Nat) :
    Sound (withEmptyCaches s timeToLive capacity) [] := by
  refine ⟨hs, fun shelf => ?_, by simp⟩
  cases shelf with
  | templates => exact Cache.coherent_empty timeToLive capacity _
  | components => exact Cache.coherent_empty timeToLive capacity _

/-- A client that comes keeps everything sound. -/
theorem Sound.arrive {s : Memory × Caches} {stages : List Stage}
    (h : Sound s stages) (call : StoreCall) :
    Sound s (stages ++ [Stage.start call]) := by
  have hwriters :
      writersAt (stages ++ [Stage.start call]) = writersAt stages := by
    funext shelf name
    simp [writersAt, isWriting_start]
  refine ⟨h.consistent, fun shelf => ?_, fun stage hstage => ?_⟩
  · rw [hwriters]
    exact h.coherent shelf
  · rcases List.mem_append.mp hstage with hold | hnew
    · exact h.fine stage hold
    · obtain rfl := List.mem_singleton.mp hnew
      exact fine_start s call

/-- At some earlier instant of a run a read was in progress and the store behind
had what the read gives. -/
def Settled (run : Nat → System cachedStore) (k i : Nat) (shelf : Shelf)
    (name : String) (result : Except EngineError shelf.Item) : Prop :=
  ∃ j < k, InProgress (run j) i (shelf.read name) ∧
    result.map shelf.core = ((run j).shared.1.read shelf name).map shelf.core

/-- What is known of a cached store and its clients at an instant of a run. -/
def Accounted (run : Nat → System cachedStore) (k : Nat)
    (s : System cachedStore) : Prop :=
  ∃ stages, s.clients = stages.map Stage.client ∧ Sound s.shared stages ∧
    ∀ i stage shelf name result, stages[i]? = some stage →
      stage.Gives shelf name result → Settled run k i shelf name result

/-- What is settled stays settled. -/
theorem Settled.later {run : Nat → System cachedStore} {k i : Nat}
    {shelf : Shelf} {name : String} {result : Except EngineError shelf.Item}
    (h : Settled run k i shelf name result) :
    Settled run (k + 1) i shelf name result := by
  obtain ⟨j, hj, hprogress, hresult⟩ := h
  exact ⟨j, Nat.lt_succ_of_lt hj, hprogress, hresult⟩

/-- A client that comes leaves all reads accounted for. -/
theorem Accounted.arrive {run : Nat → System cachedStore} {k : Nat}
    {s : System cachedStore} (h : Accounted run k s) (call : StoreCall) :
    Accounted run (k + 1) ⟨s.shared, s.clients ++ [.new call]⟩ := by
  obtain ⟨stages, hclients, hsound, hsettled⟩ := h
  refine ⟨stages ++ [Stage.start call], ?_, hsound.arrive call, ?_⟩
  · rw [List.map_append, ← hclients, List.map_singleton, Stage.client_start]
  · intro i stage shelf name result hstage hgives
    rcases of_getElem?_append_singleton hstage with hold | ⟨-, rfl⟩
    · exact (hsettled i stage shelf name result hold hgives).later
    · exact (not_gives_start call shelf name result hgives).elim

/-- A client that goes on leaves all reads accounted for. -/
theorem Accounted.proceed {run : Nat → System cachedStore} {k : Nat}
    (h : Accounted run k (run k)) {i : Nat} {call : StoreCall}
    {request : CachedCalls.Request}
    {next : CachedCalls.Reply request → CachedProgram (Outcome call.Result)}
    {reply : CachedCalls.Reply request} {after : Memory × Caches}
    (hclient : (run k).clients[i]? = some ⟨call, .ask request next⟩)
    (hanswer : AnswersCached request (run k).shared reply after) :
    Accounted run (k + 1) ⟨after,
      (run k).clients.set i ⟨call, next reply⟩⟩ := by
  obtain ⟨stages, hclients, hsound, hsettled⟩ := h
  have hasked := hclient
  rw [hclients, List.getElem?_map] at hasked
  obtain ⟨stage, hstage, hat⟩ := Option.map_eq_some_iff.mp hasked
  obtain ⟨moved, hmoved, htransition⟩ := transition_of_proceed hat hanswer
  refine ⟨stages.set i moved, ?_,
    sound_transition hsound hstage htransition, ?_⟩
  · rw [hclients, ← hmoved, List.map_set]
  · intro j other shelf name result hother hgives
    rcases of_getElem?_set hother with hold | ⟨rfl, rfl⟩
    · exact (hsettled j other shelf name result hold hgives).later
    · rcases gives_transition hsound htransition hgives with hbefore | hnow
      · exact (hsettled j stage shelf name result hstage hbefore).later
      · -- the read is settled by this step, and has not ended before it
        have hcall : call = shelf.read name := by
          rw [← hgives.call_eq, hmoved]
        subst hcall
        exact ⟨k, Nat.lt_succ_self k, ⟨request, next, hclient⟩, hnow⟩

/-- **Every run.**  The results of all reads are accounted for. -/
theorem accounted_of_isRun {s : Memory} (hs : s.Consistent)
    {timeToLive : Duration} {capacity : Nat} {run : Nat → System cachedStore}
    (h : IsRun (withEmptyCaches s timeToLive capacity) run) (k : Nat) :
    Accounted run k (run k) := by
  refine h.invariant (P := Accounted run) ?_ ?_ ?_ k
  · exact ⟨[], rfl, sound_withEmptyCaches hs timeToLive capacity, by simp⟩
  · rintro k ⟨stages, hclients, hsound, hsettled⟩
    exact ⟨stages, hclients, hsound,
        fun i stage shelf name result hstage hgives =>
      (hsettled i stage shelf name result hstage hgives).later⟩
  · intro k hbefore hmoved
    generalize hafter : run (k + 1) = t at hmoved
    generalize hs : run k = s at hmoved
    cases hmoved with
    | arrive call =>
        rw [← hs]
        exact hbefore.arrive call
    | proceed hclient hanswer =>
        subst hs
        exact hbefore.proceed hclient hanswer

/-- A read that has ended with a result was settled while it was in progress. -/
theorem settled_of_done {s : Memory} (hs : s.Consistent) {timeToLive : Duration}
    {capacity : Nat} {run : Nat → System cachedStore}
    (h : IsRun (withEmptyCaches s timeToLive capacity) run) {k i : Nat}
    {shelf : Shelf} {name : String} {result : Except EngineError shelf.Item}
    (hdone : (run k).clients[i]? =
      some (shelf.reader name (.done (.ended result)))) :
    Settled run k i shelf name result := by
  obtain ⟨stages, hclients, hsound, hsettled⟩ := accounted_of_isRun hs h k
  rw [hclients, List.getElem?_map] at hdone
  obtain ⟨stage, hstage, hclient⟩ := Option.map_eq_some_iff.mp hdone
  exact hsettled i stage shelf name result hstage
    (gives_of_done (hsound.fine stage (List.mem_of_getElem? hstage)) hclient)

/-- All of a template is cached. -/
theorem map_core_templates (result : Except EngineError TemplateVersion) :
    result.map (Shelf.core .templates) = result := by
  cases result <;> rfl

/-- **Cached reads are linearizable.**  Let clients call a store through caches
of any size, whose entries live for any time, over a store that calls have led
to.  Whatever other calls there are, in whatever order their steps come, and
whether they succeed, fail or are given up: a read of an active version gives
what the store behind gives at some instant while the read is in progress, and
so does a read of an active component, but for its uses. -/
theorem cached_reads_linearizable {s : Memory} (hs : Memory.Reachable s)
    (timeToLive : Duration) (capacity : Nat) {run : Nat → System cachedStore}
    (h : IsRun (withEmptyCaches s timeToLive capacity) run) :
    (∀ k i name result, (run k).clients[i]? = some
        ⟨.getActive name, .done (.ended result)⟩ →
      ∃ j < k, InProgress (run j) i (.getActive name) ∧
        ∀ now, (Memory.reply now (.getActive name) (run j).shared.1).1 =
          .ended result) ∧
    ∀ k i name result,
      (run k).clients[i]? = some ⟨.getActiveComponent name,
        .done (.ended result)⟩ →
      ∃ j < k, InProgress (run j) i (.getActiveComponent name) ∧
        ∃ inner, (∀ now,
            (Memory.reply now (.getActiveComponent name) (run j).shared.1).1 =
            .ended inner) ∧
          result.map Component.withoutUses =
            inner.map Component.withoutUses := by
  have hconsistent := Memory.consistent_of_reachable hs
  constructor
  · intro k i name result hdone
    have hsettled : Settled run k i .templates name result :=
      settled_of_done hconsistent h hdone
    obtain ⟨j, hj, hprogress, hresult⟩ := hsettled
    rw [map_core_templates, map_core_templates] at hresult
    exact ⟨j, hj, hprogress, fun _ => by rw [hresult]; rfl⟩
  · intro k i name result hdone
    have hsettled : Settled run k i .components name result :=
      settled_of_done hconsistent h hdone
    obtain ⟨j, hj, hprogress, hresult⟩ := hsettled
    exact ⟨j, hj, hprogress, (run j).shared.1.read .components name,
      fun _ => rfl, hresult⟩

/-- Steps that are carried out at once, all at one instant. -/
def answerAtOnce : (request : CachedCalls.Request) → Memory × Caches →
    CachedCalls.Reply request × (Memory × Caches)
  | .inl call, s =>
    ((Caches.answer 0 call s.2).1, (s.1, (Caches.answer 0 call s.2).2))
  | .inr call, s =>
    ((Memory.reply ⟨0, 0⟩ call s.1).1, ((Memory.reply ⟨0, 0⟩ call s.1).2, s.2))

/-- An answer at once is one of those that a request may get. -/
theorem answersCached_answerAtOnce (request : CachedCalls.Request)
    (s : Memory × Caches) :
    AnswersCached request s (answerAtOnce request s).1
      (answerAtOnce request s).2 := by
  cases request with
  | inl call => exact ⟨rfl, 0, rfl⟩
  | inr call => exact ⟨rfl, .carriedOut ⟨0, 0⟩⟩

/-- A store with two greetings, of which the first is active. -/
def twoGreetings : Memory :=
  Memory.empty.after ⟨0, 0⟩
    [.insertVersion (Memory.greeting 1 true) (Memory.greetingEntry 1),
      .insertVersion (Memory.greeting 2 false) (Memory.greetingEntry 2)]

/-- A first reader loads the first greeting; before it can keep it, a writer
makes the second one active.  Two more readers follow. -/
def overtakenRead : Nat → System cachedStore :=
  Sharing.schedule answerAtOnce
    (withEmptyCaches twoGreetings (.ofSeconds 300) 8)
    [.arrive (.getActive "greeting"), .proceed 0, .proceed 0,
      .arrive (.swapActive 3 "ann" none), .proceed 1, .proceed 1, .proceed 1,
      .proceed 1, .proceed 0, .arrive (.getActive "greeting"), .proceed 2,
      .proceed 2, .proceed 2, .arrive (.getActive "greeting"), .proceed 3]

/-- The run is one that the system can take. -/
theorem isRun_overtakenRead :
    IsRun (withEmptyCaches twoGreetings (.ofSeconds 300) 8) overtakenRead := by
  unfold overtakenRead
  apply Sharing.isRun_schedule
  exact answersCached_answerAtOnce

/-- The first reader gets the first greeting and does not leave it in the cache;
the last one finds the second greeting there. -/
theorem overtaken_read_linearizable :
    (overtakenRead 15).clients[0]? = some ⟨.getActive "greeting",
      .done (.ended (.ok ((Memory.greeting 1 true).withId 1 ⟨0, 0⟩)))⟩ ∧
    (∃ j < 15, InProgress (overtakenRead j) 0 (.getActive "greeting") ∧
      ∀ now,
        (Memory.reply now (.getActive "greeting")
          (overtakenRead j).shared.1).1 =
        .ended (.ok ((Memory.greeting 1 true).withId 1 ⟨0, 0⟩))) ∧
    (overtakenRead 15).clients[3]? = some ⟨.getActive "greeting",
      .done (.ended (.ok ((Memory.greeting 2 true).withId 3 ⟨0, 0⟩)))⟩ ∧
    ∃ j < 15, InProgress (overtakenRead j) 3 (.getActive "greeting") ∧
      ∀ now,
        (Memory.reply now (.getActive "greeting")
          (overtakenRead j).shared.1).1 =
        .ended (.ok ((Memory.greeting 2 true).withId 3 ⟨0, 0⟩)) := by
  have hstart : Memory.Reachable twoGreetings :=
    Memory.Reachable.empty.after _ _
  obtain ⟨hreads, -⟩ :=
    cached_reads_linearizable hstart (.ofSeconds 300) 8 isRun_overtakenRead
  exact ⟨rfl, hreads 15 0 "greeting" _ rfl, rfl, hreads 15 3 "greeting" _ rfl⟩

end TemplateRegistry
