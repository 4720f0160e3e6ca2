import TemplateRegistry.Proofs.Tables
import TemplateRegistry.Service.Rendering
import TemplateRegistry.Store.Memory
/-!
# What is loaded for a render

A program run alone on a store in memory, and what the loading of components
finds there: it changes nothing, and whatever it loads is the active component
of the name it was asked for.
-/

namespace TemplateRegistry

/-- A program run alone on a store in memory, all at one instant. -/
def Memory.perform {α : Type} (now : Timestamp) (p : Program StoreCalls α)
    (s : Memory) :
    α × Memory :=
  Program.run (Memory.reply now) p s

namespace Memory

variable {α β : Type}

/-- A request is replied to, and the rest goes on from there. -/
theorem perform_ask {now : Timestamp} {call : StoreCall} {s after : Memory}
    {outcome : Outcome call.Result} (h : reply now call s = (outcome, after))
    (next : Outcome call.Result → Program StoreCalls α) :
    s.perform now (.ask (I := StoreCalls) call next) =
      after.perform now (next outcome) := by
  show (reply now call s).2.perform now (next (reply now call s).1) = _
  rw [h]

/-- A program is performed part by part. -/
@[simp] theorem perform_bind (now : Timestamp) (p : Program StoreCalls α)
    (f : α → Program StoreCalls β) (s : Memory) :
    s.perform now (p >>= f) =
      (s.perform now p).2.perform now (f (s.perform now p).1) :=
  Program.run_bind _ p f s

/-- Asking for the active component of a name changes nothing. -/
theorem reply_getActiveComponent (now : Timestamp) (name : String)
    (s : Memory) :
    reply now (.getActiveComponent name) s =
      (.ended ((found (.componentNotFound name)
          (s.activeComponent? name)).mapError .registry),
        s) := rfl

end Memory

namespace Rendering

variable {s : Memory}

/-- Everything that was loaded is the active component of its name. -/
def Prefetched.Faithful (s : Memory) (loaded : Prefetched) : Prop :=
  ∀ entry ∈ loaded.components, s.activeComponent? entry.1 = some entry.2

/-- What was loaded stays faithful with one active component more. -/
theorem Prefetched.Faithful.insert {loaded : Prefetched} (h : loaded.Faithful s)
    {name : String} {c : Component} (hc : s.activeComponent? name = some c) :
    Prefetched.Faithful s
      { loaded with components := loaded.components.insert name c } := by
  intro entry hentry
  rcases Table.mem_insert hentry with rfl | hold
  · exact hc
  · exact h entry hold

/-- A name not asked for before is asked for once. -/
theorem perform_loadLevel_cons (now : Timestamp) {name : String}
    (rest : List String) {loaded : Prefetched} (hseen : name ∉ loaded.seen)
    (s : Memory) :
    s.perform now (loadLevel (name :: rest) loaded) =
      match s.activeComponent? name with
      | none =>
          s.perform now
            (loadLevel rest { loaded with seen := name :: loaded.seen })
      | some c =>
        let r := s.perform now (loadLevel rest
          ⟨name :: loaded.seen, loaded.components.insert name c⟩)
        ((r.1.1, (Markup.Directives.ofText c.content).includes ++ r.1.2),
          r.2) := by
  have hreply := Memory.reply_getActiveComponent now name s
  rw [loadLevel, if_neg hseen]
  cases hc : s.activeComponent? name with
  | none =>
      rw [hc] at hreply
      exact Memory.perform_ask hreply _
  | some c =>
      rw [hc] at hreply
      refine (Memory.perform_ask hreply _).trans ?_
      exact Memory.perform_bind now
        (loadLevel rest ⟨name :: loaded.seen, loaded.components.insert name c⟩)
        (fun r => pure (r.1,
          (Markup.Directives.ofText c.content).includes ++ r.2)) s

/-- Loading a level changes nothing and loads active components. -/
theorem perform_loadLevel (now : Timestamp) (names : List String) :
    ∀ loaded : Prefetched, loaded.Faithful s →
      (s.perform now (loadLevel names loaded)).2 = s ∧
        (s.perform now (loadLevel names loaded)).1.1.Faithful s := by
  induction names with
  | nil => exact fun loaded h => ⟨rfl, h⟩
  | cons name rest ih =>
      intro loaded h
      by_cases hseen : name ∈ loaded.seen
      · unfold loadLevel
        rw [if_pos hseen]
        exact ih loaded h
      · rw [perform_loadLevel_cons now rest hseen]
        cases hc : s.activeComponent? name with
        | none => exact ih { loaded with seen := name :: loaded.seen } h
        | some c =>
            exact ih ⟨name :: loaded.seen, loaded.components.insert name c⟩
              (h.insert hc)

/-- Loading levels leaves the store alone and loads components as they are. -/
theorem perform_loadLevels (now : Timestamp) (levels : Nat) :
    ∀ (names : List String) (loaded : Prefetched), loaded.Faithful s →
      (s.perform now (loadLevels levels names loaded)).2 = s ∧
        (s.perform now (loadLevels levels names loaded)).1.Faithful s := by
  induction levels with
  | zero => exact fun names loaded h => ⟨rfl, h⟩
  | succ levels ih =>
      intro names loaded h
      cases names with
      | nil => exact ⟨rfl, h⟩
      | cons name rest =>
          obtain ⟨hstate, hfaithful⟩ :=
            perform_loadLevel now (name :: rest) loaded h
          have hbind :=
            Memory.perform_bind now (loadLevel (name :: rest) loaded)
            (fun r => loadLevels levels r.2 r.1) s
          rw [hstate] at hbind
          have hunfold :
              s.perform now (loadLevels (levels + 1) (name :: rest) loaded) =
              s.perform now (loadLevel (name :: rest) loaded >>= fun r =>
                loadLevels levels r.2 r.1) := rfl
          rw [hunfold, hbind]
          exact ih _ _ hfaithful

/-- **Loading for a render** changes nothing and loads active components. -/
theorem perform_prefetch (now : Timestamp) (config : Config) (content : String)
    (s : Memory) :
    (s.perform now (prefetch config content)).2 = s ∧
      (s.perform now (prefetch config content)).1.Faithful s := by
  apply perform_loadLevels
  intro entry hentry
  simp [Prefetched.empty] at hentry

/-- The text loaded for a name is that of its active component. -/
theorem Prefetched.Faithful.text? {loaded : Prefetched} (h : loaded.Faithful s)
    {name content : String}
    (htext : Markup.Components.text? loaded.texts name = some content) :
    ∃ c, s.activeComponent? name = some c ∧ c.content = content := by
  unfold Markup.Components.text? at htext
  obtain ⟨before, after, heq, -⟩ := List.lookup_eq_some_iff.mp htext
  have hmem : (name, content) ∈ loaded.texts := by
    rw [heq]
    simp
  obtain ⟨entry, hentry, hpair⟩ := List.mem_map.mp hmem
  obtain ⟨rfl, rfl⟩ := Prod.mk.inj hpair
  exact ⟨entry.2, h entry hentry, rfl⟩

end Rendering

end TemplateRegistry
