import TemplateRegistry.Service.Rendering
/-!
# Loading by a queue

Components are loaded level by level.  The same can be done one name at a time,
with a queue of names in which each name carries the depth of its include: a
name beyond the include depth or asked for before is dropped, any other is asked
for, and the names that its component includes go to the end of the queue, one
level deeper.

`FromQueue` is that queue.  It is inductive, so that a program which comes from
a queue has emptied it after finitely many names, however the store replies.

* `fromQueue_loadLevels` — some levels are the queue of their names;
* `fromQueue_prefetch` — so is everything that is loaded for a text.
-/

namespace TemplateRegistry.Rendering

open Markup

/-- A name to be loaded, and how deep its include is nested; the includes of the
text itself have depth 1. -/
abbrev Waiting : Type := String × Nat

/-- Names that are all of one depth. -/
def atDepth (depth : Nat) (names : List String) : List Waiting :=
  names.map fun name => (name, depth)

/-- The program that takes names off the front of a queue until none is left. -/
inductive FromQueue (maxDepth : Nat) :
    List Waiting → Prefetched → Program StoreCalls Prefetched → Prop
  | emptied (loaded : Prefetched) : FromQueue maxDepth [] loaded (.done loaded)
  /-- A name too deep or asked for before is dropped. -/
  | dropped {name : String} {depth : Nat} {rest : List Waiting}
      {loaded : Prefetched} {p : Program StoreCalls Prefetched}
      (hdrop : maxDepth < depth ∨ name ∈ loaded.seen)
      (tail : FromQueue maxDepth rest loaded p) :
      FromQueue maxDepth ((name, depth) :: rest) loaded p
  /-- Any other name is asked for; only a component that was found adds to the
  queue. -/
  | asked {name : String} {depth : Nat} {rest : List Waiting}
      {loaded : Prefetched}
      {next : Outcome Component → Program StoreCalls Prefetched}
      (hdepth : depth ≤ maxDepth) (hnew : name ∉ loaded.seen)
      (found : ∀ c : Component, FromQueue maxDepth
        (rest ++ atDepth (depth + 1) (Directives.ofText c.content).includes)
        ⟨name :: loaded.seen, loaded.components.insert name c⟩
        (next (.ended (.ok c))))
      (failed : ∀ outcome, (∀ c, outcome ≠ .ended (.ok c)) →
        FromQueue maxDepth rest
        { loaded with seen := name :: loaded.seen } (next outcome)) :
      FromQueue maxDepth ((name, depth) :: rest) loaded
        (.ask (I := StoreCalls) (.getActiveComponent name) next)

variable {maxDepth : Nat}

/-- Names beyond the include depth are all dropped. -/
theorem fromQueue_tooDeep {depth : Nat} (hdepth : maxDepth < depth)
    (names : List String) (loaded : Prefetched) :
    FromQueue maxDepth (atDepth depth names) loaded (.done loaded) := by
  induction names with
  | nil => exact .emptied loaded
  | cons name rest ih => exact .dropped (Or.inl hdepth) ih

/-- What is left of a level once a name of it was asked for. -/
def afterAsking (name : String) (rest : List String) (loaded : Prefetched) :
    Outcome Component → Program StoreCalls (Prefetched × List String)
  | .ended (.ok c) =>
    loadLevel rest ⟨name :: loaded.seen, loaded.components.insert name c⟩ >>=
        fun r =>
      pure (r.1, (Directives.ofText c.content).includes ++ r.2)
  | _ => loadLevel rest { loaded with seen := name :: loaded.seen }

/-- A name that was not seen is asked for. -/
theorem loadLevel_cons_of_new {name : String} {loaded : Prefetched}
    (hnew : name ∉ loaded.seen) (rest : List String) :
    loadLevel (name :: rest) loaded =
      .ask (I := StoreCalls) (.getActiveComponent name)
        (afterAsking name rest loaded) := by
  rw [loadLevel, if_neg hnew]
  congr 1
  funext (outcome : Outcome Component)
  rcases outcome with (error | c) | _ <;> rfl

/-- A name without a component is seen and nothing more. -/
theorem afterAsking_of_failed {outcome : Outcome Component}
    (hfailed : ∀ c, outcome ≠ .ended (.ok c)) (name : String)
    (rest : List String) (loaded : Prefetched) :
    afterAsking name rest loaded outcome =
      loadLevel rest { loaded with seen := name :: loaded.seen } := by
  unfold afterAsking
  split
  · rename_i c
    exact (hfailed c rfl).elim
  · rfl

/-- **One level.**  Of the level at hand `names` are left, and `more` were found
in the part of it that is done; `below` is what is done about the next level. -/
theorem fromQueue_loadLevel {depth : Nat} (hdepth : depth ≤ maxDepth)
    {below : List String → Prefetched → Program StoreCalls Prefetched}
    (hbelow : ∀ more loaded,
      FromQueue maxDepth (atDepth (depth + 1) more) loaded (below more loaded))
    (names : List String) :
    ∀ (more : List String) (loaded : Prefetched),
      FromQueue maxDepth (atDepth depth names ++
          atDepth (depth + 1) more) loaded
        ((loadLevel names loaded).bind fun r => below (more ++ r.2) r.1) := by
  induction names with
  | nil =>
      intro more loaded
      have hdone :
          ((loadLevel [] loaded).bind fun r => below (more ++ r.2) r.1) =
          below (more ++ []) loaded := rfl
      rw [hdone, List.append_nil]
      exact hbelow more loaded
  | cons name rest ih =>
      intro more loaded
      by_cases hseen : name ∈ loaded.seen
      · rw [loadLevel, if_pos hseen]
        exact .dropped (Or.inr hseen) (ih more loaded)
      · rw [loadLevel_cons_of_new hseen]
        refine .asked hdepth hseen (fun c => ?_) fun outcome hfailed => ?_
        · -- what the component includes comes after what was found before it
          have hfound := ih (more ++ (Directives.ofText c.content).includes)
            ⟨name :: loaded.seen, loaded.components.insert name c⟩
          have hqueue :
              atDepth (depth + 1) (more ++
                (Directives.ofText c.content).includes) =
              atDepth (depth + 1) more ++
                atDepth (depth + 1) (Directives.ofText c.content).includes :=
            List.map_append
          have hnext : (afterAsking name rest loaded (.ended (.ok c))).bind
              (fun r => below (more ++ r.2) r.1) =
                (loadLevel rest ⟨name :: loaded.seen,
                    loaded.components.insert name c⟩).bind
                  fun r => below (more ++
                    ((Directives.ofText c.content).includes ++ r.2)) r.1 :=
            Program.bind_assoc _ _ _
          simp only [hqueue, List.append_assoc] at hfound
          rw [← List.append_assoc] at hfound
          exact hnext ▸ hfound
        · rw [afterAsking_of_failed hfailed]
          exact ih more _

/-- Some levels below a depth are the queue of the names of the first of
them. -/
theorem fromQueue_loadLevels (levels : Nat) :
    ∀ (depth : Nat) (names : List String) (loaded : Prefetched),
      depth + levels = maxDepth →
      FromQueue maxDepth (atDepth (depth + 1) names) loaded
        (loadLevels levels names loaded) := by
  induction levels with
  | zero =>
      intro depth names loaded hdepth
      exact fromQueue_tooDeep (by omega) names loaded
  | succ levels ih =>
      intro depth names loaded hdepth
      cases names with
      | nil => exact .emptied loaded
      | cons name rest =>
          have hbelow :
              ∀ more loaded,
                FromQueue maxDepth (atDepth (depth + 1 + 1) more) loaded
              (loadLevels levels more loaded) :=
            fun more loaded => ih (depth + 1) more loaded (by omega)
          have hlevel :=
            fromQueue_loadLevel (by omega) hbelow (name :: rest) [] loaded
          rwa [atDepth, atDepth, List.map_nil, List.append_nil] at hlevel

/-- **Loading for a text is the queue of its includes.**  Whatever the store
replies, the queue is emptied, and what the names in it were asked for and found
is what the levels give. -/
theorem fromQueue_prefetch (config : Config) (content : String) :
    FromQueue config.maxIncludeDepth
      (atDepth 1 (Directives.ofText content).includes) .empty
      (prefetch config content) :=
  fromQueue_loadLevels config.maxIncludeDepth 0 _ .empty (Nat.zero_add _)

end TemplateRegistry.Rendering
