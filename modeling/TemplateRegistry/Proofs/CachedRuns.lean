import TemplateRegistry.Proofs.CacheCoherence
import TemplateRegistry.Proofs.Interleaving
import TemplateRegistry.Proofs.MemoryFrames
import TemplateRegistry.Store.Cached
/-!
# Clients of a cached store

Any number of clients read and write through a store behind caches.  Each call
is a few steps, and steps of different clients come between each other in any
order.

* `EndsBehind` — how a call of the store behind the caches can end;
* `cachedStore` — the calls, their steps, and what these do;
* `Stage`, `Stage.client` — how far a client can have got, and what it has left
  to do;
* `Transition`, `transition_of_proceed` — what one step of a client does.
-/

namespace TemplateRegistry

/-- The calls that a cache may answer. -/
def StoreCall.IsRead : StoreCall → Prop
  | getActive _ => True
  | getActiveComponent _ => True
  | _ => False

/-- A call of the store behind the caches ends. -/
inductive EndsBehind (call : StoreCall) (s : Memory) :
    Outcome call.Result → Memory → Prop
  /-- It is carried out, and succeeds or fails. -/
  | carriedOut (now : Timestamp) :
      EndsBehind call s (Memory.reply now call s).1 (Memory.reply now call s).2
  /-- It fails for another reason. -/
  | failed (error : EngineError) (hread : ¬ call.IsRead) :
      EndsBehind call s (.ended (.error error)) s
  /-- It is given up before it has done anything. -/
  | givenUp : EndsBehind call s .hung s
  /-- It is given up when everything is done. -/
  | lost (now : Timestamp) : EndsBehind call s .hung (Memory.reply now call s).2

/-- However a call ends behind the caches, its effect is one that the store
has. -/
theorem EndsBehind.effect {call : StoreCall} {s after : Memory}
    {outcome : Outcome call.Result} (h : EndsBehind call s outcome after) :
    ∃ now, Memory.Effect now s call after := by
  cases h with
  | carriedOut now => exact ⟨now, Memory.effect_answer now call s⟩
  | failed error hread => exact ⟨⟨0, 0⟩, .nothing call⟩
  | givenUp => exact ⟨⟨0, 0⟩, .nothing call⟩
  | lost now => exact ⟨now, Memory.effect_answer now call s⟩

/-- A read leaves the store as it is, and is answered from it if at all. -/
theorem EndsBehind.of_isRead {call : StoreCall} {s after : Memory}
    {outcome : Outcome call.Result} (h : EndsBehind call s outcome after)
    (hread : call.IsRead) :
    after = s ∧ ((∃ now, outcome = (Memory.reply now call s).1) ∨
      outcome = .hung) := by
  have hkept : ∀ now, (Memory.reply now call s).2 = s := by
    intro now
    cases call <;> first | rfl | exact hread.elim
  cases h with
  | carriedOut now => exact ⟨hkept now, Or.inl ⟨now, rfl⟩⟩
  | failed error hwrite => exact (hwrite hread).elim
  | givenUp => exact ⟨rfl, Or.inr rfl⟩
  | lost now => exact ⟨hkept now, Or.inr rfl⟩

/-- A step of a call through the caches: on a cache at some instant, or on the
store behind. -/
def AnswersCached : (request : CachedCalls.Request) → Memory × Caches →
    CachedCalls.Reply request → Memory × Caches → Prop
  | .inl call, s, reply, after =>
    after.1 = s.1 ∧ ∃ now, Caches.answer now call s.2 = (reply, after.2)
  | .inr call, s, reply, after =>
    after.2 = s.2 ∧ EndsBehind call s.1 reply after.1

/-- Calls through the caches of a store in memory. -/
def cachedStore : Sharing where
  Requests := CachedCalls
  State := Memory × Caches
  Call := StoreCall
  Result call := Outcome call.Result
  program := cached
  answers := AnswersCached

/-! ### Shelves -/

namespace Shelf

/-- The call that reads a shelf. -/
def read : Shelf → String → StoreCall
  | templates, name => .getActive name
  | components, name => .getActiveComponent name

/-- The error for a name without an item. -/
def missing : Shelf → String → RegistryError
  | templates, name => .activeTemplateNotFound name
  | components, name => .componentNotFound name

/-- An item without what may lag behind. -/
def core : (shelf : Shelf) → shelf.Item → shelf.Item
  | templates, t => t
  | components, c => c.withoutUses

/-- A client that reads a shelf. -/
def reader : (shelf : Shelf) → String → CachedProgram (Outcome shelf.Item) →
    Sharing.Client cachedStore
  | templates, name, rest => ⟨.getActive name, rest⟩
  | components, name, rest => ⟨.getActiveComponent name, rest⟩

/-- Load an item from the store behind. -/
def load : (shelf : Shelf) → String → CachedProgram (Outcome shelf.Item)
  | templates, name => behind (.getActive name)
  | components, name => behind (.getActiveComponent name)

/-- What a reader does with an item that was loaded under a ticket. -/
def afterLoad (shelf : Shelf) (name : String) (ticket : Nat) :
    Outcome shelf.Item → CachedProgram (Outcome shelf.Item)
  | .ended (.ok item) => do
    let _ ← onCache (.keep shelf name item ticket)
    return .ended (.ok item)
  | outcome => return outcome

end Shelf

/-- The item that a store has for a name. -/
def Memory.item? : (shelf : Shelf) → String → Memory → Option shelf.Item
  | .templates, name, s => s.active? name
  | .components, name, s => s.activeComponent? name

/-- What a read of a shelf gives. -/
def Memory.read (shelf : Shelf) (name : String) (s : Memory) :
    Except EngineError shelf.Item :=
  (found (shelf.missing name) (s.item? shelf name)).mapError .registry

/-- A shelf that is put in is the one that is there. -/
theorem Caches.shelf_withShelf (shelf : Shelf) (cache : Cache shelf.Item)
    (caches : Caches) :
    (caches.withShelf shelf cache).shelf shelf = cache := by
  cases shelf <;> rfl

/-- The other shelf stays as it was. -/
theorem Caches.shelf_withShelf_of_ne {shelf other : Shelf} (h : other ≠ shelf)
    (cache : Cache shelf.Item) (caches : Caches) :
    (caches.withShelf shelf cache).shelf other = caches.shelf other := by
  cases shelf <;> cases other <;> first | rfl | exact (h rfl).elim

/-! ### Stages -/

/-- How far a client has got. -/
inductive Stage
  | looking (shelf : Shelf) (name : String)
  | loading (shelf : Shelf) (name : String) (ticket : Nat)
  | keeping (shelf : Shelf) (name : String) (item : shelf.Item) (ticket : Nat)
  | answered (shelf : Shelf) (name : String) (outcome : Outcome shelf.Item)
  /-- Asking for the name of the version to be made active. -/
  | naming (id : Int) (author : String) (notes : Option String)
  | announcing (shelf : Shelf) (name : String) (call : StoreCall)
  | writing (shelf : Shelf) (name : String) (call : StoreCall)
  | ending (shelf : Shelf) (name : String) (call : StoreCall)
      (outcome : Outcome call.Result)
  /-- A call that no cache has to do with. -/
  | asking (call : StoreCall)
  | finished (call : StoreCall) (outcome : Outcome call.Result)

/-- The client at a stage. -/
def Stage.client : Stage → Sharing.Client cachedStore
  | looking shelf name =>
    shelf.reader name (readThrough shelf name (shelf.load name))
  | loading shelf name ticket =>
    shelf.reader name (shelf.load name >>= shelf.afterLoad name ticket)
  | keeping shelf name item ticket =>
    shelf.reader name (shelf.afterLoad name ticket (.ended (.ok item)))
  | answered shelf name outcome => shelf.reader name (.done outcome)
  | naming id author notes =>
    ⟨.swapActive id author notes, cached (.swapActive id author notes)⟩
  | announcing shelf name call => ⟨call, writeThrough shelf name (behind call)⟩
  | writing shelf name call =>
    ⟨call, do
      let outcome ← behind call
      onCache (.endWrite shelf name)
      return outcome⟩
  | ending shelf name call outcome =>
    ⟨call, do
      onCache (.endWrite shelf name)
      return outcome⟩
  | asking call => ⟨call, behind call⟩
  | finished call outcome => ⟨call, .done outcome⟩

/-- The stage at which a call starts. -/
def Stage.start : StoreCall → Stage
  | .getActive name => looking .templates name
  | .getActiveComponent name => looking .components name
  | .insertVersion new entry =>
    announcing .templates new.name (.insertVersion new entry)
  | .swapActive id author notes => naming id author notes
  | .deleteFamily name => announcing .templates name (.deleteFamily name)
  | .putComponent new => announcing .components new.name (.putComponent new)
  | .deactivateComponent name =>
    announcing .components name (.deactivateComponent name)
  | call => asking call

/-- A stage that has just started is a client that has just started. -/
theorem Stage.client_start (call : StoreCall) :
    (Stage.start call).client = Sharing.Client.new (M := cachedStore) call := by
  cases call <;> rfl

/-- What one step of a client does. -/
inductive Transition : Memory × Caches → Stage → Stage → Memory × Caches → Prop
  | hit {s : Memory} {caches : Caches} {shelf : Shelf} {name : String}
      {now : Nat} {item : shelf.Item} {cache : Cache shelf.Item}
      (h : (caches.shelf shelf).get now name = (some item, cache)) :
      Transition (s, caches) (.looking shelf name)
        (.answered shelf name (.ended (.ok item)))
          (s, caches.withShelf shelf cache)
  | missed {s : Memory} {caches : Caches} {shelf : Shelf} {name : String}
      {now : Nat} {cache : Cache shelf.Item}
      (h : (caches.shelf shelf).get now name = (none, cache)) :
      Transition (s, caches) (.looking shelf name)
        (.loading shelf name cache.ticket) (s, caches.withShelf shelf cache)
  | loaded {s : Memory} {caches : Caches} {shelf : Shelf} {name : String}
      {ticket : Nat} {item : shelf.Item}
      (h : s.read shelf name = .ok item) :
      Transition (s, caches) (.loading shelf name ticket)
        (.keeping shelf name item ticket) (s, caches)
  | absent {s : Memory} {caches : Caches} {shelf : Shelf} {name : String}
      {ticket : Nat} {error : EngineError}
      (h : s.read shelf name = .error error) :
      Transition (s, caches) (.loading shelf name ticket)
        (.answered shelf name (.ended (.error error))) (s, caches)
  | loadGivenUp {s : Memory} {caches : Caches} {shelf : Shelf} {name : String}
      {ticket : Nat} :
      Transition (s, caches) (.loading shelf name ticket)
        (.answered shelf name .hung) (s, caches)
  | kept {s : Memory} {caches : Caches} {shelf : Shelf} {name : String}
      {item : shelf.Item} {ticket : Nat} (now : Nat) :
      Transition (s, caches) (.keeping shelf name item ticket)
        (.answered shelf name (.ended (.ok item)))
        (s, caches.withShelf shelf
          ((caches.shelf shelf).insertIfCurrent now name item ticket).2)
  | named {s : Memory} {caches : Caches} {target : TemplateVersion} {id : Int}
      {author : String} {notes : Option String}
      (h : target ∈ s.templates) (hid : target.id = id) :
      Transition (s, caches) (.naming id author notes)
        (.announcing .templates target.name (.swapActive id author notes))
        (s, caches)
  | notNamed {s : Memory} {caches : Caches} {id : Int} {author : String}
      {notes : Option String}
      (outcome : Outcome TemplateVersion) :
      Transition (s, caches) (.naming id author notes)
        (.finished (.swapActive id author notes) outcome) (s, caches)
  | began {s : Memory} {caches : Caches} {shelf : Shelf} {name : String}
      {call : StoreCall} :
      Transition (s, caches) (.announcing shelf name call)
        (.writing shelf name call) (s,
          caches.withShelf shelf ((caches.shelf shelf).beginWrite name))
  | wrote {s after : Memory} {caches : Caches} {shelf : Shelf} {name : String}
      {call : StoreCall} {outcome : Outcome call.Result}
      (h : EndsBehind call s outcome after) :
      Transition (s, caches) (.writing shelf name call)
        (.ending shelf name call outcome) (after, caches)
  | ended {s : Memory} {caches : Caches} {shelf : Shelf} {name : String}
      {call : StoreCall} {outcome : Outcome call.Result}
      :
      Transition (s, caches) (.ending shelf name call outcome)
        (.finished call outcome) (s,
          caches.withShelf shelf ((caches.shelf shelf).endWrite name))
  | passed {s after : Memory} {caches : Caches} {call : StoreCall}
      {outcome : Outcome call.Result}
      (h : EndsBehind call s outcome after) :
      Transition (s, caches) (.asking call) (.finished call outcome)
        (after, caches)

/-- A look into a cache finds an item or gives a ticket. -/
theorem answer_find {now : Nat} {shelf : Shelf} {name : String}
    {caches after : Caches} {reply : Lookup shelf.Item}
    (h : Caches.answer now (.find shelf name) caches = (reply, after)) :
    (∃ item cache, (caches.shelf shelf).get now name = (some item, cache) ∧
      reply = .hit item ∧ after = caches.withShelf shelf cache) ∨
    (∃ cache, (caches.shelf shelf).get now name = (none, cache) ∧
      reply = .miss cache.ticket ∧ after = caches.withShelf shelf cache) := by
  unfold Caches.answer at h
  cases hget : (caches.shelf shelf).get now name with
  | mk found cache =>
      simp only [hget] at h
      cases found with
      | some item =>
          obtain ⟨rfl, rfl⟩ := Prod.mk.inj h
          exact Or.inl ⟨item, cache, rfl, rfl, rfl⟩
      | none =>
          obtain ⟨rfl, rfl⟩ := Prod.mk.inj h
          exact Or.inr ⟨cache, rfl, rfl, rfl⟩

/-- Readers are equal if they read the same and have the same left to do. -/
theorem reader_eq {shelf other : Shelf} {name found : String}
    {rest : CachedProgram (Outcome shelf.Item)}
    {left : CachedProgram (Outcome other.Item)}
    (h : other.reader found left = shelf.reader name rest) :
    ∃ hshelf : other = shelf, found = name ∧ hshelf ▸ left = rest := by
  cases other with
  | templates =>
      cases shelf with
      | templates =>
          cases h
          exact ⟨rfl, rfl, rfl⟩
      | components => cases h
  | components =>
      cases shelf with
      | templates => cases h
      | components =>
          cases h
          exact ⟨rfl, rfl, rfl⟩

/-- A reader goes on with the reply it gets. -/
theorem proceed_reader {shelf : Shelf} {name : String}
    {asked request : CachedCalls.Request}
    {rest : CachedCalls.Reply asked → CachedProgram (Outcome shelf.Item)}
    {call : StoreCall}
    {next : CachedCalls.Reply request → CachedProgram (Outcome call.Result)}
    (hclient : shelf.reader name (.ask asked rest) = ⟨call, .ask request next⟩)
    {s after : Memory × Caches} {reply : CachedCalls.Reply request}
    (hanswer : AnswersCached request s reply after) :
    ∃ got, AnswersCached asked s got after ∧
      shelf.reader name (rest got) = ⟨call, next reply⟩ := by
  cases shelf with
  | templates =>
      cases hclient
      exact ⟨reply, hanswer, rfl⟩
  | components =>
      cases hclient
      exact ⟨reply, hanswer, rfl⟩

/-- A reader asks the store behind for what a read gives at once. -/
theorem proceed_loading {shelf : Shelf} {name : String} {ticket : Nat}
    {call : StoreCall} {request : CachedCalls.Request}
    {next : CachedCalls.Reply request → CachedProgram (Outcome call.Result)}
    (hclient : (Stage.loading shelf name ticket).client =
      ⟨call, .ask request next⟩)
    {s after : Memory × Caches} {reply : CachedCalls.Reply request}
    (hanswer : AnswersCached request s reply after) :
    after = s ∧ ∃ outcome, (outcome = .ended (s.1.read shelf name) ∨
        outcome = .hung) ∧
      shelf.reader name (shelf.afterLoad name ticket outcome) =
        ⟨call, next reply⟩ := by
  -- only the type of what is read tells the two shelves apart
  cases shelf
  all_goals
    cases hclient
    obtain ⟨hcaches, hends⟩ := hanswer
    obtain ⟨hmemory, hreply⟩ := hends.of_isRead trivial
    refine ⟨Prod.ext hmemory hcaches, reply, hreply.imp_left ?_, rfl⟩
    exact fun ⟨_, hread⟩ => hread

/-- The name of a version that is asked for. -/
theorem ends_getTemplate {id : Int} {s after : Memory}
    {outcome : Outcome (StoreCall.getTemplate id).Result}
    (h : EndsBehind (.getTemplate id) s outcome after) :
    after = s ∧ ∀ target, outcome = .ended (.ok target) →
      target ∈ s.templates ∧ target.id = id := by
  cases h with
  | carriedOut now =>
      refine ⟨rfl, fun target houtcome => ?_⟩
      have hfound :
          (Memory.found (.templateNotFound (toString id))
            (s.template? id)).mapError
          EngineError.registry = .ok target := Outcome.ended.inj houtcome
      cases htarget : s.template? id with
      | none =>
          rw [htarget] at hfound
          cases hfound
      | some t =>
          rw [htarget] at hfound
          cases hfound
          exact Memory.template?_mem htarget
  | failed error hread => exact ⟨rfl, fun target houtcome => by cases houtcome⟩
  | givenUp => exact ⟨rfl, fun target houtcome => by cases houtcome⟩
  | lost now => exact ⟨rfl, fun target houtcome => by cases houtcome⟩

/-- **One step of a client.**  It leads from a stage to a stage, by one of the
transitions. -/
theorem transition_of_proceed {stage : Stage} {call : StoreCall}
    {request : CachedCalls.Request}
    {next : CachedCalls.Reply request → CachedProgram (Outcome call.Result)}
    (hclient : stage.client = ⟨call, .ask request next⟩)
    {s after : Memory × Caches} {reply : CachedCalls.Reply request}
    (hanswer : AnswersCached request s reply after) :
    ∃ moved : Stage, moved.client = ⟨call, next reply⟩ ∧
      Transition s stage moved after := by
  obtain ⟨s, caches⟩ := s
  obtain ⟨t, after⟩ := after
  cases stage with
  | looking shelf name =>
      obtain ⟨got, ⟨hmemory, now, hfind⟩, hnext⟩ :=
        proceed_reader hclient hanswer
      obtain rfl : t = s := hmemory
      rw [← hnext]
      rcases answer_find hfind with ⟨item, cache, hget, rfl, rfl⟩ |
        ⟨cache, hget, rfl, rfl⟩
      · exact ⟨.answered shelf name (.ended (.ok item)), rfl, .hit hget⟩
      · exact ⟨.loading shelf name cache.ticket, rfl, .missed hget⟩
  | loading shelf name ticket =>
      obtain ⟨hsame, outcome, houtcome, hnext⟩ :=
        proceed_loading hclient hanswer
      rw [hsame, ← hnext]
      rcases houtcome with rfl | rfl
      · cases hread : s.read shelf name with
        | ok item => exact ⟨.keeping shelf name item ticket, rfl, .loaded hread⟩
        | error error =>
            exact ⟨.answered shelf name (.ended (.error error)), rfl,
              .absent hread⟩
      · exact ⟨.answered shelf name .hung, rfl, .loadGivenUp⟩
  | keeping shelf name item ticket =>
      obtain ⟨got, ⟨hmemory, now, hkeep⟩, hnext⟩ :=
        proceed_reader hclient hanswer
      obtain rfl : t = s := hmemory
      obtain ⟨-, rfl⟩ := Prod.mk.inj hkeep
      rw [← hnext]
      exact ⟨.answered shelf name (.ended (.ok item)), rfl, .kept now⟩
  | answered shelf name outcome =>
      cases shelf <;> cases hclient
  | naming id author notes =>
      cases hclient
      obtain ⟨hcaches, hends⟩ := hanswer
      obtain rfl : after = caches := hcaches
      obtain ⟨hsame, htarget⟩ := ends_getTemplate hends
      obtain rfl : t = s := hsame
      cases reply with
      | hung => exact ⟨.finished _ .hung, rfl, .notNamed .hung⟩
      | ended result =>
          cases result with
          | error error =>
              exact ⟨.finished _ (.ended (.error error)), rfl,
                .notNamed (.ended (.error error))⟩
          | ok target =>
              obtain ⟨hmem, hid⟩ := htarget target rfl
              exact ⟨.announcing .templates target.name
                (.swapActive id author notes), rfl,
                .named hmem hid⟩
  | announcing shelf name call =>
      cases hclient
      obtain ⟨hmemory, now, hbegin⟩ := hanswer
      obtain rfl : t = s := hmemory
      obtain ⟨-, rfl⟩ := Prod.mk.inj hbegin
      exact ⟨.writing shelf name _, rfl, .began⟩
  | writing shelf name call =>
      cases hclient
      obtain ⟨rfl, hends⟩ := hanswer
      exact ⟨.ending shelf name _ reply, rfl, .wrote hends⟩
  | ending shelf name call outcome =>
      cases hclient
      obtain ⟨hmemory, now, hend⟩ := hanswer
      obtain rfl : t = s := hmemory
      obtain ⟨-, rfl⟩ := Prod.mk.inj hend
      exact ⟨.finished _ outcome, rfl, .ended⟩
  | asking call =>
      cases hclient
      obtain ⟨rfl, hends⟩ := hanswer
      exact ⟨.finished _ reply, rfl, .passed hends⟩
  | finished call outcome => cases hclient

end TemplateRegistry
