import TemplateRegistry.Proofs.CachedRuns
/-!
# What holds of a cached store at every instant

Three things hold whatever the clients of a cached store do.  What is in a cache
is what the store has, and no write on its name is in flight.  A reader that is
about to keep an item has a ticket that counts only as long as the store still
has the item.  And a writer has announced the one name that it writes.

* `StoreCall.Announced` — what a write is announced for;
* `Stage.Fine` — what holds of a client at a stage;
* `Sound` — what holds of the store, the caches and all clients;
* `sound_transition` — one step keeps it.
-/

namespace TemplateRegistry

/-- The calls that change what reads through the caches give. -/
def StoreCall.IsWrite : StoreCall → Prop
  | insertVersion _ _ => True
  | swapActive _ _ _ => True
  | deleteFamily _ => True
  | putComponent _ => True
  | deactivateComponent _ => True
  | _ => False

/-- A call writes a name of a shelf. -/
def StoreCall.WritesOn (s : Memory) (call : StoreCall) : Shelf → String → Prop
  | .templates, name => call.WritesTemplate s name
  | .components, name => call.WritesComponent name

/-- The name that is announced for a write is the one that it writes. -/
inductive StoreCall.Announced (s : Memory) : StoreCall → Shelf → String → Prop
  | insertVersion (new : NewVersion) (entry : NewLogEntry) :
      Announced s (.insertVersion new entry) .templates new.name
  | swapActive {id : Int} {name : String} (h : s.Owned id name)
      (author : String) (notes : Option String) :
      Announced s (.swapActive id author notes) .templates name
  | deleteFamily (name : String) :
      Announced s (.deleteFamily name) .templates name
  | putComponent (new : NewComponent) :
      Announced s (.putComponent new) .components new.name
  | deactivateComponent (name : String) :
      Announced s (.deactivateComponent name) .components name

/-- An item is the one that a store has for a name, as far as it matters. -/
def Memory.Holds (s : Memory) (shelf : Shelf) (name : String)
    (item : shelf.Item) : Prop :=
  (s.item? shelf name).map shelf.core = some (shelf.core item)

/-! ### Writes and what they are announced for -/

section Writes

variable {s after : Memory} {now : Timestamp} {call : StoreCall}
  {shelf : Shelf} {name : String}

/-- A call that is announced reads nothing. -/
theorem StoreCall.Announced.not_isRead (h : call.Announced s shelf name) :
    ¬ call.IsRead := by
  cases h <;> exact fun hread => hread

/-- A write writes no other name than the one it is announced for. -/
theorem StoreCall.Announced.eq_of_writesOn (h : call.Announced s shelf name)
    {other : Shelf} {written : String}
    (hwrites : call.WritesOn s other written) :
    other = shelf ∧ written = name := by
  cases h with
  | insertVersion new entry =>
      cases other with
      | templates => exact ⟨rfl, Eq.symm hwrites⟩
      | components => exact hwrites.elim
  | swapActive howned author notes =>
      cases other with
      | templates =>
          obtain ⟨t, ht, hid, rfl⟩ := hwrites
          exact ⟨rfl, howned.2 t ht hid⟩
      | components => exact hwrites.elim
  | deleteFamily =>
      cases other with
      | templates => exact ⟨rfl, Eq.symm hwrites⟩
      | components => exact hwrites.elim
  | putComponent new =>
      cases other with
      | templates => exact hwrites.elim
      | components => exact ⟨rfl, Eq.symm hwrites⟩
  | deactivateComponent =>
      cases other with
      | templates => exact hwrites.elim
      | components => exact ⟨rfl, Eq.symm hwrites⟩

/-- A call that writes on a shelf writes. -/
theorem StoreCall.isWrite_of_writesOn (h : call.WritesOn s shelf name) :
    call.IsWrite := by
  cases call <;> cases shelf <;> first | exact trivial | exact h

/-- What is announced stays so. -/
theorem StoreCall.Announced.of_effect (h : call.Announced s shelf name)
    {other : StoreCall} (heffect : Memory.Effect now s other after) :
    call.Announced after shelf name := by
  cases h with
  | insertVersion new entry => exact .insertVersion new entry
  | swapActive howned author notes =>
      exact .swapActive (Memory.owned_effect heffect howned) author notes
  | deleteFamily => exact .deleteFamily name
  | putComponent new => exact .putComponent new
  | deactivateComponent => exact .deactivateComponent name

/-- **Other items.**  A call leaves every item alone that it does not write. -/
theorem item?_effect (hs : s.Consistent)
    (heffect : Memory.Effect now s call after)
    (hother : ¬ call.WritesOn s shelf name) :
    (after.item? shelf name).map shelf.core =
      (s.item? shelf name).map shelf.core := by
  cases shelf with
  | templates =>
      have hfamily := Memory.family_effect hs heffect hother
      simp only [Memory.item?, Memory.active?, hfamily]
  | components => exact Memory.activeComponent?_effect hs heffect hother

end Writes

/-! ### The invariant -/

/-- A write on a name is in flight at a stage. -/
def Stage.isWriting (shelf : Shelf) (name : String) : Stage → Bool
  | writing other written _ => other = shelf ∧ written = name
  | ending other written _ _ => other = shelf ∧ written = name
  | _ => false

/-- How many writes on a name are in flight. -/
def writersAt (stages : List Stage) (shelf : Shelf) (name : String) : Nat :=
  stages.countP (Stage.isWriting shelf name)

/-- What holds of a client while it is at a stage. -/
def Stage.Fine (s : Memory × Caches) : Stage → Prop
  | loading shelf _ ticket => ticket ≤ (s.2.shelf shelf).clock
  | keeping shelf name item ticket =>
    ticket ≤ (s.2.shelf shelf).clock ∧
      ((s.2.shelf shelf).isCurrent name ticket = true →
        s.1.Holds shelf name item)
  | announcing shelf name call => call.Announced s.1 shelf name
  | writing shelf name call => call.Announced s.1 shelf name
  | ending _ _ call _ => ¬ call.IsRead
  | asking call => ¬ call.IsRead ∧ ¬ call.IsWrite
  | finished call _ => ¬ call.IsRead
  | _ => True

/-- What holds of a cached store and its clients at every instant. -/
structure Sound (s : Memory × Caches) (stages : List Stage) : Prop where
  consistent : s.1.Consistent
  coherent : ∀ shelf,
    (s.2.shelf shelf).Coherent (s.1.Holds shelf) (writersAt stages shelf)
  fine : ∀ stage ∈ stages, stage.Fine s

/-- A client that has just started is fine. -/
theorem fine_start (s : Memory × Caches) (call : StoreCall) :
    (Stage.start call).Fine s := by
  cases call with
  | insertVersion new entry => exact .insertVersion new entry
  | deleteFamily name => exact .deleteFamily name
  | putComponent new => exact .putComponent new
  | deactivateComponent name => exact .deactivateComponent name
  | getActive name => exact trivial
  | getActiveComponent name => exact trivial
  | swapActive id author notes => exact trivial
  | _ => exact ⟨fun hread => hread, fun hwrite => hwrite⟩

/-- A client that has just started writes nothing. -/
theorem isWriting_start (shelf : Shelf) (name : String) (call : StoreCall) :
    (Stage.start call).isWriting shelf name = false := by
  cases call <;> rfl

/-- Moving one client moves its write, if it has one. -/
theorem writersAt_set {stages : List Stage} {i : Nat} {stage : Stage}
    (hstage : stages[i]? = some stage) (moved : Stage) (shelf : Shelf)
    (name : String) :
    writersAt (stages.set i moved) shelf name +
        (if stage.isWriting shelf name then 1 else 0) =
      writersAt stages shelf name +
      (if moved.isWriting shelf name then 1 else 0) := by
  obtain ⟨hi, rfl⟩ := List.getElem?_eq_some_iff.mp hstage
  have hcount :=
    List.countP_set (p := Stage.isWriting shelf name) (a := moved) hi
  have hpos : stages[i].isWriting shelf name = true →
      0 < stages.countP (Stage.isWriting shelf name) :=
    fun h => List.countP_pos_iff.mpr ⟨stages[i], List.getElem_mem hi, h⟩
  unfold writersAt
  rw [hcount]
  by_cases hwriting : stages[i].isWriting shelf name = true
  · have := hpos hwriting
    simp only [hwriting, if_true]
    omega
  · simp [hwriting]

/-- A step that starts or ends no write leaves the writes in flight. -/
theorem writersAt_set_of_eq {stages : List Stage} {i : Nat}
    {stage moved : Stage} (hstage : stages[i]? = some stage)
    (hsame : ∀ shelf name, moved.isWriting shelf name =
      stage.isWriting shelf name) :
    writersAt (stages.set i moved) = writersAt stages := by
  funext shelf name
  have hcount := writersAt_set hstage moved shelf name
  rw [hsame shelf name] at hcount
  omega

/-- Steps on a cache that refuse no ticket wrongly keep clients fine. -/
theorem Stage.Fine.withShelf {s : Memory} {caches : Caches} {stage : Stage}
    (h : stage.Fine (s, caches)) {shelf : Shelf} {cache : Cache shelf.Item}
    (hclock : (caches.shelf shelf).clock ≤ cache.clock)
    (hcurrent : ∀ name ticket, ticket ≤ (caches.shelf shelf).clock →
      cache.isCurrent name ticket = true →
      (caches.shelf shelf).isCurrent name ticket = true) :
    stage.Fine (s, caches.withShelf shelf cache) := by
  cases stage with
  | loading other name ticket =>
      have hticket : ticket ≤ (caches.shelf other).clock := h
      show ticket ≤ ((caches.withShelf shelf cache).shelf other).clock
      by_cases hother : other = shelf
      · subst hother
        rw [Caches.shelf_withShelf]
        exact Nat.le_trans hticket hclock
      · rw [Caches.shelf_withShelf_of_ne hother]
        exact hticket
  | keeping other name item ticket =>
      obtain ⟨hticket, hholds⟩ := h
      show ticket ≤ ((caches.withShelf shelf cache).shelf other).clock ∧
        (((caches.withShelf shelf cache).shelf other).isCurrent name ticket =
          true →
          s.Holds other name item)
      by_cases hother : other = shelf
      · subst hother
        rw [Caches.shelf_withShelf]
        exact ⟨Nat.le_trans hticket hclock, fun hnow =>
          hholds (hcurrent name ticket hticket hnow)⟩
      · rw [Caches.shelf_withShelf_of_ne hother]
        exact ⟨hticket, hholds⟩
  | _ => exact h

/-- Calls of the store behind keep clients fine, if no ticket counts on what
they write. -/
theorem Stage.Fine.of_effect {s after : Memory} {caches : Caches}
    {stage : Stage} (h : stage.Fine (s, caches)) (hs : s.Consistent)
    {now : Timestamp} {call : StoreCall}
    (heffect : Memory.Effect now s call after)
    (hrefused : ∀ shelf name ticket,
      (caches.shelf shelf).isCurrent name ticket = true →
      ¬ call.WritesOn s shelf name) : stage.Fine (after, caches) := by
  cases stage with
  | keeping shelf name item ticket =>
      obtain ⟨hticket, hholds⟩ := h
      refine ⟨hticket, fun hcurrent => ?_⟩
      show (after.item? shelf name).map shelf.core = _
      rw [item?_effect hs heffect (hrefused shelf name ticket hcurrent)]
      exact hholds hcurrent
  | announcing shelf name other => exact StoreCall.Announced.of_effect h heffect
  | writing shelf name other => exact StoreCall.Announced.of_effect h heffect
  | _ => exact h

/-! ### One step -/

section Step

variable {s after : Memory} {caches : Caches} {stages : List Stage} {i : Nat}
variable {stage moved : Stage}

/-- A step on the cache of a shelf. -/
theorem Sound.of_cache (h : Sound (s, caches) stages) {shelf : Shelf}
    {cache : Cache shelf.Item}
    (hclock : (caches.shelf shelf).clock ≤ cache.clock)
    (hcurrent : ∀ name ticket, ticket ≤ (caches.shelf shelf).clock →
      cache.isCurrent name ticket = true →
      (caches.shelf shelf).isCurrent name ticket = true)
    (hcoherent :
      cache.Coherent (s.Holds shelf) (writersAt (stages.set i moved) shelf))
    (hother : ∀ other, other ≠ shelf →
      writersAt (stages.set i moved) other = writersAt stages other)
    (hmoved : moved.Fine (s, caches.withShelf shelf cache)) :
    Sound (s, caches.withShelf shelf cache) (stages.set i moved) := by
  refine ⟨h.consistent, fun other => ?_, fun stage hstage => ?_⟩
  · show ((caches.withShelf shelf cache).shelf other).Coherent _ _
    by_cases hsame : other = shelf
    · subst hsame
      rw [Caches.shelf_withShelf]
      exact hcoherent
    · rw [Caches.shelf_withShelf_of_ne hsame, hother other hsame]
      exact h.coherent other
  · rcases List.mem_or_eq_of_mem_set hstage with hold | rfl
    · exact (h.fine stage hold).withShelf hclock hcurrent
    · exact hmoved

/-- A step on the store behind the caches. -/
theorem Sound.of_effect (h : Sound (s, caches) stages)
    (hstage : stages[i]? = some stage) {now : Timestamp} {call : StoreCall}
    (heffect : Memory.Effect now s call after)
    (hwriting : ∀ shelf name, call.WritesOn s shelf name →
      writersAt stages shelf name ≠ 0)
    (hsame : ∀ shelf name, moved.isWriting shelf name =
      stage.isWriting shelf name) (hmoved : moved.Fine (after, caches)) :
    Sound (after, caches) (stages.set i moved) := by
  refine ⟨Memory.consistent_effect h.consistent heffect, fun shelf => ?_,
    fun other hother => ?_⟩
  · rw [writersAt_set_of_eq hstage hsame]
    apply (h.coherent shelf).of_write
    intro name item hidle hholds
    show (after.item? shelf name).map shelf.core = _
    rw [item?_effect h.consistent heffect fun hwrites =>
      hwriting shelf name hwrites hidle]
    exact hholds
  · rcases List.mem_or_eq_of_mem_set hother with hold | rfl
    · apply (h.fine other hold).of_effect h.consistent heffect
      intro shelf name ticket hcurrent hwrites
      exact hwriting shelf name hwrites
        ((h.coherent shelf).idle_of_isCurrent hcurrent)
    · exact hmoved

/-- A step on nothing. -/
theorem Sound.of_moved (h : Sound (s, caches) stages)
    (hstage : stages[i]? = some stage)
    (hsame : ∀ shelf name, moved.isWriting shelf name =
      stage.isWriting shelf name) (hmoved : moved.Fine (s, caches)) :
    Sound (s, caches) (stages.set i moved) := by
  refine ⟨h.consistent, fun shelf => ?_, fun other hother => ?_⟩
  · rw [writersAt_set_of_eq hstage hsame]
    exact h.coherent shelf
  · rcases List.mem_or_eq_of_mem_set hother with hold | rfl
    · exact h.fine other hold
    · exact hmoved

/-- What is read is held. -/
theorem holds_of_read {shelf : Shelf} {name : String} {item : shelf.Item}
    (h : s.read shelf name = .ok item) : s.Holds shelf name item := by
  unfold Memory.read at h
  unfold Memory.Holds
  cases hitem : s.item? shelf name with
  | none =>
      rw [hitem] at h
      cases h
  | some found =>
      rw [hitem] at h
      cases h
      rfl

/-- A step on the cache of a shelf that starts or ends no write. -/
theorem Sound.of_quiet (h : Sound (s, caches) stages)
    (hstage : stages[i]? = some stage) {shelf : Shelf}
    {cache : Cache shelf.Item}
    (htickets : cache.clock = (caches.shelf shelf).clock ∧ ∀ name ticket,
      cache.isCurrent name ticket = (caches.shelf shelf).isCurrent name ticket)
    (hcoherent : cache.Coherent (s.Holds shelf) (writersAt stages shelf))
    (hsame : ∀ shelf name, moved.isWriting shelf name =
      stage.isWriting shelf name)
    (hmoved : moved.Fine (s, caches.withShelf shelf cache)) :
    Sound (s, caches.withShelf shelf cache) (stages.set i moved) := by
  have hwriters := writersAt_set_of_eq hstage hsame
  obtain ⟨hclock, hcurrent⟩ := htickets
  apply h.of_cache (Nat.le_of_eq hclock.symm) _ _ _ hmoved
  · intro name ticket _ hnow
    rwa [← hcurrent]
  · rw [hwriters]
    exact hcoherent
  · intro other _
    rw [hwriters]

/-- The writes in flight on a shelf after one on a name of it has started. -/
theorem writersAt_began {shelf : Shelf} {name : String} {call : StoreCall}
    (hstage : stages[i]? = some (.announcing shelf name call)) :
    (∀ other, other ≠ shelf →
      writersAt (stages.set i (.writing shelf name call)) other =
        writersAt stages other) ∧
    writersAt (stages.set i (.writing shelf name call)) shelf = fun n =>
      if n = name then writersAt stages shelf n + 1
      else writersAt stages shelf n := by
  refine ⟨fun other hother => ?_, ?_⟩
  · funext n
    have hcount := writersAt_set hstage (.writing shelf name call) other n
    simpa [Stage.isWriting, Ne.symm hother] using hcount
  · funext n
    have hcount := writersAt_set hstage (.writing shelf name call) shelf n
    by_cases hn : n = name
    · simpa [Stage.isWriting, hn] using hcount
    · simpa [Stage.isWriting, hn, Ne.symm hn] using hcount

/-- The writes in flight on a shelf after one on a name of it has ended. -/
theorem writersAt_ended {shelf : Shelf} {name : String} {call : StoreCall}
    {outcome : Outcome call.Result}
    (hstage : stages[i]? = some (.ending shelf name call outcome)) :
    writersAt stages shelf name ≠ 0 ∧
    (∀ other, other ≠ shelf →
      writersAt (stages.set i (.finished call outcome)) other =
        writersAt stages other) ∧
    writersAt (stages.set i (.finished call outcome)) shelf = fun n =>
      if n = name then writersAt stages shelf n - 1
      else writersAt stages shelf n := by
  have hcount := writersAt_set hstage (.finished call outcome)
  refine ⟨?_, fun other hother => ?_, ?_⟩
  · have hself := hcount shelf name
    simp only [Stage.isWriting, and_self, decide_true, if_true,
      Bool.false_eq_true, if_false] at hself
    omega
  · funext n
    simpa [Stage.isWriting, Ne.symm hother] using hcount other n
  · funext n
    have hself := hcount shelf n
    by_cases hn : n = name
    · simp only [Stage.isWriting, hn, and_self, decide_true, if_true,
        Bool.false_eq_true, if_false] at hself ⊢
      omega
    · simpa [Stage.isWriting, hn, Ne.symm hn] using hself

/-- **One step** of a client keeps everything sound. -/
theorem sound_transition {before between : Memory × Caches}
    (h : Sound before stages) (hstage : stages[i]? = some stage)
    (htransition : Transition before stage moved between) :
    Sound between (stages.set i moved) := by
  have hfine : stage.Fine before := h.fine stage (List.mem_of_getElem? hstage)
  cases htransition with
  | @hit s caches shelf name now item cache hget =>
      have hcoherent := (Cache.coherent_get (h.coherent shelf) now name).1
      have htickets := Cache.tickets_get now name (caches.shelf shelf)
      rw [hget] at hcoherent htickets
      exact h.of_quiet hstage htickets hcoherent (fun _ _ => rfl) trivial
  | @missed s caches shelf name now cache hget =>
      have hcoherent := (Cache.coherent_get (h.coherent shelf) now name).1
      have htickets := Cache.tickets_get now name (caches.shelf shelf)
      rw [hget] at hcoherent htickets
      refine h.of_quiet hstage htickets hcoherent (fun _ _ => rfl) ?_
      show cache.clock ≤ ((caches.withShelf shelf cache).shelf shelf).clock
      exact Nat.le_of_eq (congrArg Cache.clock (Caches.shelf_withShelf ..).symm)
  | @loaded s caches shelf name ticket item hread =>
      exact h.of_moved hstage (fun _ _ => rfl)
        ⟨hfine, fun _ => holds_of_read hread⟩
  | absent hread => exact h.of_moved hstage (fun _ _ => rfl) trivial
  | loadGivenUp => exact h.of_moved hstage (fun _ _ => rfl) trivial
  | @kept s caches shelf name item ticket now =>
      exact h.of_quiet hstage
        (Cache.tickets_insertIfCurrent now name item ticket _)
        (Cache.coherent_insertIfCurrent (h.coherent shelf) now hfine.2)
        (fun _ _ => rfl) trivial
  | @named s caches target id author notes hmem hid =>
      have howned := Memory.owned_of_mem h.consistent hmem
      rw [hid] at howned
      exact h.of_moved hstage (fun _ _ => rfl) (.swapActive howned author notes)
  | notNamed outcome =>
      exact h.of_moved hstage (fun _ _ => rfl) fun hread => hread
  | @began s caches shelf name call =>
      obtain ⟨hother, hself⟩ := writersAt_began hstage
      refine h.of_cache ?_ ?_ ?_ hother hfine
      · rw [Cache.clock_beginWrite]
        exact Nat.le_succ _
      · exact fun n ticket hticket hcurrent =>
          (Cache.isCurrent_beginWrite hticket hcurrent).2
      · rw [hself]
        exact Cache.coherent_beginWrite (h.coherent shelf) name
  | @wrote s after caches shelf name call outcome hends =>
      obtain ⟨now, heffect⟩ := hends.effect
      have hannounced : call.Announced s shelf name := hfine
      refine h.of_effect hstage heffect ?_
        (fun _ _ => rfl) hannounced.not_isRead
      intro other written hwrites
      obtain ⟨rfl, rfl⟩ := hannounced.eq_of_writesOn hwrites
      have hpos : 0 < stages.countP (Stage.isWriting other written) :=
        List.countP_pos_iff.mpr ⟨_, List.mem_of_getElem? hstage, by
          simp [Stage.isWriting]⟩
      exact Nat.pos_iff_ne_zero.mp hpos
  | @ended s caches shelf name call outcome =>
      obtain ⟨hwriting, hother, hself⟩ := writersAt_ended hstage
      refine h.of_cache ?_ ?_ ?_ hother hfine
      · rw [Cache.clock_endWrite]
        exact Nat.le_succ _
      · exact fun n ticket hticket hcurrent =>
          (Cache.isCurrent_endWrite hticket hcurrent).2
      · rw [hself]
        exact Cache.coherent_endWrite (h.coherent shelf) hwriting
  | @passed s after caches call outcome hends =>
      obtain ⟨now, heffect⟩ := hends.effect
      obtain ⟨hread, hwrite⟩ := hfine
      refine h.of_effect hstage heffect ?_ (fun _ _ => rfl) hread
      exact fun shelf name hwrites =>
        (hwrite (StoreCall.isWrite_of_writesOn hwrites)).elim

end Step

end TemplateRegistry
