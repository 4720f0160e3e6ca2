/-!
# Programs over an interface

A program that talks to its environment, as a tree: it is done, or it asks for
something and goes on according to the reply.  What the environment is stays
open, so the same program can be run over a store in memory, over a database,
against replies made up for a proof, or in steps between those of another one.

* `Interface` — what can be asked for, and what each request is replied with;
* `Program` — the trees, a lawful monad;
* `Program.handle` — each request carried out by a program over another
  interface;
* `Program.run` — each request answered by a state.
-/

namespace TemplateRegistry

/-- What a program can ask its environment for, and the replies it gets. -/
structure Interface where
  Request : Type
  Reply : Request → Type

/-- Two interfaces side by side. -/
def Interface.sum (first second : Interface) : Interface where
  Request := first.Request ⊕ second.Request
  Reply
    | .inl request => first.Reply request
    | .inr request => second.Reply request

/-- A program over an interface. -/
inductive Program (I : Interface) (α : Type)
  /-- The result. -/
  | done (value : α)
  /-- A request, and the rest of the program for each reply. -/
  | ask (request : I.Request) (next : I.Reply request → Program I α)

namespace Program

variable {I J : Interface} {α β γ σ : Type}

/-- One program after another. -/
def bind : Program I α → (α → Program I β) → Program I β
  | done value, rest => rest value
  | ask request next, rest => ask request fun reply => bind (next reply) rest

instance : Monad (Program I) where
  pure := done
  bind := bind

/-- The result of a request. -/
def request (r : I.Request) : Program I (I.Reply r) :=
  ask r done

/-- A program with every request carried out by a program over another
interface. -/
def handle (carryOut : (r : I.Request) → Program J (I.Reply r)) :
    Program I α → Program J α
  | done value => done value
  | ask r next => bind (carryOut r) fun reply => handle carryOut (next reply)

/-- A program over the second of two interfaces. -/
def inSecond (p : Program J α) : Program (I.sum J) α :=
  handle (fun r => ask (I := I.sum J) (.inr r) done) p

/-- A program over two interfaces, with the requests to the second carried out
by programs over another one. -/
def handleSecond {K : Interface}
    (carryOut : (r : J.Request) → Program K (J.Reply r)) :
    Program (I.sum J) α → Program (I.sum K) α :=
  handle fun
    | .inl r => ask (I := I.sum K) (.inl r) done
    | .inr r => inSecond (carryOut r)

/-- The result of a program and the state its requests leave. -/
def run (answer : (r : I.Request) → σ → I.Reply r × σ) : Program I α → σ → α × σ
  | done value, s => (value, s)
  | ask r next, s => run answer (next (answer r s).1) (answer r s).2

theorem bind_done (p : Program I α) : bind p done = p := by
  induction p with
  | done value => rfl
  | ask r next ih => simp [bind, ih]

theorem bind_assoc (p : Program I α) (f : α → Program I β)
    (g : β → Program I γ) :
    bind (bind p f) g = bind p fun value => bind (f value) g := by
  induction p with
  | done value => rfl
  | ask r next ih => simp [bind, ih]

instance : LawfulMonad (Program I) :=
  LawfulMonad.mk' (Program I)
    (fun p => bind_done p)
    (fun _ _ => rfl)
    (fun p f g => bind_assoc p f g)
    (fun _ _ => rfl)
    (fun _ _ => rfl)

/-- Running one program after another. -/
theorem run_bind (answer : (r : I.Request) → σ → I.Reply r × σ)
    (p : Program I α) (f : α → Program I β) (s : σ) :
    run answer (bind p f) s =
      run answer (f (run answer p s).1) (run answer p s).2 := by
  induction p generalizing s with
  | done value => rfl
  | ask r next ih => simp [bind, run, ih]

end Program

end TemplateRegistry
