import TemplateRegistry.Program
/-!
# The runs of a program

What a program asks for may be replied to in more than one way.  A relation says
how: which replies a request may get in a state, and which states they may
leave.

* `Program.Ensures` — what holds at the end of every run of a program;
* `Program.Runs` — the runs, one by one;
* `Program.Ensures.of_runs`, `Program.Ensures.run` — a run whose requests are
  replied to as allowed ends as ensured.
-/

namespace TemplateRegistry

namespace Program

variable {I : Interface} {α β σ : Type}

/-- What holds at the end of every run of a program, if each request is replied
to as a relation allows. -/
def Ensures (replies : (r : I.Request) → σ → I.Reply r → σ → Prop)
    (Q : α → σ → Prop) :
    Program I α → σ → Prop
  | done value, x => Q value x
  | ask r next, x =>
    ∀ reply y, replies r x reply y → Ensures replies Q (next reply) y

variable {replies : (r : I.Request) → σ → I.Reply r → σ → Prop}

/-- What one program after another ensures. -/
theorem ensures_bind {Q : β → σ → Prop} {f : α → Program I β} (p : Program I α)
    (x : σ) :
    Ensures replies Q (p.bind f) x ↔
      Ensures replies (fun value y => Ensures replies Q (f value) y) p x := by
  induction p generalizing x with
  | done value => rfl
  | ask r next ih =>
      constructor
      · intro h reply y hreply
        exact (ih reply y).mp (h reply y hreply)
      · intro h reply y hreply
        exact (ih reply y).mpr (h reply y hreply)

/-- What is ensured may be weakened. -/
theorem Ensures.mono {Q R : α → σ → Prop} {p : Program I α} {x : σ}
    (h : p.Ensures replies Q x) (himp : ∀ value y, Q value y → R value y) :
    p.Ensures replies R x := by
  induction p generalizing x with
  | done value => exact himp value x h
  | ask r next ih =>
      intro reply y hreply
      exact ih reply (h reply y hreply)

/-- What holds of every value in every state is ensured by any program. -/
theorem ensures_of_forall {Q : α → σ → Prop} (h : ∀ value y, Q value y)
    (p : Program I α) (x : σ) :
    p.Ensures replies Q x := by
  induction p generalizing x with
  | done value => exact h value x
  | ask r next ih => exact fun reply y _ => ih reply y

/-- A run of a program: the value it ends with, and the state. -/
inductive Runs (replies : (r : I.Request) → σ → I.Reply r → σ → Prop) :
    Program I α → σ → α → σ → Prop
  | done (value : α) (x : σ) : Runs replies (done value) x value x
  | ask {r : I.Request} {next : I.Reply r → Program I α} {x y z : σ}
      {reply : I.Reply r} {value : α}
      (hreply : replies r x reply y)
      (hrest : Runs replies (next reply) y value z) :
      Runs replies (ask r next) x value z

/-- Every run ends as ensured. -/
theorem Ensures.of_runs {Q : α → σ → Prop} {p : Program I α} {x y : σ}
    {value : α} (h : p.Ensures replies Q x) (hruns : p.Runs replies x value y) :
    Q value y := by
  induction hruns with
  | done value x => exact h
  | ask hreply hrest ih => exact ih (h _ _ hreply)

/-- To answer each request in an allowed way is to run the program. -/
theorem runs_run {answer : (r : I.Request) → σ → I.Reply r × σ}
    (hanswer : ∀ r x, replies r x (answer r x).1 (answer r x).2)
    (p : Program I α) (x : σ) :
    p.Runs replies x (p.run answer x).1 (p.run answer x).2 := by
  induction p generalizing x with
  | done value => exact .done value x
  | ask r next ih => exact .ask (hanswer r x) (ih _ _)

/-- Every run ends as ensured when requests are answered in an allowed way. -/
theorem Ensures.run {Q : α → σ → Prop} {p : Program I α}
    {answer : (r : I.Request) → σ → I.Reply r × σ}
    (hanswer : ∀ r x, replies r x (answer r x).1 (answer r x).2) {x : σ}
    (h : p.Ensures replies Q x) : Q (p.run answer x).1 (p.run answer x).2 :=
  h.of_runs (runs_run hanswer p x)

end Program

end TemplateRegistry
