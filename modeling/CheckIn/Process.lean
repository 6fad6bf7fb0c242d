/-! Processes: programs whose effects are data. An `Interface` lists what may be asked of the world
and the type of each answer; a `Process` is a tree that ends in a value or asks one request and goes
on with the answer. A process is finite along every branch, so whatever the world answers, it ends.
`interpret` replaces each request by a process over another interface, and `run` answers every
request from a state. -/

namespace CheckIn

/-- The requests that a process may make and the type of the answer to each. -/
structure Interface where
  Request : Type
  Answer : Request → Type

/-- A program over the interface `I` that ends in an `α`. -/
inductive Process (I : Interface) (α : Type) : Type where
  | done (value : α)
  | ask (request : I.Request) (next : I.Answer request → Process I α)

namespace Process

variable {I J : Interface} {α β γ σ : Type}

/-- Runs `p`, then the process its value selects. -/
protected def bind : Process I α → (α → Process I β) → Process I β
  | done a, f => f a
  | ask q next, f => ask q fun answer => (next answer).bind f

instance : Monad (Process I) where
  pure := done
  bind := Process.bind

@[simp] theorem pure_eq_done (a : α) : (pure a : Process I α) = done a := rfl

@[simp] theorem done_bind (a : α) (f : α → Process I β) : (done a >>= f) = f a := rfl

@[simp] theorem ask_bind (q : I.Request) (next : I.Answer q → Process I α) (f : α → Process I β) :
    (ask q next >>= f) = ask q fun answer => next answer >>= f := rfl

theorem bind_done (p : Process I α) : p >>= done = p := by
  induction p with
  | done a => rfl
  | ask q next ih => simp only [ask_bind, ih]

theorem bind_assoc (p : Process I α) (f : α → Process I β) (g : β → Process I γ) :
    p >>= f >>= g = p >>= fun a => f a >>= g := by
  induction p with
  | done a => rfl
  | ask q next ih => simp only [ask_bind, ih]

instance : LawfulMonad (Process I) :=
  LawfulMonad.mk' _ bind_done (fun _ _ => rfl) bind_assoc

/-- Makes one request and returns its answer. -/
def perform (q : I.Request) : Process I (I.Answer q) := ask q done

/-- Replaces every request by the process that `handle` gives for it. -/
def interpret (handle : (q : I.Request) → Process J (I.Answer q)) : Process I α → Process J α
  | done a => done a
  | ask q next => (handle q).bind fun answer => (next answer).interpret handle

/-- Answers every request from a state, which each answer may change. -/
def run (handle : (q : I.Request) → σ → I.Answer q × σ) : Process I α → σ → α × σ
  | done a, s => (a, s)
  | ask q next, s => (next (handle q s).1).run handle (handle q s).2

end Process

end CheckIn
