import Trisect.Engine
import Trisect.Error
import Trisect.Oracle.Kind
import Trisect.Select

/-!
# Dialogues with the engine, the shape source and the log

A session does not act on the world by itself. It asks three collaborators: the **engine** under
test, the **source** of query shapes, and the **log**. Each question is a `Trisect.Request`, and the
type of its answer depends on it (`Trisect.Request.Answer`). A `Trisect.Dialogue` is what a session
is going to ask, each next question depending on the answers so far; it is a tree, so that a session
can be reasoned about whoever answers.

A `Trisect.Handler` answers requests and keeps a state of its own. It may also break down, which
ends the dialogue without a result but leaves a state (`Trisect.Dialogue.run`). What was asked and
answered is the **transcript** of the run (`Trisect.Dialogue.transcript`).
-/

namespace Trisect

/-- A question to one of the collaborators. -/
inductive Request
  /-- To the engine: run a query and give the first column of its result. -/
  | query (sql : String)
  /-- To the engine: run a statement whose result is of no interest. -/
  | execute (sql : String)
  /-- To the engine: which version it is. -/
  | version
  /-- To the source: read the schema again. -/
  | refreshSchema
  /-- To the source: a base query. -/
  | baseSelect
  /-- To the source: a condition on the rows of the last base query. -/
  | predicate
  /-- To the source: a condition on the groups of a query grouped by the given expressions. -/
  | groupPredicate (groupBy : List String)
  /-- To the source: an aggregate function and its argument. -/
  | aggregate
  /-- To the log: begin the files of a database in a directory. -/
  | openLog (directory database : String)
  /-- To the log: note a statement that is about to be sent. -/
  | writeQuery (sql : String)
  /-- To the log: put what was noted out of danger. -/
  | flush
  /-- To the log: append a diagnostic. -/
  | writeDiagnostic (text : String)
  /-- To the log: write a report beside the files of a database, and say where it is. -/
  | writeReport (directory database : String) (report : BugReport)

/-- The type of the answers to a request. -/
@[reducible] def Request.Answer : Request → Type
  | query _ => Except EngineError QueryOutput
  | execute _ => Except EngineError Unit
  | version => Option String
  | refreshSchema => Except OracleError Unit
  | baseSelect => Except OracleError Select
  | predicate => Except OracleError String
  | groupPredicate _ => Except OracleError String
  | aggregate => Except OracleError (AggregateFn × String)
  | openLog _ _ => Except OracleError Unit
  | writeQuery _ => Except IoError Unit
  | flush => Except IoError Unit
  | writeDiagnostic _ => Except IoError Unit
  | writeReport _ _ _ => Except OracleError String

/-- What is going to be asked, and the result in the end. -/
inductive Dialogue (α : Type)
  | done (result : α)
  | ask (r : Request) (next : r.Answer → Dialogue α)

namespace Dialogue

variable {α β : Type}

/-- Goes on with a second dialogue that depends on the result of the first. -/
def bind : Dialogue α → (α → Dialogue β) → Dialogue β
  | done a, f => f a
  | ask r next, f => ask r fun answer => (next answer).bind f

instance : Monad Dialogue where
  pure := done
  bind := bind

/-- Asks a single question. -/
def request (r : Request) : Dialogue r.Answer := ask r done

@[simp] theorem pure_eq (a : α) : (pure a : Dialogue α) = done a := rfl

@[simp] theorem bind_eq (d : Dialogue α) (f : α → Dialogue β) : d >>= f = d.bind f := rfl

@[simp] theorem done_bind (a : α) (f : α → Dialogue β) : (done a).bind f = f a := rfl

@[simp] theorem ask_bind (r : Request) (next : r.Answer → Dialogue α) (f : α → Dialogue β) :
    (ask r next).bind f = ask r fun answer => (next answer).bind f := rfl

@[simp] theorem bind_done (d : Dialogue α) : d.bind done = d := by
  induction d with
  | done a => rfl
  | ask r next ih => simp [ih]

theorem bind_assoc {γ : Type} (d : Dialogue α) (f : α → Dialogue β) (g : β → Dialogue γ) :
    (d.bind f).bind g = d.bind fun a => (f a).bind g := by
  induction d with
  | done a => rfl
  | ask r next ih => simp [ih]

instance : LawfulMonad Dialogue :=
  LawfulMonad.mk' Dialogue (fun d => bind_done d) (fun _ _ => rfl) bind_assoc

end Dialogue

/-! ### Runs -/

/-- Answers requests, keeping a state; `none` is a breakdown. -/
def Handler (σ : Type) := (r : Request) → σ → Option r.Answer × σ

/-- A request together with its answer, `none` if the handler broke down over it. -/
structure Exchange where
  request : Request
  answer : Option request.Answer

namespace Dialogue

variable {α σ : Type}

/-- The result of a dialogue, `none` if the handler breaks down, and the state it leaves. -/
def run (h : Handler σ) : Dialogue α → σ → Option α × σ
  | done a, s => (some a, s)
  | ask r next, s =>
    match h r s with
    | (some answer, s) => (next answer).run h s
    | (none, s) => (none, s)

/-- What is asked and answered in a run, in order, up to its end or to a breakdown. -/
def transcript (h : Handler σ) : Dialogue α → σ → List Exchange
  | done _, _ => []
  | ask r next, s =>
    match h r s with
    | (some answer, s) => ⟨r, some answer⟩ :: (next answer).transcript h s
    | (none, _) => [⟨r, none⟩]

/-- A run goes through a first dialogue and then, unless that broke down, through the second. -/
theorem run_bind {β : Type} (h : Handler σ) (d : Dialogue α) (f : α → Dialogue β) (s : σ) :
    (d.bind f).run h s =
      match d.run h s with
      | (some a, s) => (f a).run h s
      | (none, s) => (none, s) := by
  induction d generalizing s with
  | done a => rfl
  | ask r next ih =>
    rw [ask_bind, run, run]
    split
    · exact ih _ _
    · rfl

/-- The transcript of a first dialogue, and then, unless that broke down, of the second. -/
theorem transcript_bind {β : Type} (h : Handler σ) (d : Dialogue α) (f : α → Dialogue β) (s : σ) :
    (d.bind f).transcript h s = d.transcript h s ++
      match d.run h s with
      | (some a, s) => (f a).transcript h s
      | (none, _) => [] := by
  induction d generalizing s with
  | done a => rfl
  | ask r next ih =>
    rw [ask_bind, transcript, transcript, run]
    split
    · rw [ih, List.cons_append]
    · rfl

end Dialogue

end Trisect
