/-
# The exchanges of a session

Each operation of a session, nested or not, is one exchange: it comes to the agent in some
state and is answered once. The exchanges of a session stand in the order of their answers,
so what is taken during a step comes before the step itself. They are no second account of
what happens: operations and answers are those of the steps and their traces, as
`Session.exchanges_told` says, and `Session.Stepwise.exchanges` carries what is so for every
operation over to whole sessions.
-/

import Quiesce.Proofs.Interleaving.Sessions

namespace Quiesce

/-- An operation with the agent that it came to and what it was answered. -/
structure Exchange where
  before : Agent
  operation : Operation
  answer : Answer

namespace Exchange

/-- The services whose stop the operation requests. -/
def issued (exchange : Exchange) : List String :=
  Interleaving.requestOfPhase (exchange.before.begin exchange.operation).1

/-- The operation and its answer alone. -/
def told (exchange : Exchange) : Operation × Answer :=
  (exchange.operation, exchange.answer)

end Exchange

namespace Session

mutual

/-- The exchanges of a step. Its own comes last. -/
def stepExchanges (agent : Agent) : Step → List Exchange
  | .mk operation delivered during =>
    match agent.begin operation with
    | (.answered answer, _) => [⟨agent, operation, answer⟩]
    | (.waiting pending, next) =>
      let answer := ((takeSteps next during).2.finish pending delivered).1
      exchanges next during ++ [⟨agent, operation, answer⟩]

/-- The exchanges of steps that are taken one after another. -/
def exchanges (agent : Agent) : List Step → List Exchange
  | [] => []
  | step :: rest => stepExchanges agent step ++ exchanges (takeStep agent step).2 rest

end

/-! ## Exchanges are what traces tell -/

mutual

/-- The operations of a step with their answers, read off its trace. -/
def stepTold : Step → Trace → List (Operation × Answer)
  | .mk operation _ during, .mk answer _ inner => toldBy during inner ++ [(operation, answer)]

/-- The operations of steps with their answers, read off their traces. -/
def toldBy : List Step → List Trace → List (Operation × Answer)
  | step :: rest, trace :: traces => stepTold step trace ++ toldBy rest traces
  | _, _ => []

end

@[simp] theorem toldBy_nil (steps : List Step) : toldBy steps [] = [] := by
  cases steps <;> rfl

mutual

private theorem stepExchanges_told (agent : Agent) :
    ∀ step, (stepExchanges agent step).map Exchange.told =
      stepTold step (takeStep agent step).1
  | .mk operation delivered during => by
    rw [stepExchanges, takeStep]
    rcases agent.begin operation with ⟨answer | pending, next⟩
    · simp [stepTold, Exchange.told]
    · simp [stepTold, Exchange.told, exchanges_told next during]

/-- The exchanges of a session tell its operations and what they were answered. -/
theorem exchanges_told (agent : Agent) :
    ∀ steps, (exchanges agent steps).map Exchange.told =
      toldBy steps (takeSteps agent steps).1
  | [] => by simp [exchanges, takeSteps]
  | step :: rest => by
    rw [exchanges, takeSteps, List.map_append, stepExchanges_told agent step,
      exchanges_told _ rest]
    rfl

end

/-! ## Sessions by their exchanges -/

/-- The exchanges that lead from one agent to another stand in a relation to them: with no
exchange, one after another, when an operation is answered at once, and when it waits while
others are taken. -/
structure Stepwise (Leads : Agent → List Exchange → Agent → Prop) : Prop where
  nothing (agent : Agent) : Leads agent [] agent
  append {agent next last : Agent} {first later : List Exchange} :
    Leads agent first next → Leads next later last → Leads agent (first ++ later) last
  answered {agent next : Agent} {operation : Operation} {answer : Answer} :
    agent.begin operation = (.answered answer, next) →
      Leads agent [⟨agent, operation, answer⟩] next
  waited {agent next between : Agent} {operation : Operation} {pending : Pending}
    {inner : List Exchange} (delivered : Bool) :
    agent.begin operation = (.waiting pending, next) → Leads next inner between →
      Leads agent (inner ++ [⟨agent, operation, (between.finish pending delivered).1⟩])
        (between.finish pending delivered).2

variable {Leads : Agent → List Exchange → Agent → Prop}

mutual

private theorem Stepwise.stepExchanges (stepwise : Stepwise Leads) (agent : Agent) :
    ∀ step, Leads agent (stepExchanges agent step) (takeStep agent step).2
  | .mk operation delivered during => by
    rw [Session.stepExchanges, takeStep]
    rcases begun : agent.begin operation with ⟨answer | pending, next⟩
    · exact stepwise.answered begun
    · exact stepwise.waited delivered begun (stepwise.exchanges next during)

/-- What is so for each operation is so for whole sessions. -/
theorem Stepwise.exchanges (stepwise : Stepwise Leads) (agent : Agent) :
    ∀ steps, Leads agent (exchanges agent steps) (takeSteps agent steps).2
  | [] => by
    rw [Session.exchanges, takeSteps]
    exact stepwise.nothing agent
  | step :: rest => by
    rw [Session.exchanges, takeSteps]
    exact stepwise.append (stepwise.stepExchanges agent step) (stepwise.exchanges _ rest)

end

end Session

end Quiesce
