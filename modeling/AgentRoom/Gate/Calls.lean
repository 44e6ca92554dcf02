import AgentRoom.Lib.System
import Mathlib.Logic.Function.Basic
import Mathlib.Tactic.Common

/-!
# The agent execution gate

`AgentExecutionGate` of the Bridge: for each Agent at most one call of `Acquire` holds its
permit, the others wait in a queue. A call is a program of a few atomic steps: its critical
sections, and the choices of its `select`. Calls are numbered in the order in which they first
take the mutex, so a number is also the identity of the waiter a call queues.

Contexts are cancelled by anybody at any time and stay cancelled. `returned` is the history of
the calls to which `Acquire` has returned a release function, in the order in which it did.
-/

namespace AgentRoom.Gate

abbrev CallId := Nat

inductive Phase where
  /-- In the `select`. -/
  | selecting
  /-- After `<-waiter.ready`, before `ctx.Err()`. -/
  | woken
  /-- After `<-ctx.Done()`, before the mutex. -/
  | leaving
  /-- Before the `release` of a permit it will not use. -/
  | owing
  /-- It has returned `ctx.Err()`. -/
  | refused
  /-- It has returned a release function. -/
  | holding
  /-- The release function runs, before the mutex. -/
  | releasing
  | released
  deriving DecidableEq

structure Call (Agent Ctx : Type) where
  agent : Agent
  ctx : Ctx
  phase : Phase
  /-- `waiter.ready` is closed. -/
  ready : Bool

/-- The gate, its calls and the contexts. An Agent that is in neither map has no entry. -/
structure World (Agent Ctx : Type) where
  active : Agent → Bool
  queues : Agent → List CallId
  calls : List (Call Agent Ctx)
  canceled : Ctx → Bool
  returned : List CallId

inductive Move where
  /-- `case <-waiter.ready`. -/
  | wake
  /-- `ctx.Err()` after the wake-up. -/
  | check
  /-- `case <-ctx.Done()`. -/
  | giveUp
  /-- The critical section after it. -/
  | withdraw
  /-- `g.release(agentID)` inside `Acquire`. -/
  | giveBack
  /-- The caller calls the release function. -/
  | release
  /-- `g.release(agentID)` inside `once.Do`. -/
  | finish

inductive Act (Agent Ctx : Type) where
  /-- `Acquire` up to the `select`. -/
  | acquire (agent : Agent) (ctx : Ctx)
  | cancel (ctx : Ctx)
  | call (id : CallId) (move : Move)

section Model

variable {Agent Ctx : Type} [DecidableEq Agent] [DecidableEq Ctx]

/-- `NewAgentExecutionGate`. -/
def World.new : World Agent Ctx where
  active _ := false
  queues _ := []
  calls := []
  canceled _ := false
  returned := []

def World.to (w : World Agent Ctx) (id : CallId) (phase : Phase) : World Agent Ctx :=
  { w with calls := w.calls.modify id fun call => { call with phase } }

/-- **`release`.** The permit goes to the first waiter, or the Agent is free. -/
def World.release (w : World Agent Ctx) (agent : Agent) : World Agent Ctx :=
  match w.queues agent with
  | [] => { w with active := Function.update w.active agent false }
  | next :: queue =>
    { w with
      queues := Function.update w.queues agent queue
      calls := w.calls.modify next fun call => { call with ready := true } }

/-- **`Acquire`**, its first critical section. -/
def World.acquire (w : World Agent Ctx) (agent : Agent) (ctx : Ctx) : World Agent Ctx :=
  if w.active agent then
    { w with
      queues := Function.update w.queues agent (w.queues agent ++ [w.calls.length])
      calls := w.calls ++ [⟨agent, ctx, .selecting, false⟩] }
  else
    { w with
      active := Function.update w.active agent true
      calls := w.calls ++ [⟨agent, ctx, .holding, false⟩]
      returned := w.returned ++ [w.calls.length] }

/-- The critical section of a cancelled waiter. -/
def World.withdraw (w : World Agent Ctx) (id : CallId) (agent : Agent) : World Agent Ctx :=
  if id ∈ w.queues agent then
    { w with queues := Function.update w.queues agent ((w.queues agent).erase id) }.to id .refused
  else w.to id .owing

/-- **One step of a call**, if it can take it. -/
def World.move (w : World Agent Ctx) (id : CallId) (call : Call Agent Ctx) :
    Move → Option (World Agent Ctx)
  | .wake => if call.phase = .selecting ∧ call.ready then some (w.to id .woken) else none
  | .check =>
    if call.phase = .woken then
      if w.canceled call.ctx then some (w.to id .owing)
      else some { w.to id .holding with returned := w.returned ++ [id] }
    else none
  | .giveUp =>
    if call.phase = .selecting ∧ w.canceled call.ctx then some (w.to id .leaving) else none
  | .withdraw => if call.phase = .leaving then some (w.withdraw id call.agent) else none
  | .giveBack =>
    if call.phase = .owing then some ((w.release call.agent).to id .refused) else none
  | .release =>
    match call.phase with
    | .holding => some (w.to id .releasing)
    -- `sync.Once`
    | .releasing | .released => some w
    | _ => none
  | .finish =>
    if call.phase = .releasing then some ((w.release call.agent).to id .released) else none

def World.act (w : World Agent Ctx) : Act Agent Ctx → Option (World Agent Ctx)
  | .acquire agent ctx => some (w.acquire agent ctx)
  | .cancel ctx => some { w with canceled := Function.update w.canceled ctx true }
  | .call id move => (w.calls[id]?).bind fun call => w.move id call move

/-- **The gate** under any interleaving. -/
def gate : System (World Agent Ctx) (Act Agent Ctx) where
  init w := w = .new
  step act w w' := w.act act = some w'

end Model

end AgentRoom.Gate
