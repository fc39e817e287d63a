import ChatFlow.Engine.Event
/-
Polling the timer jobs. A job is marked only after its session has been resumed, so that a job is
delivered at least once; what goes wrong with one job leaves the others alone.
-/

namespace ChatFlow.Timer

/-- Resumes the session of a job and marks the job, unless another writer was met; says whether the
job was marked. -/
def handle (settings : EngineSettings) (job : Delay) : Engine Bool := do
  let report ← Event.resume settings job.conversation job.session job.node
  if report.status = .conflict then return false
  else
    discard (Engine.store (.markDelay (job.id.getD "None")))
    return true

/-- Handles jobs in order, and counts those that were marked. -/
def handleEach (settings : EngineSettings) : List Delay → Engine Nat
  | [] => return 0
  | job :: rest => do
      let handled ← Program.outcome (handle settings job)
      let others ← handleEach settings rest
      match handled with
      | .ok true => return others + 1
      | _ => return others

/-- Resumes every session whose timer job is due; gives the number of jobs handled. -/
def poll (settings : EngineSettings) : Engine Nat := do
  let now ← Engine.now
  handleEach settings (← Engine.store (.pendingDelays now))

end ChatFlow.Timer
