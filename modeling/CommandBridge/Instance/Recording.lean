import CommandBridge.Instance.Host

/-!
# CommandBridge.Instance.Recording

Recording instances: each opening and each delivery takes the next element of the script.
-/

namespace CommandBridge.Recording

/-- The fault of using the result channel without having been handed one. -/
def noChannel (method : String) : Fault :=
  .ofMessage .attribute s!"'NoneType' object has no attribute '{method}'"

/-- Changes the recording instance at a place. -/
def put (i : Nat) (r : Recording) : Op Host Unit :=
  Host.update i fun a => { a with adapter := .recording r }

/-- Opens; an opening that fails leaves the instance without the result channel. -/
def «open» (i : Nat) (r : Recording) : Op Host Unit := do
  put i { r with openings := r.openings.tail }
  match r.openings.head?.join with
  | some f => Op.fail (.fault f)
  | none => Host.update i fun a => { a with holdsChannel := true }

/-- Does what the script says on the result channel. -/
def act (now : Timestamp) (i : Nat) (c : Command) (action : ChannelAction) : Op Host Unit := do
  let operation := action.operation c
  let x : Op Host Unit :=
    if ((← Op.get).instanceAt i).holdsChannel then Host.onResults (operation.run now)
    else Op.fail (.fault (noChannel operation.name))
  if action.isAttempt then discard x.attempt else x

/-- Takes a command. -/
def deliver (now : Timestamp) (i : Nat) (r : Recording) (c : Command) : Op Host Delivery := do
  put i { r with received := r.received ++ [c], deliveries := r.deliveries.tail }
  let script := r.deliveries.head?.getD {}
  script.actions.forM (act now i c)
  match script.answer with
  | .ok d => return d
  | .error f => Op.fail (.fault f)

end CommandBridge.Recording
