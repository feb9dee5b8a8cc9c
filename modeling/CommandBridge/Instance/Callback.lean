import CommandBridge.Instance.Host

/-!
# CommandBridge.Instance.Callback

Callback instances.  A delivery puts a call of the handler into the queue of all
calls.  A call passes through three steps, each of which can be taken at any
time: its handler runs, its instance notices, its outcome is published.
Closing the instance drops every call that is not over.
-/

namespace CommandBridge.Callback

/-- Takes a command. -/
def deliver (i : Nat) (c : Command) : Op Host Delivery := do
  Op.modify fun h => { h with calls := h.calls ++ [⟨i, c, .queued⟩] }
  return .accept

/-- A call after its instance was closed. -/
def cancel (i : Nat) (call : HandlerCall) : HandlerCall :=
  if call.owner = i then { call with stage := .over } else call

/-- Lets go of all calls of an instance.  They keep their places in the queue. -/
def close (i : Nat) : Op Host Unit :=
  Op.modify fun h => { h with calls := h.calls.map (cancel i) }

/-! ## The steps of a call -/

/-- The next outcome of the handler at a place. -/
def nextOutcome (i : Nat) : Op Host HandlerOutcome := do
  match ((← Op.get).instanceAt i).adapter with
  | .callback c =>
    Host.update i fun a => { a with adapter := .callback { c with outcomes := c.outcomes.tail } }
    return c.outcomes.head?.getD .echo
  | _ => return .echo

/-- Runs the handler of the call at a place in the queue and answers whether it really
ran: a call that is over has no turn. -/
def runHandler (place : Nat) : Op Host Bool := do
  let h ← Op.get
  match h.calls[place]? with
  | none => return false
  | some call =>
    match call.stage with
    | .queued =>
      let outcome := (← nextOutcome call.owner).on call.command
      Op.modify fun h =>
        { h with calls := h.calls.modify place fun c => { c with stage := .finished outcome } }
      return true
    | _ => return false

/-- What is published for a handler's outcome. -/
def publication : Except Fault Json → ResultStatus × Json
  | .ok value => (.success, value)
  | .error f => (.error, .object [("error", .str f.text)])

/-- Notices that a handler has finished.  Without a result channel its outcome is dropped. -/
def notice (place : Nat) : Op Host Unit := do
  let h ← Op.get
  match h.calls[place]? with
  | none => return
  | some call =>
    match call.stage with
    | .finished outcome =>
      if !(h.instanceAt call.owner).holdsChannel then
        Op.modify fun h =>
          { h with calls := h.calls.modify place fun c => { c with stage := .over } }
      else
        match outcome with
        | .error f =>
          Op.event .callback .warning "callback_handler_failed"
            [("ticket", .string call.command.ticket), ("kind", .string call.command.kind.text),
              ("target", .string call.command.target), ("error", .str f.text)]
        | .ok _ => pure ()
        let (status, result) := publication outcome
        Op.modify fun h =>
          { h with
            calls := h.calls.modify place fun c => { c with stage := .publishing status result } }
    | _ => return

/-- Publishes the outcome of a call.  A ticket that is not tracked any more is
logged; whatever else goes wrong concerns nobody. -/
def publish (now : Timestamp) (place : Nat) : Op Host Unit := do
  let h ← Op.get
  match h.calls[place]? with
  | none => return
  | some call =>
    match call.stage with
    | .publishing status result =>
      let r ← (Host.onResults
        (ResultChannel.publishOutcome now call.command.ticket status result)).attempt
      match r with
      | .error (.bridge (.resultNotFound _)) =>
        Op.event .callback .warning "result_ticket_expired" [("ticket", .string call.command.ticket)]
      | _ => pure ()
      Op.modify fun h =>
        { h with calls := h.calls.modify place fun c => { c with stage := .over } }
    | _ => return

/-! ## Running calls -/

/-- The first `limit` numbers of a list, or all of them. -/
def takeSome (limit : Option Nat) (places : List Nat) : List Nat :=
  match limit with
  | some n => places.take n
  | none => places

/-- Gives some calls from either end of the queue their turn, all of them without a
limit, and answers how many handlers really ran.  All handlers run first, then all are
noticed, then all outcomes are published, and the calls leave the queue. -/
def runCalls (now : Timestamp) (limit : Option Nat) (newestFirst : Bool) : Op Host Nat := do
  let places := List.range (← Op.get).calls.length
  let chosen := takeSome limit (if newestFirst then places.reverse else places)
  let ran ← chosen.mapM runHandler
  chosen.forM notice
  chosen.forM (publish now)
  Op.modify fun h => { h with
    calls := (h.calls.zipIdx.filter fun c => !chosen.contains c.2).map (·.1) }
  return ran.countP id

end CommandBridge.Callback
