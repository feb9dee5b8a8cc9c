import CommandBridge.Http.App
import CommandBridge.Proofs.Dispatch.Entries
import CommandBridge.Proofs.Service.Performance

/-!
# CommandBridge.Proofs.Http.Entries

What a service logs while it answers requests.  Neither the answer to a request nor anything that
happens in the background touches the counters of requests, and none of it logs what became of a
request (`besides`).  This is left to the end of a request.
-/

namespace CommandBridge

open Trail

/-- A line about what became of a request. -/
abbrev IsRequestLine (e : Log.Entry) : Prop :=
  e.IsOneOf .http ["request_completed", "request_failed"]

/-- The counters of requests stay, and nothing is logged about what became of a request. -/
def besides : Trail Service where
  passes s l t := t.requests = s.requests ∧ ∀ e ∈ l, ¬ IsRequestLine e
  idle _ := ⟨rfl, by simp⟩
  compose h h' := ⟨h'.1.trans h.1, fun e he => (List.mem_append.mp he).elim (h.2 e) (h'.2 e)⟩

theorem Trail.Follows.keepRequests {f : Service → Service} (h : ∀ s, (f s).requests = s.requests) :
    besides.Follows (Op.modify f) := .modify fun s => ⟨h s, by simp⟩

namespace Service

variable {α : Type}

theorem besides_onBridge {x : Op Bridge α} (hx : (words BelowHttp).Follows x) :
    besides.Follows (onBridge x) :=
  .on hx fun _ _ _ hl => ⟨rfl, fun e he => Log.not_isOneOf_of_source (hl e he)⟩

theorem besides_onHost {x : Op Host α} (hx : LogsAsHost x) : besides.Follows (onHost x) :=
  besides_onBridge (Bridge.aside_onHost hx).belowHttp

theorem besides_onResults {x : Op ResultChannel α} (hx : LogsAsHost x) :
    besides.Follows (onResults x) := besides_onHost (Host.logs_onResults hx)

/-! ## The background -/

theorem logs_sendReady (clock limit : Nat) (c : Connection) :
    LogsAsHost (c.sendReady clock limit) := by
  induction limit generalizing c with
  | zero => exact .pure _
  | succ limit ih =>
      refine .bind (EventStream.logs_next _) fun ⟨stream, step⟩ => ?_
      cases step with
      | frame f => exact ih _
      | ended => exact .pure _
      | waiting => exact .pure _

theorem logs_advance (clock : Nat) (c : Connection) : LogsAsHost (c.advance clock) := by
  refine .bind .get fun _ => .bind (logs_sendReady _ _ _) fun c => ?_
  split
  · exact .pure _
  · exact .pure _

theorem besides_putConnection (place : Nat) (c : Connection) :
    besides.Follows (putConnection place c) := .keepRequests fun _ => rfl

theorem besides_settle (now : Timestamp) : besides.Follows (settle now) := by
  refine .bind (besides_onHost (FileQueue.logs_runDue now)) fun _ =>
    .bind .get fun _ => .forM (fun place => ?_) _
  refine .bind .get fun s => ?_
  split
  · exact .pure _
  · exact .bind (besides_onResults (logs_advance _ _)) fun _ => besides_putConnection _ _

theorem besides_setClock (time : Nat) : besides.Follows (setClock time) :=
  besides_onHost (.change _)

theorem besides_comeToRest (now : Timestamp) : besides.Follows (comeToRest now) := by
  refine .bind (.bind .get fun _ => .forM (fun place => ?_) _) fun _ => besides_settle now
  refine .bind .get fun s => ?_
  split
  · exact .pure _
  · exact .bind (besides_onResults (EventStream.logs_close _)) fun _ => besides_putConnection _ _

end Service

/-! ## Endpoints -/

namespace Http

open Service

variable {α : Type} {now : Timestamp} {id : String} {r : Request}

theorem besides_reject (e : BridgeError) :
    besides.Follows (reject id r e : Op Service Response) := by
  have hline : ¬ IsRequestLine (Log.event .http (errorLevel e.status) "request_rejected"
      [("request_id", .string id), ("path", .string r.reportedPath),
        ("error_code", .string e.code.text), ("message", .str e.message)]) := by
    rw [IsRequestLine, Log.isOneOf_event (by decide +kernel) (by simp)]
    decide
  exact .bind (.log fun _ => ⟨rfl, by simpa using hline⟩) fun _ => .ofExcept _

theorem besides_conclude (body : α → Json) (a : Except Failure α) :
    besides.Follows (conclude id r body a : Op Service Answer) := by
  cases a with
  | ok a => exact .bind (.ofExcept _) fun _ => .pure _
  | error e =>
      cases e with
      | bridge e => exact .bind (besides_reject e) fun _ => .pure _
      | _ => exact .fail _

theorem besides_answering {x : Op Service α} (hx : besides.Follows x) (body : α → Json) :
    besides.Follows (answering id r x body) :=
  .bind (.attempt hx) fun a => besides_conclude body a

theorem besides_call (now : Timestamp) (call : Call) :
    besides.Follows (onBridge (call.run now)) := besides_onBridge (call.logs_run now)

theorem besides_serviceCallTool (now : Timestamp) (name : String) (args : Json) :
    besides.FollowsThrough (Service.callTool now name args) :=
  .after (besides_call now (.callTool name args)) fun _ => .after .get fun _ =>
    .ite (.done _) (.suspended _ (.pure _))

theorem besides_callTool (name : String) : besides.FollowsThrough (callTool now id r name) := by
  refine .after .get fun s => ?_
  split
  · exact .atOnce (.bind (.ofExcept _) fun _ => .pure _)
  · exact .fail _
  · exact .onceOver (besides_serviceCallTool now name _) fun a => besides_conclude _ a

theorem besides_publishResult (ticket : String) :
    besides.Follows (publishResult now id r ticket) := by
  refine .bind .get fun s => ?_
  split
  · exact besides_answering (besides_onResults (ResultChannel.logs_publishBody _ _ _ _)) _
  · exact .bind (.ofExcept _) fun _ => .pure _
  · exact .bind (.ofExcept _) fun _ => .pure _
  · exact .fail _

theorem besides_openEvents : besides.Follows openEvents := by
  refine .bind .get fun s => .bind ?_ fun place => .bind ?_ fun _ => .pure _
  · exact .bind .get fun _ => .bind (besides_onResults (logs_sendReady _ _ _)) fun _ =>
      .bind (.keepRequests fun _ => rfl) fun _ => .pure _
  · refine .bind .get fun s => ?_
    split
    · exact .pure _
    · exact .bind (besides_putConnection _ _) fun _ => .pure _

theorem besides_listing (name : String) (part : Catalog → List α) (toJson : α → Json) :
    besides.Follows (listing name part toJson) :=
  .bind .get fun _ => .bind (.ofExcept _) fun _ => .pure _

theorem besides_serve (e : Endpoint) : besides.FollowsThrough (serve now id r e) := by
  cases e with
  | listResources => exact .atOnce (besides_listing _ _ _)
  | listTools => exact .atOnce (besides_listing _ _ _)
  | listPrompts => exact .atOnce (besides_listing _ _ _)
  | readResource uri => exact .atOnce (besides_answering (besides_call now (.readResource _)) _)
  | callTool name => exact besides_callTool name
  | getPrompt name => exact .atOnce (besides_answering (besides_call now (.getPrompt _)) _)
  | getResult ticket =>
      exact .atOnce (besides_answering (besides_onResults (ResultChannel.logs_getBody _ _)) _)
  | publishResult ticket => exact .atOnce (besides_publishResult ticket)
  | events => exact .atOnce besides_openEvents
  | health => exact .atOnce (.bind .get fun _ => .bind (.ofExcept _) fun _ => .pure _)
  | metrics => exact .atOnce (.bind .get fun _ => .pure _)

theorem besides_answer : besides.FollowsThrough (answer now id r) := by
  unfold answer
  split
  · exact besides_serve _
  · exact .atOnce (.bind (.ofExcept _) fun _ => .pure _)
  · exact .atOnce (.pure _)
  · exact .atOnce (.bind (.ofExcept _) fun _ => .pure _)

end Http

end CommandBridge
