import CommandBridge.Results.Channel

/-!
# CommandBridge.Results.Operation

The operations on a result channel as data: what an application, a subscriber or a
caller can ask of it.
-/

namespace CommandBridge

/-- An operation on a result channel. -/
inductive ChannelOperation where
  | register (c : Command)
  | publish (ticket : String) (status result : Json)
  | get (ticket : String)
  | subscribe (limit : Int)
  | unsubscribe (place : Nat)
  | drain (place : Nat)
  deriving DecidableEq, Repr

namespace ChannelOperation

/-- The name of an operation. -/
def name : ChannelOperation → String
  | .register _ => "register"
  | .publish _ _ _ => "publish"
  | .get _ => "get"
  | .subscribe _ => "subscribe"
  | .unsubscribe _ => "unsubscribe"
  | .drain _ => "drain"

/-- Does an operation; what it answers with is left out. -/
def run (now : Timestamp) : ChannelOperation → Op ResultChannel Unit
  | .register c => discard (ResultChannel.register now c)
  | .publish ticket status result => discard (ResultChannel.publish now ticket status result)
  | .get ticket => discard (ResultChannel.get now ticket)
  | .subscribe limit => discard (ResultChannel.subscribe limit)
  | .unsubscribe place => ResultChannel.unsubscribe place
  | .drain place => discard (ResultChannel.drain place)

end ChannelOperation

end CommandBridge
