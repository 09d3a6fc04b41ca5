import Bildr.Json
import Bildr.Trace
import Mathlib.Algebra.Group.Nat.Defs
import Mathlib.Data.List.AList
/-!
# AppServer — one connection to the app server (`harness-codex/src/lib.rs`)

Calls of `request`, `writer_loop`, `reader_loop` and `child_watcher` share the tables of a supervisor and step in any order.
A step is what one of them does between two points where it can wait; what the app server, the clock and the child process
do is in the events.
-/
namespace AppServer

open Json (Value)

inductive EventDirection
  | inbound
  | outbound
  | diagnostic
deriving DecidableEq

inductive EventKind
  | request
  | response
  | notification
  | serverRequest
  | processExit
deriving DecidableEq

structure CodexEvent where
  direction : EventDirection
  kind : EventKind
  method : String
  requestId : Option Value
  message : Value
deriving DecidableEq

inductive CodexError
  | disconnected
  | timeout (method : String)
  | rpc (method : String) (code : Int) (message : String) (data : Option Value)
deriving DecidableEq

abbrev Reply : Type := Except CodexError Value

/-- How `serde_json` prints a value and reads a frame. -/
structure Serde where
  toText : Value → String
  fromSlice : List UInt8 → Option Value

def maxConsecutiveProtocolErrors : Nat := 3

def writerCapacity : Nat := 256

def requestKey (d : Serde) : Value → String
  | .str value => value
  | id         => d.toText id

/-! ## Frames -/

/-- What `read_bounded_line` makes of a line. -/
inductive BoundedLine
  | data (bytes : List UInt8)
  | oversized
deriving DecidableEq

/-- The message of a frame; an oversized frame and one that is not JSON have none. -/
def frameMessage (d : Serde) : BoundedLine → Option Value
  | .data bytes => d.fromSlice bytes
  | .oversized  => none

/-- One more frame without a message, counted in a byte. -/
def nextError (errors : Nat) : Nat := min (errors + 1) 255

/-! ## The supervisor -/

/-- How far a call of `request` has come. -/
inductive Stage
  | idle
  | numbered (id : Nat)
  | registered (id : Nat)
  | waiting (id : Nat)
  | refused (id : Nat) (error : CodexError)
  | expired (id : Nat)
  | returned (reply : Reply)
deriving DecidableEq

/-- The channel a call hears its reply on. -/
inductive Channel
  | opened
  | sent (reply : Reply)
  | closed
deriving DecidableEq

structure Call where
  method : String
  params : Value
  stage : Stage
  channel : Channel
deriving DecidableEq

/-- The sending half of the channel of a call is known by the call's index. -/
structure PendingRequest where
  method : String
  response : Nat
deriving DecidableEq

inductive Writer
  | receiving
  | recorded (message : Value)
  | stopped
deriving DecidableEq

inductive Reader
  | listening
  | parsed (message : Value)
  | labelled (event : CodexEvent)
  | delivered (event : CodexEvent)
  | stopped
deriving DecidableEq

inductive Watcher
  | watching
  | exited
  | stopped
deriving DecidableEq

structure Supervisor where
  nextId : Nat
  calls : List Call
  pending : AList (fun _ : String => PendingRequest)
  queue : List Value
  writer : Writer
  stdin : List Value
  durableSink : List CodexEvent
  reader : Reader
  consecutiveProtocolErrors : Nat
  watcher : Watcher

def start (calls : List (String × Value)) : Supervisor where
  nextId := 1
  calls := calls.map (fun c => ⟨c.1, c.2, .idle, .closed⟩)
  pending := ∅
  queue := []
  writer := .receiving
  stdin := []
  durableSink := []
  reader := .listening
  consecutiveProtocolErrors := 0
  watcher := .watching

/-! ## Channels -/

/-- The sender is used; the reply is lost when nobody listens any more. -/
def Call.send (reply : Reply) (c : Call) : Call :=
  match c.channel with
  | .opened => { c with channel := .sent reply }
  | _       => c

/-- The sender is dropped. -/
def Call.hangUp (c : Call) : Call :=
  match c.channel with
  | .opened => { c with channel := .closed }
  | _       => c

def Call.withStage (stage : Stage) (c : Call) : Call := { c with stage := stage }

def Supervisor.update (s : Supervisor) (k : Nat) (f : Call → Call) : Supervisor := { s with calls := s.calls.modify k f }

/-- Takes the entry of a key out of `pending` and does `f` to the call whose sender it holds. -/
def Supervisor.take (s : Supervisor) (key : String) (f : PendingRequest → Call → Call) : Supervisor :=
  match s.pending.lookup key with
  | none   => s
  | some p => { s.update p.response (f p) with pending := s.pending.erase key }

/-! ## `request` -/

def requestMessage (method : String) (id : Nat) (params : Value) : Value :=
  .obj [("id", .num (.pos id)), ("method", .str method), ("params", params)]

/-- `pending.remove(&key)` of an entry nobody reads: its sender is dropped. -/
def Supervisor.forgetCall (s : Supervisor) (id : Nat) : Supervisor := s.take (toString id) (fun _ => Call.hangUp)

/-- What a call does without waiting for the writer or for its reply. -/
def callStep (s : Supervisor) (k : Nat) (c : Call) : Supervisor :=
  match c.stage with
  | .idle             => { s.update k (Call.withStage (.numbered s.nextId)) with nextId := (s.nextId + 1) % 2 ^ 64 }
  | .numbered id      =>
    -- an entry that stands under the key already is replaced, and its sender dropped
    let s' := (s.forgetCall id).update k (fun c => { c with stage := .registered id, channel := .opened })
    { s' with pending := s'.pending.insert (toString id) ⟨c.method, k⟩ }
  | .refused id error => (s.forgetCall id).update k (Call.withStage (.returned (.error error)))
  | .expired id       => (s.forgetCall id).update k (Call.withStage (.returned (.error (.timeout c.method))))
  | _                 => s

/-- The writer admits a message while it runs and its queue has room. -/
def Supervisor.admits (s : Supervisor) : Bool := s.writer != .stopped && decide (s.queue.length < writerCapacity)

/-- Why `enqueue_writer_message` fails. -/
def Supervisor.refusal (s : Supervisor) (method : String) : Option CodexError :=
  if s.writer = .stopped then some .disconnected
  else if writerCapacity ≤ s.queue.length then some (.timeout method)
  else none

def admitCall (s : Supervisor) (k : Nat) (c : Call) : Supervisor :=
  match c.stage with
  | .registered id =>
    if s.admits then
      { s.update k (Call.withStage (.waiting id)) with queue := s.queue ++ [requestMessage c.method id c.params] }
    else s
  | _              => s

def refuseCall (s : Supervisor) (k : Nat) (c : Call) : Supervisor :=
  match c.stage with
  | .registered id =>
    match s.refusal c.method with
    | some error => s.update k (Call.withStage (.refused id error))
    | none       => s
  | _              => s

def receiveReply (s : Supervisor) (k : Nat) (c : Call) : Supervisor :=
  match c.stage with
  | .waiting _ =>
    match c.channel with
    | .sent reply => s.update k (Call.withStage (.returned reply))
    | .closed     => s.update k (Call.withStage (.returned (.error .disconnected)))
    | .opened     => s
  | _          => s

def expireCall (s : Supervisor) (k : Nat) (c : Call) : Supervisor :=
  match c.stage with
  | .waiting id => s.update k (Call.withStage (.expired id))
  | _           => s

/-- `notify`, `respond` and `respond_error`: one more message, if it is admitted. -/
def enqueue (s : Supervisor) (message : Value) : Supervisor :=
  if s.admits then { s with queue := s.queue ++ [message] } else s

/-! ## `writer_loop` -/

def outboundEvent (message : Value) : CodexEvent where
  direction := .outbound
  kind :=
    if ((message.get "method").bind Value.asStr).getD "response" = "response" then .response
    else if (message.get "id").isSome then .request
    else .notification
  method := ((message.get "method").bind Value.asStr).getD "response"
  requestId := message.get "id"
  message := message

def writerStep (s : Supervisor) : Supervisor :=
  match s.writer, s.queue with
  | .receiving, m :: rest =>
    { s with
      writer := .recorded m
      queue := rest
      durableSink := s.durableSink ++ [outboundEvent m] }
  | .recorded m, _        =>
    { s with
      writer := .receiving
      stdin := s.stdin ++ [m] }
  | _, _                  => s

/-- A write fails: the loop ends and its queue goes with it. -/
def writerFails (s : Supervisor) : Supervisor :=
  match s.writer with
  | .recorded _ =>
    { s with
      writer := .stopped
      queue := [] }
  | _           => s

/-! ## `reader_loop` -/

def takeLine (d : Serde) (s : Supervisor) (l : BoundedLine) : Supervisor :=
  match s.reader with
  | .listening =>
    match frameMessage d l with
    | some message =>
      { s with
        reader := .parsed message
        consecutiveProtocolErrors := 0 }
    | none         =>
      { s with
        reader := if maxConsecutiveProtocolErrors ≤ nextError s.consecutiveProtocolErrors then .stopped else .listening
        consecutiveProtocolErrors := nextError s.consecutiveProtocolErrors }
  | _          => s

def streamEnds (s : Supervisor) : Supervisor :=
  match s.reader with
  | .listening => { s with reader := .stopped }
  | _          => s

/-- The event of a message; a response is named after the call that waits for it. -/
def inboundEvent (d : Serde) (s : Supervisor) (message : Value) : CodexEvent where
  direction := .inbound
  kind :=
    match (message.get "method").bind Value.asStr, message.get "id" with
    | some _, some _ => .serverRequest
    | some _, none   => .notification
    | none, some _   => .response
    | none, none     => .notification
  method :=
    match (message.get "method").bind Value.asStr, message.get "id" with
    | some method, _ => method
    | none, some id  => "response:" ++ ((s.pending.lookup (requestKey d id)).map PendingRequest.method).getD "unknown"
    | none, none     => "unknown"
  requestId := message.get "id"
  message := message

def asI64 : Value → Option Int
  | .num (.pos n) => if n < 2 ^ 63 then some (Int.ofNat n) else none
  | .num (.neg n) => some (-Int.ofNat n)
  | _             => none

/-- The reply a response carries to a call of `method`. -/
def replyOf (method : String) (message : Value) : Reply :=
  match message.get "error" with
  | some error =>
    .error (.rpc method (((error.get "code").bind asI64).getD (-1))
      (((error.get "message").bind Value.asStr).getD "unknown App Server error") (error.get "data"))
  | none       => .ok ((message.get "result").getD .null)

def answer (d : Serde) (s : Supervisor) (event : CodexEvent) : Supervisor :=
  match event.kind, event.requestId with
  | .response, some id => s.take (requestKey d id) (fun p => Call.send (replyOf p.method event.message))
  | _, _               => s

def readerStep (d : Serde) (s : Supervisor) : Supervisor :=
  match s.reader with
  | .parsed message  => { s with reader := .labelled (inboundEvent d s message) }
  | .labelled event  =>
    { s with
      reader := .delivered event
      durableSink := s.durableSink ++ [event] }
  | .delivered event => { answer d s event with reader := .listening }
  | _                => s

/-! ## `child_watcher` -/

def childExits (s : Supervisor) : Supervisor :=
  match s.watcher with
  | .watching => { s with watcher := .exited }
  | _         => s

/-- Every call in `pending` hears that the app server is gone. -/
def drainPending (s : Supervisor) : Supervisor :=
  { s with
    pending := ∅
    calls := s.pending.entries.foldl
      (fun calls e => calls.modify e.2.response (Call.send (.error .disconnected))) s.calls }

def watcherStep (s : Supervisor) : Supervisor :=
  match s.watcher with
  | .exited => { drainPending s with watcher := .stopped }
  | _       => s

/-! ## `shutdown` -/

/-- The tasks are aborted where they stand, and what waits for the writer is dropped with it. -/
def abortTasks (s : Supervisor) : Supervisor :=
  { s with
    writer := .stopped
    queue := []
    reader := .stopped
    watcher := .stopped }

/-! ## Runs -/

inductive Event
  | call (k : Nat)
  | submit (k : Nat)
  | refuse (k : Nat)
  | receive (k : Nat)
  | expire (k : Nat)
  | enqueue (message : Value)
  | write
  | writeFails
  | line (l : BoundedLine)
  | streamEnds
  | reader
  | exit
  | watcher
  | abort
deriving DecidableEq

def onCall (s : Supervisor) (k : Nat) (f : Supervisor → Nat → Call → Supervisor) : Supervisor :=
  match s.calls[k]? with
  | some c => f s k c
  | none   => s

def step (d : Serde) (s : Supervisor) : Event → Supervisor
  | .call k          => onCall s k callStep
  | .submit k        => onCall s k admitCall
  | .refuse k        => onCall s k refuseCall
  | .receive k       => onCall s k receiveReply
  | .expire k        => onCall s k expireCall
  | .enqueue message => enqueue s message
  | .write           => writerStep s
  | .writeFails      => writerFails s
  | .line l          => takeLine d s l
  | .streamEnds      => streamEnds s
  | .reader          => readerStep d s
  | .exit            => childExits s
  | .watcher         => watcherStep s
  | .abort           => abortTasks s

/-- What an order of steps reaches from a fresh connection. -/
def reach (d : Serde) (calls : List (String × Value)) (es : List Event) : Supervisor :=
  Trace.run (step d) (start calls) es

end AppServer
