import VirtualKubelet.Go.Clock
import VirtualKubelet.Go.Value
import VirtualKubelet.Program

/-!
# The device transport, as the configuration engine calls it

A tick of the engine is a program whose calls are those of the transport
contract, together with the two calls of the maintenance barrier and the wait
between two attempts of a read. What each call does on the device is not part
of the model: any call may get any reply.

Writers see a transport too, through a view. During a transaction the view
swaps the open handle into every `Mutate`, reads the transaction's working
datastore where the transport has one, and refuses to touch the life cycle of
the transaction.
-/

namespace VirtualKubelet.Config

open Go

abbrev TxHandle := String

/-- The encoded body of a response or a request. -/
abbrev Raw := String

/-- A transport error: its text, and what `IsTransient` says of it. -/
structure Failure where
  message : String
  transient : Bool := false
  deriving DecidableEq

/-- An error with the text in front of its own. -/
def Failure.wrap (text : String) (err : Failure) : Failure := { err with message := text ++ err.message }

inductive Verb
  | replace
  | merge
  | delete
  | cli
  deriving DecidableEq

structure PathElement where
  name : String
  keys : List (String × String) := []
  deriving DecidableEq

structure Op where
  verb : Verb
  path : String := ""
  pathSpec : List PathElement := []
  body : Raw := ""
  deriving DecidableEq

def errUnsupported : Failure where
  message := "transport: capability unsupported by this implementation"

structure Capabilities where
  supportsTransactions : Bool := false
  supportsSaveStartup : Bool := false
  supportsConfirmedCommit : Bool := false

/-- What is fixed about a transport: its capabilities, and which of the
optional interfaces it implements. -/
structure Transport where
  capabilities : Capabilities
  confirmedCommitter : Bool := false
  txFetcher : Bool := false

/-! ## Calls -/

inductive TransportCall
  | fetch (path : String)
  | fetchTx (tx : TxHandle) (path : String)
  | startTransaction
  | mutate (tx : TxHandle) (ops : List Op)
  | commit (tx : TxHandle)
  | discard (tx : TxHandle)
  | commitConfirmed (tx : TxHandle) (timeout : Time)
  | confirmCommit
  | saveStartup
  | acquireMutation
  | finishMutation (outcome : Option String)
  | backoff
  deriving DecidableEq

/-- An error is a `some`; reads and `StartTransaction` also return a value. -/
def TransportCall.Reply : TransportCall → Type
  | fetch _ | fetchTx _ _ => Except Failure Raw
  | startTransaction => Except Failure TxHandle
  | mutate _ _ | commit _ | discard _ | commitConfirmed _ _ | confirmCommit | saveStartup
  | acquireMutation | backoff => Option Failure
  | finishMutation _ => Unit

/-- One tick, or a part of one. -/
abbrev Tick := Program TransportCall TransportCall.Reply

abbrev TickEvent := Program.Event TransportCall TransportCall.Reply

namespace Tick

abbrev fetch (path : String) : Tick (Except Failure Raw) := Program.request (TransportCall.fetch path)

abbrev fetchTx (tx : TxHandle) (path : String) : Tick (Except Failure Raw) :=
  Program.request (TransportCall.fetchTx tx path)

abbrev startTransaction : Tick (Except Failure TxHandle) := Program.request TransportCall.startTransaction

abbrev mutate (tx : TxHandle) (ops : List Op) : Tick (Option Failure) :=
  Program.request (TransportCall.mutate tx ops)

abbrev commit (tx : TxHandle) : Tick (Option Failure) := Program.request (TransportCall.commit tx)

abbrev discard (tx : TxHandle) : Tick (Option Failure) := Program.request (TransportCall.discard tx)

abbrev commitConfirmed (tx : TxHandle) (timeout : Time) : Tick (Option Failure) :=
  Program.request (TransportCall.commitConfirmed tx timeout)

abbrev confirmCommit : Tick (Option Failure) := Program.request TransportCall.confirmCommit

abbrev saveStartup : Tick (Option Failure) := Program.request TransportCall.saveStartup

abbrev acquireMutation : Tick (Option Failure) := Program.request TransportCall.acquireMutation

abbrev finishMutation (outcome : Option String) : Tick Unit :=
  Program.request (TransportCall.finishMutation outcome)

abbrev backoff : Tick (Option Failure) := Program.request TransportCall.backoff

end Tick

/-- The engine's `RetryPolicy`: a number of attempts that is not positive
stands for three. How long each wait is does not matter here. -/
structure RetryPolicy where
  maxAttempts : Int := 0

def RetryPolicy.attempts (p : RetryPolicy) : Nat :=
  if p.maxAttempts ≤ 0 then 3 else p.maxAttempts.toNat

/-- `RetryIdempotent` with a number of attempts left after the first. -/
def retryIdempotent {α : Type} (fn : Tick (Except Failure α)) : Nat → Tick (Except Failure α)
  | 0 => fn
  | further + 1 => do
      match ← fn with
      | .ok a => pure (.ok a)
      | .error err =>
        if !err.transient then pure (.error err)
        else
          match ← Tick.backoff with
          | some cancelled => pure (.error cancelled)
          | none => retryIdempotent fn further

/-! ## The transport a writer is handed -/

/-- `SectionWriter.Fetch` only reads. -/
abbrev Reading := Program String (fun _ => Except Failure Raw)

/-- What `SectionWriter.Apply` may call. -/
inductive WriterCall
  | fetch (path : String)
  | startTransaction
  | mutate (tx : TxHandle) (ops : List Op)
  | commit (tx : TxHandle)
  | discard (tx : TxHandle)

def WriterCall.Reply : WriterCall → Type
  | fetch _ => Except Failure Raw
  | startTransaction => Except Failure TxHandle
  | mutate _ _ | commit _ | discard _ => Option Failure

abbrev Writing := Program WriterCall WriterCall.Reply

/-- The engine's `applyTransport`: the transport itself, or a
`transactionalView` of it bound to an open handle. -/
inductive View
  | direct
  | transactional (tx : TxHandle)

def View.fetch (t : Transport) (path : String) : View → Tick (Except Failure Raw)
  | direct => Tick.fetch path
  | transactional tx => if t.txFetcher then Tick.fetchTx tx path else Tick.fetch path

def View.mutate (tx : TxHandle) (ops : List Op) : View → Tick (Option Failure)
  | direct => Tick.mutate tx ops
  | transactional bound => Tick.mutate bound ops

def View.carry (t : Transport) (view : View) : (c : WriterCall) → Tick c.Reply
  | .fetch path => view.fetch t path
  | .mutate tx ops => view.mutate tx ops
  | .startTransaction =>
    match view with
    | direct => Tick.startTransaction
    | transactional _ => pure (.error errUnsupported)
  | .commit tx =>
    match view with
    | direct => Tick.commit tx
    | transactional _ => pure (some errUnsupported)
  | .discard tx =>
    match view with
    | direct => Tick.discard tx
    | transactional _ => pure (some errUnsupported)

def View.read {α : Type} (t : Transport) (view : View) (reading : Reading α) : Tick α :=
  reading.handle fun path => view.fetch t path

def View.write {α : Type} (t : Transport) (view : View) (writing : Writing α) : Tick α :=
  writing.handle (view.carry t)

end VirtualKubelet.Config
