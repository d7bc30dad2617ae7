import WayDisplay.Common.AsyncTcpPolicy
import WayDisplay.Foundation.FramedStream

/-!
The server's asynchronous TCP sender (`wd_async_tcp.c`).

Frames wait in one pending list.  At most the head is in flight on the ring; once
the ring is refused, the sender falls back to nonblocking system calls.  The
kernel is a parameter of each call: it answers each request, and may look at how
much of which frame was sent before.  `SocketTrace` records what happened on the
bound socket and is read by no function.
-/

namespace WayDisplay.Server.AsyncTcp

open WayDisplay.Common WayDisplay.Foundation

def tcpHeaderWireSize : Nat := 12

/-- A whole protocol frame; owned messages keep their payload in a buffer. -/
structure Frame where
  messageType : Nat
  inlineBytes : List UInt8
  ownedPayload : Option (List UInt8)
  hasHeader : tcpHeaderWireSize ≤ inlineBytes.length
  fits : inlineBytes.length + (ownedPayload.getD []).length ≤ sizeMax
  deriving DecidableEq

def Frame.bytes (frame : Frame) : List UInt8 :=
  frame.inlineBytes ++ frame.ownedPayload.getD []

/-- `serial` is the identity of the allocation, `userData` the completion's. -/
structure Message where
  serial : Nat
  fd : Int
  frame : Frame
  bytesSent : Nat
  submittedSize : Nat
  submitted : Bool
  userData : Option Nat
  deriving DecidableEq

def Message.totalSize (msg : Message) : Nat :=
  msg.frame.bytes.length

structure SocketTrace where
  wire : List UInt8
  admitted : List (Nat × List UInt8)
  finished : List (Nat × List UInt8)
  withdrawn : List Withdrawal
  deriving DecidableEq

def SocketTrace.empty : SocketTrace :=
  ⟨[], [], [], []⟩

structure Callback where
  record : Nat
  messageType : Nat
  success : Bool
  deriving DecidableEq, Repr

/--
`taken` lists the completion records, with their message types, that came with
the messages put into the pending list.
-/
structure Sender where
  ringReady : Bool
  socketPin : Option Nat
  pending : List Message
  inflight : Nat
  pendingBytes : Nat
  maxPendingBytes : Nat
  queued : Nat
  completed : Nat
  failed : Nat
  overflows : Nat
  partialResubmits : Nat
  submitRetryPending : Bool
  syscallFallback : Bool
  transportFailures : Nat
  nextSerial : Nat
  kernelCalls : Nat
  taken : List (Nat × Nat)
  callbacks : List Callback
  trace : SocketTrace
  deriving DecidableEq

def senderCreate (maxPendingBytes : Nat) : Sender where
  ringReady := true
  socketPin := none
  pending := []
  inflight := 0
  pendingBytes := 0
  maxPendingBytes := maxPendingBytes
  queued := 0
  completed := 0
  failed := 0
  overflows := 0
  partialResubmits := 0
  submitRetryPending := false
  syscallFallback := false
  transportFailures := 0
  nextSerial := 0
  kernelCalls := 0
  taken := []
  callbacks := []
  trace := .empty

structure SendRequest where
  messageType : Nat
  sent : Nat
  total : Nat
  deriving DecidableEq, Repr

def Message.request (msg : Message) : SendRequest :=
  ⟨msg.frame.messageType, msg.bytesSent, msg.totalSize⟩

/--
The kernel's answers; the first argument counts the sender's kernel calls.
`completion` is the result of a ring send, `send` that of a system call.
-/
structure Kernel where
  sqeAvailable : Nat → Bool
  submit : Nat → Int
  completion : Nat → SendRequest → Int
  send : Nat → SendRequest → Int

def senderAvailable (s : Sender) : Bool :=
  s.ringReady || s.syscallFallback

def Message.remainingBytes (msg : Message) : Option (List UInt8) :=
  match msg.frame.ownedPayload with
  | some payload =>
      (planOwnedSend msg.frame.inlineBytes.length payload.length
        msg.bytesSent).map fun plan =>
          (msg.frame.inlineBytes.drop plan.inlineOffset).take plan.inlineSize ++
            (payload.drop plan.payloadOffset).take plan.payloadSize
  | none => some (msg.frame.inlineBytes.drop msg.bytesSent)

/-- A result beyond the bytes handed over is no kernel answer: none accepted. -/
def acceptedBytes (bytes : List UInt8) (result : Int) : List UInt8 :=
  if 0 < result ∧ result.toNat ≤ bytes.length then bytes.take result.toNat
  else []

def Sender.kernelAccepts (s : Sender) (bytes : List UInt8) (result : Int) :
    Sender :=
  { s with
    kernelCalls := s.kernelCalls + 1
    trace := { s.trace with wire := s.trace.wire ++ acceptedBytes bytes result } }

def Sender.storeHead (s : Sender) (msg : Message) : Sender :=
  { s with pending := msg :: s.pending.tail }

def Message.records (msg : Message) : List (Nat × Nat) :=
  msg.userData.toList.map fun record => (record, msg.frame.messageType)

def pendingAdd (s : Sender) (msg : Message) : Sender :=
  { s with
    pending := s.pending ++ [msg]
    pendingBytes := s.pendingBytes + msg.totalSize
    nextSerial := s.nextSerial + 1
    taken := s.taken ++ msg.records
    trace :=
      { s.trace with
        admitted := s.trace.admitted ++ [(msg.serial, msg.frame.bytes)] } }

def pendingRemove (s : Sender) (msg : Message) : Sender :=
  { s with
    pending := s.pending.filter fun other => other.serial ≠ msg.serial
    pendingBytes := s.pendingBytes - msg.totalSize }

def completeMessage (s : Sender) (msg : Message) (success : Bool) : Sender :=
  { s with
    callbacks :=
      s.callbacks ++
        msg.records.map fun record => ⟨record.1, record.2, success⟩ }

def removeUnfinished (s : Sender) (msg : Message) : Sender :=
  pendingRemove
    { s with
      trace :=
        { s.trace with
          withdrawn :=
            s.trace.withdrawn ++
              [⟨msg.serial, msg.bytesSent, s.trace.wire.length⟩] } } msg

def failMessage (s : Sender) (msg : Message) : Sender :=
  completeMessage (removeUnfinished s msg) msg false

def finishMessage (s : Sender) (msg : Message) : Sender :=
  completeMessage
    (pendingRemove
      { s with
        completed := s.completed + 1
        trace :=
          { s.trace with
            finished := s.trace.finished ++ [(msg.serial, msg.frame.bytes)] } }
      msg) msg true

def recordTransportFailure (s : Sender) : Sender :=
  { s with failed := s.failed + 1, transportFailures := s.transportFailures + 1 }

/-! ## System-call fallback -/

def syscallSendOnce (kernel : Kernel) (s : Sender) (msg : Message) :
    Int × Sender :=
  if s.socketPin.isNone || msg.bytesSent ≥ msg.totalSize then (-einval, s)
  else
    match msg.remainingBytes with
    | none => (-einval, s)
    | some bytes =>
        let result := kernel.send s.kernelCalls msg.request
        (result, s.kernelAccepts bytes result)

/-- The sending loop of the fallback, over at most `budget` iterations. -/
def progressLoop (kernel : Kernel) : Nat → Sender → Sender × Bool
  | 0, s => (s, true)
  | budget + 1, s =>
      match s.pending with
      | [] => (s, true)
      | msg :: _ =>
          let (result, s) := syscallSendOnce kernel s msg
          if result = -eintr ∨ result = -eagain then (s, true)
          else
            let (progress, sent) := advance msg.totalSize msg.bytesSent result
            let msg := { msg with bytesSent := sent }
            let s := s.storeHead msg
            match progress with
            | .sendFailed => (failMessage (recordTransportFailure s) msg, false)
            | .sendComplete => progressLoop kernel budget (finishMessage s msg)
            | .sendPartial =>
                ({ s with partialResubmits := s.partialResubmits + 1 }, true)

def progressBudget : Nat := 16

def progressSyscallFallback (kernel : Kernel) (s : Sender) : Sender × Bool :=
  if !s.syscallFallback || s.inflight ≠ 0 then (s, true)
  else progressLoop kernel progressBudget s

/-! ## Ring submission -/

def flushSubmit (kernel : Kernel) (s : Sender) : SubmitProgress × Sender :=
  if !s.ringReady then (.submitFailed, s)
  else
    let progress := submitResult (kernel.submit s.kernelCalls)
    (progress,
      { s with
        kernelCalls := s.kernelCalls + 1
        submitRetryPending := progress == .submitRetry })

def retireRing (s : Sender) : Sender :=
  if !s.ringReady then s
  else { s with ringReady := false, submitRetryPending := false }

def markSubmitted (s : Sender) (msg : Message) (size : Nat) : Sender :=
  { s.storeHead { msg with submitted := true, submittedSize := size } with
    inflight := s.inflight + 1 }

/-- A refused submission says nothing about the peer: keep the message. -/
def unmarkSubmitted (s : Sender) (msg : Message) (size : Nat) : Sender :=
  { s.storeHead { msg with submitted := false, submittedSize := size } with
    inflight := s.inflight - 1
    syscallFallback := true }

def submitMessage (kernel : Kernel) (s : Sender) (msg : Message) :
    Sender × Bool :=
  if !s.ringReady || msg.submitted || msg.fd < 0 ||
      msg.bytesSent ≥ msg.totalSize then (s, false)
  else if !kernel.sqeAvailable s.kernelCalls then
    ({ retireRing s with syscallFallback := true }, true)
  else
    match msg.remainingBytes with
    | none => (s, false)
    | some bytes =>
        if bytes.length = 0 then (s, false)
        else
          match flushSubmit kernel (markSubmitted s msg bytes.length) with
          | (.submitFailed, s) =>
              (unmarkSubmitted (retireRing s) msg bytes.length, true)
          | (_, s) => (s, true)

/--
Start the head if nothing is in flight.  The second result is the call's own,
the third says that the message `suppress` failed without a callback.
-/
def tryStartHead (kernel : Kernel) (s : Sender) (suppress : Option Nat) :
    Sender × Bool × Bool :=
  match s.pending with
  | [] => (s, true, false)
  | head :: _ =>
      if s.inflight ≠ 0 then (s, true, false)
      else if s.syscallFallback then
        let (s, ok) := progressSyscallFallback kernel s
        (s, ok, false)
      else
        match submitMessage kernel s head with
        | (s, true) => (s, true, false)
        | (s, false) =>
            let suppressed := suppress == some head.serial
            let s := removeUnfinished { s with failed := s.failed + 1 } head
            (if suppressed then s else completeMessage s head false, false,
              suppressed)

/-! ## Completions -/

def Message.landed (msg : Message) : Message :=
  { msg with submitted := false, submittedSize := 0 }

def takeCompletion (s : Sender) (msg : Message) (result : Int) : Sender :=
  let s := s.kernelAccepts (msg.remainingBytes.getD []) result
  { s.storeHead msg.landed with inflight := s.inflight - 1 }

def countPartialResubmit (s : Sender) (result : Int) (submittedSize : Nat) :
    Sender :=
  if 0 ≤ result ∧ result.toNat < submittedSize then
    { s with partialResubmits := s.partialResubmits + 1 }
  else s

def settleHead (kernel : Kernel) (s : Sender) (msg : Message)
    (progress : SendProgress) (result : Int) (submittedSize : Nat) : Sender :=
  if progress = .sendFailed then
    (tryStartHead kernel (failMessage (recordTransportFailure s) msg) none).1
  else if msg.bytesSent = msg.totalSize then
    (tryStartHead kernel (finishMessage s msg) none).1
  else
    match submitMessage kernel (countPartialResubmit s result submittedSize)
        msg with
    | (s, true) => s
    | (s, false) =>
        (tryStartHead kernel
          (failMessage { s with failed := s.failed + 1 } msg) none).1

def handleCompletion (kernel : Kernel) (s : Sender) (msg : Message) : Sender :=
  let result := kernel.completion s.kernelCalls msg.request
  let s := takeCompletion s msg result
  if cqeShouldTrySyscall result then
    (progressSyscallFallback kernel { s with syscallFallback := true }).1
  else
    let (progress, sent) := advance msg.totalSize msg.bytesSent result
    let next := { msg.landed with bytesSent := sent }
    settleHead kernel (s.storeHead next) next progress result msg.submittedSize

def reapLoop (kernel : Kernel) : Nat → Sender → Sender
  | 0, s => s
  | available + 1, s =>
      match s.pending with
      | [] => s
      | head :: _ =>
          if !s.ringReady || s.submitRetryPending || !head.submitted then s
          else reapLoop kernel available (handleCompletion kernel s head)

/-- The ring never took the head: leave it to the fallback. -/
def recallHead (s : Sender) : Sender :=
  let s :=
    match s.pending with
    | [] => s
    | head :: _ => s.storeHead { head with submitted := false }
  { s with inflight := 0, syscallFallback := true }

def senderReap (kernel : Kernel) (available : Nat) (s : Sender) : Sender :=
  if s.syscallFallback && s.inflight == 0 then
    (progressSyscallFallback kernel s).1
  else if !s.ringReady then s
  else if s.submitRetryPending then
    match flushSubmit kernel s with
    | (.submitRetry, s) => s
    | (.submitFailed, s) =>
        (progressSyscallFallback kernel (recallHead (retireRing s))).1
    | (.submitAccepted, s) => reapLoop kernel available s
  else reapLoop kernel available s

/-! ## Entry points -/

/-- A cookie of zero is a descriptor whose socket could not be identified. -/
def socketPinMatches (pin : Option Nat) (fd : Int) (cookie : Nat) : Bool :=
  0 ≤ fd && cookie ≠ 0 && pin == some cookie

/-- A new socket starts a new stream. -/
def bindSocket (s : Sender) (fd : Int) (cookie : Nat) (binds : Bool) :
    Sender × Bool :=
  if fd < 0 then (s, false)
  else if socketPinMatches s.socketPin fd cookie then (s, true)
  else if !s.pending.isEmpty || s.inflight ≠ 0 then (s, false)
  else if binds then
    ({ s with socketPin := some cookie, trace := .empty }, true)
  else (s, false)

/--
The arguments of a send and the answers of its environment: the payload size
check of the protocol table, the allocation, the socket pin and the kernel.
-/
structure SendCall where
  fd : Int
  cookie : Nat
  frame : Frame
  userData : Option Nat
  wireSizeValid : Bool
  allocated : Bool
  binds : Bool
  available : Nat
  kernel : Kernel

def newMessage (s : Sender) (call : SendCall) : Message where
  serial := s.nextSerial
  fd := call.fd
  frame := call.frame
  bytesSent := 0
  submittedSize := 0
  submitted := false
  userData := call.userData

def enqueueMessage (s : Sender) (call : SendCall) : Sender × Bool :=
  match tryStartHead call.kernel (pendingAdd s (newMessage s call))
      (some s.nextSerial) with
  | (s, false, true) => (s, false)
  | (s, _, _) => ({ s with queued := s.queued + 1 }, true)

def refuse (s : Sender) : Sender × Bool :=
  ({ s with failed := s.failed + 1 }, false)

def refuseOverflow (s : Sender) : Sender × Bool :=
  ({ s with failed := s.failed + 1, overflows := s.overflows + 1 }, false)

def hasCapacity (s : Sender) (call : SendCall) : Bool :=
  canEnqueue s.pendingBytes call.frame.bytes.length s.maxPendingBytes

def sendWith (attempt : Sender → SendCall → Sender × Bool) (s : Sender)
    (call : SendCall) : Sender × Bool :=
  if !senderAvailable s || call.fd < 0 then (s, false)
  else
    match bindSocket (senderReap call.kernel call.available s) call.fd
        call.cookie call.binds with
    | (s, false) => refuse s
    | (s, true) => attempt s call

def sendMessageEx : Sender → SendCall → Sender × Bool :=
  sendWith fun s call =>
    if !call.wireSizeValid then refuse s
    else if !hasCapacity s call then refuseOverflow s
    else if !call.allocated then refuse s
    else enqueueMessage s call

/-- An owned message is built before its size is compared with the capacity. -/
def sendOwnedMessageEx : Sender → SendCall → Sender × Bool :=
  sendWith fun s call =>
    if !call.wireSizeValid || !call.allocated then refuse s
    else if !hasCapacity s call then refuseOverflow s
    else enqueueMessage s call

/-- A prepared message is allocated by its caller and has no callback. -/
def sendPreparedMessage (s : Sender) (call : SendCall) : Sender × Bool :=
  sendMessageEx s { call with allocated := true, userData := none }

def hasMessageType (s : Sender) (messageType : Nat) : Bool :=
  s.pending.any fun msg => msg.frame.messageType == messageType

def dropLoop (messageType : Nat) : List Message → Sender → Sender × Nat
  | [], s => (s, 0)
  | msg :: rest, s =>
      if msg.frame.messageType = messageType ∧
          messageIsReplaceable msg.submitted msg.bytesSent then
        let (s, dropped) := dropLoop messageType rest (failMessage s msg)
        (s, dropped + 1)
      else dropLoop messageType rest s

def dropMessageType (kernel : Kernel) (s : Sender) (messageType : Nat) :
    Sender × Nat :=
  let (s, dropped) := dropLoop messageType s.pending s
  if dropped ≠ 0 then ((tryStartHead kernel s none).1, dropped)
  else (s, dropped)

inductive SenderEvent where
  | sendMessage (call : SendCall)
  | sendOwnedMessage (call : SendCall)
  | sendPreparedMessage (call : SendCall)
  | reap (kernel : Kernel) (available : Nat)
  | dropMessageType (kernel : Kernel) (messageType : Nat)
  | setMaxPendingBytes (limit : Nat)

def SenderEvent.step (s : Sender) : SenderEvent → Sender
  | .sendMessage call => (sendMessageEx s call).1
  | .sendOwnedMessage call => (sendOwnedMessageEx s call).1
  | .sendPreparedMessage call =>
      (WayDisplay.Server.AsyncTcp.sendPreparedMessage s call).1
  | .reap kernel available => senderReap kernel available s
  | .dropMessageType kernel messageType =>
      (WayDisplay.Server.AsyncTcp.dropMessageType kernel s messageType).1
  | .setMaxPendingBytes limit => { s with maxPendingBytes := limit }

end WayDisplay.Server.AsyncTcp
