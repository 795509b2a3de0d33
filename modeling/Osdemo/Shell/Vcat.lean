import Osdemo.Library.Loop
import Osdemo.Rust.Core

/-!
Contract: the session loop of `vcat` (`apps/shell.rs`), from the connection
request on: the `DeviceOp.vsockSession` of `Osdemo.Shell.Commands`.

Each round of the loop forwards what the console has ready to the peer, then
handles one event of the vsock connection manager. The loop ends at the first
disconnection of its own connection, from the peer to `local_port`; events
of other connections are reported and ignored.

The environment of a round is a `VcatTick`: the bytes that reached the
console since the last round, how many of them the UART driver's `read`
hands over, whether the connection manager accepts the send (it refuses one
for which the peer has no room, and the session unwraps the refusal), and
the event `poll` returns. As virtio-drivers documents its connection manager,
the bytes of a `Received` event wait in the receive buffer of their
connection, whence `recv` takes them in order and as many as fit;
`recv_buffer_available_bytes` counts them.

Owns:
- `VsockAddr`, `VsockEvent`, `VcatEffect`, `VcatState`, `VcatTick`;
- `forwardConsole`, `handleEvent`, `vcatStep` and `vcatSession`, with a lemma
  for each way a round can end;
- the stream theorem `vcatSession_streams`: in every run, the console shows
  exactly the bytes the peer sent on the connection, in order, and the peer
  is sent exactly the bytes typed, in order, with none lost and none repeated,
  until the session returns at the first disconnection of its connection or
  panics on a refused send.

Does not own: the connection request before the loop (`Osdemo.Shell.Commands`)
and failures of the console or of `poll` and `recv`, which are taken not to
happen.
-/

namespace Osdemo.Shell

open Rust

/-- virtio-drivers' `VsockAddr`. -/
structure VsockAddr where
  cid : Nat
  port : Nat
deriving DecidableEq, Repr

/-- virtio-drivers' `DisconnectReason`. -/
inductive DisconnectReason where
  | shutdown
  | reset
deriving DecidableEq, Repr

/-- virtio-drivers' `VsockEventType`. `Received` carries the bytes that
arrived, which the connection manager has put in the connection's receive
buffer by the time `poll` returns the event. -/
inductive VsockEventType where
  | connectionRequest
  | connected
  | disconnected (reason : DisconnectReason)
  | received (data : List UInt8)
  | creditRequest
  | creditUpdate
deriving DecidableEq, Repr

/-- virtio-drivers' `VsockEvent`. -/
structure VsockEvent where
  source : VsockAddr
  destination : VsockAddr
  eventType : VsockEventType
deriving DecidableEq, Repr

/-- `local_port`. -/
def localPort : Nat := 42

/-- The length of the console's `buffer`. -/
def consoleBufferSize : Nat := 8

/-- The length of `recv_buffer`. -/
def recvBufferSize : Nat := 10

/-- What the session does to the console and to the peer, in order:
`vsock.send(peer, local_port, bytes)`, `writeln!` of a text the source spells
out, `"Event: {event:?}"`, `"Event for unexpected source or destination:
{event:?}"`, and `console.write_all(&recv_buffer[0..bytes_read])`. -/
inductive VcatEffect where
  | send (bytes : List UInt8)
  | line (text : String)
  | event (event : VsockEvent)
  | unexpected (event : VsockEvent)
  | bytes (bytes : List UInt8)
deriving DecidableEq, Repr

/-- The session's view of the console and of its connection: the bytes that
reached the console and have not been read, the receive buffer of the
connection in the connection manager, and what the session has done. -/
structure VcatState where
  pending : List UInt8
  received : List UInt8
  effects : List VcatEffect
deriving DecidableEq, Repr

/-- The state when the loop starts. -/
def VcatState.initial : VcatState := ⟨[], [], []⟩

/-- What one round of the loop meets: the bytes that reached the console
since the last round; how many bytes the UART driver's `read` hands over when
some are ready (embedded-io's `Read` gives at least one, and no more than fit
in `buffer`); whether the connection manager accepts the round's `send`; and
what `vsock.poll()` returns. -/
structure VcatTick where
  arrived : List UInt8
  bytesRead : {count : Nat // 0 < count ∧ count ≤ consoleBufferSize}
  sendAccepted : Bool
  polled : Option VsockEvent
deriving DecidableEq, Repr

/-- The event belongs to the session's connection:
`event.destination.port == local_port && event.source == peer`. -/
def VsockEvent.Ours (peer : VsockAddr) (event : VsockEvent) : Prop :=
  event.destination.port = localPort ∧ event.source = peer

instance (peer : VsockAddr) (event : VsockEvent) : Decidable (event.Ours peer) :=
  inferInstanceAs (Decidable (_ ∧ _))

/-- The bytes an event brings. -/
def VsockEventType.payload : VsockEventType → List UInt8
  | .received data => data
  | _ => []

namespace VcatState

/-- `writeln!` or `write_all` to the console. -/
def write (state : VcatState) (effect : VcatEffect) : VcatState :=
  { state with effects := state.effects ++ [effect] }

/-- The `while` loop of the `Received` arm: `recv` into `recv_buffer` while
the connection has bytes available, and write each piece to the console.
virtio-drivers' `recv` takes as many bytes as fit; each round takes one at
least, so a round for each byte is enough. -/
def drainReceived (state : VcatState) : VcatState :=
  let (pieces, left) := Loop.drain recvBufferSize state.received.length state.received
  { state with received := left, effects := state.effects ++ pieces.map .bytes }

end VcatState

/-- The `if console.read_ready()` part of a round: the bytes ready are read
into `buffer` and sent to the peer. An `.error` holds the state in which
`send(..).unwrap()` panics. -/
def forwardConsole (state : VcatState) (tick : VcatTick) : Except VcatState VcatState :=
  let pending := state.pending ++ tick.arrived
  if pending = [] then .ok { state with pending := pending }
  else
    let bytes := pending.take tick.bytesRead
    let state := { state with pending := pending.drop tick.bytesRead }
    if tick.sendAccepted then .ok (state.write (.send bytes)) else .error state

/-- The `if let Some(event) = vsock.poll()` part of a round. The connection
manager files the bytes of a packet under its connection before it returns
the event. -/
def handleEvent (peer : VsockAddr) (state : VcatState) :
    Option VsockEvent → Loop.Step VcatState VcatState Panic
  | none => .next state
  | some event =>
      if event.Ours peer then
        let state := { state with received := state.received ++ event.eventType.payload }
        match event.eventType with
        | .connected => .next (state.write (.line "Connected."))
        | .disconnected .shutdown => .stop (state.write (.line "Connection shut down."))
        | .disconnected .reset => .stop (state.write (.line "Connection reset."))
        | .received _ => .next state.drainReceived
        | .creditUpdate => .next state
        | _ => .next (state.write (.event event))
      else .next (state.write (.unexpected event))

/-- One round of the `loop` of `vcat`. -/
def vcatStep (peer : VsockAddr) (state : VcatState) (tick : VcatTick) :
    Loop.Step VcatState VcatState Panic :=
  match forwardConsole state tick with
  | .ok state => handleEvent peer state tick.polled
  | .error state => .panic state (.unwrapErr .virtioError)

/-- The loop of `vcat` with `peer`, over the rounds `ticks`. -/
def vcatSession (peer : VsockAddr) (ticks : List VcatTick) :
    Loop.Halt VcatState VcatState Panic × List VcatTick :=
  Loop.run (vcatStep peer) VcatState.initial ticks

/-! ### What the console and the peer are shown -/

/-- The bytes an effect writes to the console from the connection. -/
def VcatEffect.delivered : VcatEffect → List UInt8
  | .bytes data => data
  | _ => []

/-- The bytes an effect sends to the peer. -/
def VcatEffect.sent : VcatEffect → List UInt8
  | .send data => data
  | _ => []

/-- A send carries what one `read` into the 8-byte `buffer` gives, and a
write from the connection what one `recv` into the 10-byte `recv_buffer`
gives; neither is empty. -/
def VcatEffect.Sized : VcatEffect → Prop
  | .send data => 0 < data.length ∧ data.length ≤ consoleBufferSize
  | .bytes data => 0 < data.length ∧ data.length ≤ recvBufferSize
  | _ => True

/-- The bytes the round's event brings on the session's connection. -/
def VcatTick.delivered (peer : VsockAddr) (tick : VcatTick) : List UInt8 :=
  match tick.polled with
  | some event => if event.Ours peer then event.eventType.payload else []
  | none => []

/-- The round's event disconnects the session's connection. -/
def VcatTick.Closes (peer : VsockAddr) (tick : VcatTick) : Prop :=
  ∃ event reason, tick.polled = some event ∧ event.Ours peer ∧
    event.eventType = .disconnected reason

/-- The bytes the peer sent on the connection, over the rounds `ticks`. -/
def deliveredBy (peer : VsockAddr) (ticks : List VcatTick) : List UInt8 :=
  ticks.flatMap (VcatTick.delivered peer)

/-- The bytes typed at the console, over the rounds `ticks`. -/
def arrivedBy (ticks : List VcatTick) : List UInt8 :=
  ticks.flatMap VcatTick.arrived

@[simp] theorem deliveredBy_append_singleton (peer : VsockAddr) (ticks : List VcatTick)
    (tick : VcatTick) :
    deliveredBy peer (ticks ++ [tick]) = deliveredBy peer ticks ++ tick.delivered peer := by
  simp [deliveredBy]

@[simp] theorem arrivedBy_append_singleton (ticks : List VcatTick) (tick : VcatTick) :
    arrivedBy (ticks ++ [tick]) = arrivedBy ticks ++ tick.arrived := by
  simp [arrivedBy]

/-- The state has shown `delivered` on the console and `typed` to the peer:
the connection's receive buffer is empty, the console has written exactly
the bytes `delivered`, the peer has been sent exactly the bytes `typed` but
those still waiting at the console, and every piece is of a size one buffer
holds. -/
structure VcatState.Shows (state : VcatState) (delivered typed : List UInt8) : Prop where
  drained : state.received = []
  shown : state.effects.flatMap VcatEffect.delivered = delivered
  sent : state.effects.flatMap VcatEffect.sent ++ state.pending = typed
  sized : ∀ effect ∈ state.effects, effect.Sized

namespace VcatState

variable {state : VcatState} {delivered typed : List UInt8}

theorem initial_shows : VcatState.initial.Shows [] [] :=
  ⟨rfl, rfl, rfl, nofun⟩

/-- A write of a piece of the right size keeps every piece of the right size. -/
theorem sized_write (sized : ∀ effect ∈ state.effects, effect.Sized) {effect : VcatEffect}
    (sizedNew : effect.Sized) : ∀ effect' ∈ (state.write effect).effects, effect'.Sized := by
  simp only [write, List.mem_append, List.mem_singleton]
  rintro effect' (member | rfl)
  · exact sized effect' member
  · exact sizedNew

/-- Writing a line or an event to the console shows no byte of either stream. -/
theorem Shows.write_line (shows : state.Shows delivered typed) (effect : VcatEffect)
    (noBytes : effect.delivered = []) (noSend : effect.sent = []) (sized : effect.Sized) :
    (state.write effect).Shows delivered typed where
  drained := shows.drained
  shown := by simp [write, shows.shown, noBytes]
  sent := by simp [write, ← shows.sent, noSend]
  sized := sized_write shows.sized sized

/-- The receive loop writes the connection's buffer to the console, in
pieces of at most `recvBufferSize` bytes, and leaves it empty. -/
theorem drainReceived_shows {state : VcatState}
    (shows : { state with received := [] }.Shows delivered typed) :
    state.drainReceived.Shows (delivered ++ state.received) typed := by
  obtain ⟨flattened, emptied, sized⟩ :=
    Loop.drain_spec (by decide : 0 < recvBufferSize) state.received.length state.received le_rfl
  unfold drainReceived
  cases drained : Loop.drain recvBufferSize state.received.length state.received with
  | mk pieces left =>
      simp only [drained] at flattened emptied sized
      refine ⟨emptied, ?_, ?_, ?_⟩
      · -- the pieces, written in order, are the buffer
        simp [List.flatMap_append, ← shows.shown, List.flatMap_map, VcatEffect.delivered,
          ← flattened]
      · simp [List.flatMap_append, ← shows.sent, VcatEffect.sent]
      · simp only [List.mem_append, List.mem_map]
        rintro effect (member | ⟨piece, pieceMember, rfl⟩)
        · exact shows.sized effect member
        · exact sized piece pieceMember

end VcatState

open VcatState

variable {peer : VsockAddr} {state after : VcatState} {tick : VcatTick}
  {delivered typed : List UInt8}

/-! ### One round -/

/-- What reaches the console joins the bytes typed; what is read of it, as
much as the driver hands over, is sent. -/
theorem VcatState.Shows.forwardConsole_ok (shows : state.Shows delivered typed)
    (forwarded : forwardConsole state tick = .ok after) :
    after.Shows delivered (typed ++ tick.arrived) := by
  unfold forwardConsole at forwarded
  by_cases empty : state.pending ++ tick.arrived = []
  · -- `read_ready()` is false: nothing is read
    rw [if_pos empty] at forwarded
    cases forwarded
    exact ⟨shows.drained, shows.shown, by simp [← shows.sent], shows.sized⟩
  · rw [if_neg empty] at forwarded
    by_cases accepted : tick.sendAccepted = true
    · rw [if_pos accepted] at forwarded
      cases forwarded
      have bounds := tick.bytesRead.property
      refine ⟨shows.drained, by simp [write, shows.shown, VcatEffect.delivered], ?_, ?_⟩
      · -- the bytes sent and the bytes left are the bytes read, in order
        simp [write, VcatEffect.sent, ← shows.sent]
      · have ready : 0 < (state.pending ++ tick.arrived).length := List.length_pos_iff.mpr empty
        refine sized_write shows.sized ?_
        simp only [VcatEffect.Sized, List.length_take]
        omega
    · rw [if_neg accepted] at forwarded
      cases forwarded

/-- Where `send` is refused, the round read at least one byte and at most
a buffer's worth, and these bytes are neither sent nor waiting any more. -/
theorem VcatState.Shows.forwardConsole_error (shows : state.Shows delivered typed)
    (forwarded : forwardConsole state tick = .error after) :
    tick.sendAccepted = false ∧ ∃ lost, 0 < lost.length ∧ lost.length ≤ consoleBufferSize ∧
      { after with pending := lost ++ after.pending }.Shows delivered (typed ++ tick.arrived) := by
  unfold forwardConsole at forwarded
  by_cases empty : state.pending ++ tick.arrived = []
  · rw [if_pos empty] at forwarded
    cases forwarded
  · rw [if_neg empty] at forwarded
    by_cases accepted : tick.sendAccepted = true
    · rw [if_pos accepted] at forwarded
      cases forwarded
    · rw [if_neg accepted] at forwarded
      cases forwarded
      have bounds := tick.bytesRead.property
      have ready : 0 < (state.pending ++ tick.arrived).length := List.length_pos_iff.mpr empty
      refine ⟨by simpa using accepted, (state.pending ++ tick.arrived).take tick.bytesRead,
        by simp only [List.length_take]; omega, by simp only [List.length_take]; omega, ?_⟩
      exact ⟨shows.drained, shows.shown, by simp [← shows.sent], shows.sized⟩

theorem handleEvent_ne_panic (peer : VsockAddr) (state : VcatState) (polled : Option VsockEvent)
    (stopped : VcatState) (panic : Panic) :
    handleEvent peer state polled ≠ .panic stopped panic := by
  cases polled with
  | none => nofun
  | some event =>
      simp only [handleEvent]
      split_ifs
      · split <;> nofun
      · nofun

/-- The loop stops at the disconnection of the session's connection, and
only there. -/
theorem handleEvent_stops_iff :
    (∃ after, handleEvent peer state tick.polled = .stop after) ↔ tick.Closes peer := by
  unfold VcatTick.Closes
  cases tick.polled with
  | none => simp [handleEvent]
  | some event =>
      by_cases ours : event.Ours peer
      · cases type : event.eventType with
        | disconnected reason => cases reason <;> simp [handleEvent, ours, type]
        | _ => simp [handleEvent, ours, type]
      · simp [handleEvent, ours]

/-- An event handled without a panic shows the bytes it brings: the
connection manager has filed them, and the receive loop writes them out. -/
theorem VcatState.Shows.handled (shows : state.Shows delivered typed)
    (handled : handleEvent peer state tick.polled = .next after ∨
      handleEvent peer state tick.polled = .stop after) :
    after.Shows (delivered ++ tick.delivered peer) typed := by
  unfold VcatTick.delivered
  obtain ⟨pending, received, effects⟩ := state
  obtain rfl : received = [] := shows.drained
  cases polled : tick.polled with
  | none =>
      simp only [polled, handleEvent, Loop.Step.next.injEq, reduceCtorEq, or_false]
        at handled
      subst handled
      simpa using shows
  | some event =>
      by_cases ours : event.Ours peer
      · cases type : event.eventType with
        | received data =>
            simp [polled, handleEvent, ours, type] at handled
            subst handled
            simpa [ours, type, VsockEventType.payload] using drainReceived_shows shows
        | connected =>
            simp [polled, handleEvent, ours, type, VsockEventType.payload] at handled
            subst handled
            simpa [ours, type, VsockEventType.payload] using
              shows.write_line (.line "Connected.") rfl rfl trivial
        | creditUpdate =>
            simp [polled, handleEvent, ours, type, VsockEventType.payload] at handled
            subst handled
            simpa [ours, type, VsockEventType.payload] using shows
        | disconnected reason =>
            cases reason with
            | shutdown =>
                simp [polled, handleEvent, ours, type, VsockEventType.payload] at handled
                subst handled
                simpa [ours, type, VsockEventType.payload] using
                  shows.write_line (.line "Connection shut down.") rfl rfl trivial
            | reset =>
                simp [polled, handleEvent, ours, type, VsockEventType.payload] at handled
                subst handled
                simpa [ours, type, VsockEventType.payload] using
                  shows.write_line (.line "Connection reset.") rfl rfl trivial
        | connectionRequest | creditRequest =>
            simp [polled, handleEvent, ours, type, VsockEventType.payload] at handled
            subst handled
            simpa [ours, type, VsockEventType.payload] using
              shows.write_line (.event event) rfl rfl trivial
      · simp [polled, handleEvent, ours] at handled
        subst handled
        simpa [ours] using shows.write_line (.unexpected event) rfl rfl trivial

/-- An event that carries on shows the bytes it brings, and is not the
disconnection of the session's connection. -/
theorem VcatState.Shows.handleEvent_next (shows : state.Shows delivered typed)
    (handled : handleEvent peer state tick.polled = .next after) :
    after.Shows (delivered ++ tick.delivered peer) typed ∧ ¬ tick.Closes peer := by
  refine ⟨shows.handled (.inl handled), fun closes => ?_⟩
  obtain ⟨stopped, stops⟩ := handleEvent_stops_iff.mpr closes
  rw [handled] at stops
  cases stops

/-- The disconnection of the session's connection writes its line and
shows no byte more. -/
theorem VcatState.Shows.handleEvent_stop (shows : state.Shows delivered typed)
    (handled : handleEvent peer state tick.polled = .stop after) :
    after.Shows (delivered ++ tick.delivered peer) typed ∧ tick.Closes peer :=
  ⟨shows.handled (.inr handled), handleEvent_stops_iff.mp ⟨after, handled⟩⟩

/-! ### Whole sessions -/

/-- After the rounds `consumed`, the session is still open: the console has
shown exactly the bytes the peer sent on the connection and the peer has been
sent exactly the bytes typed, in order, but those still waiting at the
console; and no round has disconnected. -/
def SessionOpen (peer : VsockAddr) (consumed : List VcatTick) (state : VcatState) : Prop :=
  state.Shows (deliveredBy peer consumed) (arrivedBy consumed) ∧
    ∀ tick ∈ consumed, ¬ tick.Closes peer

/-- The session returned at the end of the rounds `consumed`: the last of
them, and none before, disconnected the connection, and both streams are
shown as in `SessionOpen`. -/
def SessionClosed (peer : VsockAddr) (consumed : List VcatTick) (state : VcatState) : Prop :=
  state.Shows (deliveredBy peer consumed) (arrivedBy consumed) ∧
    ∃ earlier last, consumed = earlier ++ [last] ∧ (∀ tick ∈ earlier, ¬ tick.Closes peer) ∧
      last.Closes peer

/-- The session panicked in the last of the rounds `consumed`, unwrapping the
refusal of its `send`, before it polled: the console has shown the bytes of
the rounds before, and the bytes read in the last round, one at least and a
buffer's worth at most, are lost between the bytes sent and those waiting. -/
def SessionRefused (peer : VsockAddr) (consumed : List VcatTick) (state : VcatState)
    (panic : Panic) : Prop :=
  panic = .unwrapErr .virtioError ∧
    ∃ earlier last, consumed = earlier ++ [last] ∧ (∀ tick ∈ earlier, ¬ tick.Closes peer) ∧
      last.sendAccepted = false ∧ ∃ lost, 0 < lost.length ∧ lost.length ≤ consoleBufferSize ∧
        { state with pending := lost ++ state.pending }.Shows (deliveredBy peer earlier)
          (arrivedBy consumed)

variable {consumed : List VcatTick}

theorem sessionOpen_initial (peer : VsockAddr) : SessionOpen peer [] VcatState.initial :=
  ⟨initial_shows, nofun⟩

theorem SessionOpen.vcatStep_next (opened : SessionOpen peer consumed state)
    (stepped : vcatStep peer state tick = .next after) :
    SessionOpen peer (consumed ++ [tick]) after := by
  obtain ⟨shows, stillOpen⟩ := opened
  unfold vcatStep at stepped
  cases forwarded : forwardConsole state tick with
  | error stopped =>
      rw [forwarded] at stepped
      cases stepped
  | ok sent =>
      rw [forwarded] at stepped
      obtain ⟨shows', notClosed⟩ := (shows.forwardConsole_ok forwarded).handleEvent_next stepped
      refine ⟨by simpa using shows', ?_⟩
      simp only [List.mem_append, List.mem_singleton]
      rintro earlier (member | rfl)
      · exact stillOpen earlier member
      · exact notClosed

theorem SessionOpen.vcatStep_stop (opened : SessionOpen peer consumed state)
    (stepped : vcatStep peer state tick = .stop after) :
    SessionClosed peer (consumed ++ [tick]) after := by
  obtain ⟨shows, stillOpen⟩ := opened
  unfold vcatStep at stepped
  cases forwarded : forwardConsole state tick with
  | error stopped =>
      rw [forwarded] at stepped
      cases stepped
  | ok sent =>
      rw [forwarded] at stepped
      obtain ⟨shows', closed⟩ := (shows.forwardConsole_ok forwarded).handleEvent_stop stepped
      exact ⟨by simpa using shows', consumed, tick, rfl, stillOpen, closed⟩

theorem SessionOpen.vcatStep_panic (opened : SessionOpen peer consumed state) {panic : Panic}
    (stepped : vcatStep peer state tick = .panic after panic) :
    SessionRefused peer (consumed ++ [tick]) after panic := by
  obtain ⟨shows, stillOpen⟩ := opened
  unfold vcatStep at stepped
  cases forwarded : forwardConsole state tick with
  | error stopped =>
      rw [forwarded] at stepped
      cases stepped
      obtain ⟨refused, lost, nonempty, fits, shows'⟩ := shows.forwardConsole_error forwarded
      exact ⟨rfl, consumed, tick, rfl, stillOpen, refused, lost, nonempty, fits,
        by simpa using shows'⟩
  | ok sent =>
      rw [forwarded] at stepped
      exact absurd stepped (handleEvent_ne_panic peer sent tick.polled after panic)

/-- **The session streams both ways.** Over any rounds, the session reads a
first part of them and stands in one of three ways: still open, with the
console showing exactly the bytes the peer sent on the connection and the
peer sent exactly the bytes typed, in order, none lost and none repeated;
returned at the first disconnection of its connection, with the same; or
panicked on a refused send, with the bytes of that one read lost. The
console's `read_ready` and `read`, and the vsock's `poll`,
`recv_buffer_available_bytes` and `recv`, are taken to succeed, and the
console's writes too; only `send` may fail. -/
theorem vcatSession_streams (peer : VsockAddr) (ticks : List VcatTick) :
    ∃ consumed, ticks = consumed ++ (vcatSession peer ticks).2 ∧
      (vcatSession peer ticks).1.Holds (SessionOpen peer consumed) (SessionClosed peer consumed)
        (SessionRefused peer consumed) := by
  have next : ∀ read state tick after, SessionOpen peer read state →
      vcatStep peer state tick = .next after → SessionOpen peer (read ++ [tick]) after :=
    fun _ _ _ _ opened stepped => opened.vcatStep_next stepped
  have stop : ∀ read state tick after, SessionOpen peer read state →
      vcatStep peer state tick = .stop after → SessionClosed peer (read ++ [tick]) after :=
    fun _ _ _ _ opened stepped => opened.vcatStep_stop stepped
  have panic : ∀ read state tick after panic, SessionOpen peer read state →
      vcatStep peer state tick = .panic after panic →
        SessionRefused peer (read ++ [tick]) after panic :=
    fun _ _ _ _ _ opened stepped => opened.vcatStep_panic stepped
  obtain ⟨consumed, split, holds⟩ := Loop.run_trace next stop panic ticks (sessionOpen_initial peer)
  simp only [List.nil_append] at holds
  exact ⟨consumed, split, holds⟩

-- "hi" typed, twelve bytes received in two pieces, then the peer shuts down;
-- the fourth round is never read
example :
    let peer : VsockAddr := ⟨3, 1234⟩
    let ours : VsockEventType → Option VsockEvent := fun eventType => some ⟨peer, ⟨2, 42⟩, eventType⟩
    let ticks : List VcatTick :=
      [⟨[0x68, 0x69], ⟨8, by decide⟩, true, ours .connected⟩,
        ⟨[], ⟨8, by decide⟩, true, ours (.received (List.replicate 12 0x61))⟩,
        ⟨[], ⟨8, by decide⟩, true, ours (.disconnected .shutdown)⟩,
        ⟨[0x21], ⟨8, by decide⟩, true, none⟩]
    vcatSession peer ticks =
      (.returned ⟨[], [], [.send [0x68, 0x69], .line "Connected.",
        .bytes (List.replicate 10 0x61), .bytes (List.replicate 2 0x61),
        .line "Connection shut down."]⟩, [⟨[0x21], ⟨8, by decide⟩, true, none⟩]) := by
  decide

end Osdemo.Shell
