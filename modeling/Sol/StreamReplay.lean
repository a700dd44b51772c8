import Sol.ClientStreams
import Sol.Machine

/-!
# Clients follow the server

What a client took from its queue, and what is still in it, is the initial burst of
events at the time it joined and then all events since, so that it leads to the state
of the server.  The burst leads to the state that it was made from because the maps of
the state hold everything under its own id, which every event preserves.

* `applyAll_replicate`: the events of `replicate` lead to the replicated state;
* `sendEvent_eq`: an event reaches the streams that have room for it, once each;
* `clients_follow`: what holds after any number of steps.
-/

namespace Sol.Ipc

open Panicking Tables

/-! ### Everything under its own id -/

theorem WorkspacesState.keyed_apply {self : WorkspacesState} (h : Tables.Keyed Workspace.id self)
    (event : Event) : Ensures (self.apply event) (Tables.Keyed Workspace.id) := by
  cases event with
  | workspacesChanged workspaces => exact ensures_pure.mpr (keyed_table _ _)
  | workspaceUrgencyChanged id urgent =>
    refine ensures_pure.mpr (h.map fun k ws => ?_)
    split_ifs <;> rfl
  | workspaceActivated id focused =>
    exact ensures_bind.mpr fun ws _ => ensures_pure.mpr (h.map fun _ _ => rfl)
  | workspaceActiveWindowChanged workspaceId activeWindowId =>
    exact ensures_bind.mpr fun ws _ => ensures_pure.mpr (h.modify _ fun _ => rfl)

theorem WindowsState.keyed_changeLayouts {self : WindowsState} (h : Tables.Keyed Window.id self)
    (changes : List (ℕ × WindowLayout)) :
    Ensures (self.changeLayouts changes) (Tables.Keyed Window.id) := by
  induction changes generalizing self with
  | nil => exact ensures_pure.mpr h
  | cons change changes ih =>
    exact ensures_bind.mpr fun win _ => ih (h.modify _ fun _ => rfl)

theorem WindowsState.keyed_apply {self : WindowsState} (h : Tables.Keyed Window.id self)
    (event : WindowEvent) : Ensures (self.apply event) (Tables.Keyed Window.id) := by
  cases event with
  | windowsChanged windows => exact ensures_pure.mpr (keyed_table _ _)
  | windowOpenedOrChanged window =>
    have hinsert : Tables.Keyed Window.id (self.insert window.id window) := h.insert rfl
    refine ensures_pure.mpr ?_
    split_ifs
    · refine hinsert.map fun k win => ?_
      split_ifs <;> rfl
    · exact hinsert
  | windowClosed id => exact ensures_bind.mpr fun win _ => ensures_pure.mpr (h.erase id)
  | windowFocusChanged id => exact ensures_pure.mpr (h.map fun _ _ => rfl)
  | windowFocusTimestampChanged id time =>
    refine ensures_pure.mpr (h.map fun k win => ?_)
    split_ifs <;> rfl
  | windowUrgencyChanged id urgent =>
    refine ensures_pure.mpr (h.map fun k win => ?_)
    split_ifs <;> rfl
  | windowLayoutsChanged changes => exact WindowsState.keyed_changeLayouts h changes

namespace EventStreamState

variable {self state : EventStreamState} {order : Order}

/-- The maps of the state hold everything under its own id. -/
structure Keyed (state : EventStreamState) : Prop where
  workspaces : Tables.Keyed Workspace.id state.workspaces
  windows : Tables.Keyed Window.id state.windows
  casts : Tables.Keyed Cast.streamId state.casts

theorem keyed_default : Keyed default := ⟨keyed_empty, keyed_empty, keyed_empty⟩

theorem next_workspaces (event : Event) : self.next (.workspaces event) = (do
    let workspaces ← self.workspaces.apply event
    pure { self with workspaces }) := by
  change (((self.workspaces.apply event >>= fun self => pure (self, none)) >>= _) >>= _) = _
  cases self.workspaces.apply event <;> rfl

theorem next_windows (event : WindowEvent) : self.next (.windows event) = (do
    let windows ← self.windows.apply event
    pure { self with windows }) := by
  change (((self.windows.apply event >>= fun self => pure (self, none)) >>= _) >>= _) = _
  cases self.windows.apply event <;> rfl

theorem next_keyboardLayoutSwitched (idx : ℕ) : self.next (.keyboardLayoutSwitched idx) = (do
    let kb ← expect "keyboard layouts must be set before a layout can be switched"
      self.keyboardLayouts.keyboardLayouts
    pure { self with keyboardLayouts := { keyboardLayouts := some { kb with currentIdx := idx } } })
    := by
  obtain ⟨workspaces, windows, ⟨keyboardLayouts⟩, overview, config, casts⟩ := self
  cases keyboardLayouts <;> rfl

theorem next_castStopped (streamId : ℕ) : self.next (.castStopped streamId) = (do
    let _ ← expect "stopped cast was missing from the map" self.casts[streamId]?
    pure { self with casts := self.casts.erase streamId }) := by
  change (((expect "stopped cast was missing from the map" self.casts[streamId]? >>= fun _ =>
    pure (self.casts.erase streamId, none)) >>= _) >>= _) = _
  cases self.casts[streamId]? <;> rfl

theorem keyed_next (h : self.Keyed) (event : StreamEvent) : Ensures (self.next event) Keyed := by
  cases event with
  | workspaces event =>
    rw [next_workspaces]
    exact ensures_bind.mpr ((WorkspacesState.keyed_apply h.workspaces event).mono
      fun workspaces hkeyed => ensures_pure.mpr ⟨hkeyed, h.windows, h.casts⟩)
  | windows event =>
    rw [next_windows]
    exact ensures_bind.mpr ((WindowsState.keyed_apply h.windows event).mono
      fun windows hkeyed => ensures_pure.mpr ⟨h.workspaces, hkeyed, h.casts⟩)
  | keyboardLayoutSwitched idx =>
    rw [next_keyboardLayoutSwitched]
    exact ensures_bind.mpr fun kb _ => ensures_pure.mpr ⟨h.workspaces, h.windows, h.casts⟩
  | castStopped streamId =>
    rw [next_castStopped]
    exact ensures_bind.mpr fun cast _ =>
      ensures_pure.mpr ⟨h.workspaces, h.windows, h.casts.erase streamId⟩
  | castsChanged casts => exact ensures_ok.mpr ⟨h.workspaces, h.windows, keyed_table _ _⟩
  | castStartedOrChanged cast => exact ensures_ok.mpr ⟨h.workspaces, h.windows, h.casts.insert rfl⟩
  -- the others leave the maps alone
  | keyboardLayoutsChanged _ => exact ensures_ok.mpr ⟨h.workspaces, h.windows, h.casts⟩
  | overviewOpenedOrClosed _ => exact ensures_ok.mpr ⟨h.workspaces, h.windows, h.casts⟩
  | configLoaded _ => exact ensures_ok.mpr ⟨h.workspaces, h.windows, h.casts⟩
  | screenshotCaptured _ => exact ensures_ok.mpr ⟨h.workspaces, h.windows, h.casts⟩

theorem applyAll_append (events events' : List StreamEvent) :
    self.applyAll (events ++ events') = self.applyAll events >>= (·.applyAll events') :=
  List.foldlM_append

theorem keyed_applyAll (h : self.Keyed) (events : List StreamEvent) :
    Ensures (self.applyAll events) Keyed := by
  induction events generalizing self with
  | nil => exact ensures_pure.mpr h
  | cons event events ih =>
    exact ensures_bind.mpr ((keyed_next h event).mono fun next hnext => ih hnext)

/-- The order lists the entries of every map of the state. -/
structure Lists (order : Order) (state : EventStreamState) : Prop where
  workspaces : order.workspaces.Perm state.workspaces.keys
  windows : order.windows.Perm state.windows.keys
  casts : order.casts.Perm state.casts.keys

/-- The events of `replicate` lead to the replicated state. -/
theorem applyAll_replicate (h : self.Keyed) (horder : Lists order self) :
    default.applyAll (self.replicate order) = .ok self := by
  obtain ⟨workspaces, windows, ⟨keyboardLayouts⟩, overview, config, casts⟩ := self
  have hworkspaces : table Workspace.id id (values workspaces order.workspaces) = workspaces :=
    h.workspaces.table_values horder.workspaces
  have hwindows : table Window.id id (values windows order.windows) = windows :=
    h.windows.table_values horder.windows
  have hcasts : table Cast.streamId id (values casts order.casts) = casts :=
    h.casts.table_values horder.casts
  have hreplayed : default.applyAll
      (replicate ⟨workspaces, windows, ⟨keyboardLayouts⟩, overview, config, casts⟩ order) =
      .ok ⟨table Workspace.id id (values workspaces order.workspaces),
        table Window.id id (values windows order.windows), ⟨keyboardLayouts⟩, overview, config,
        table Cast.streamId id (values casts order.casts)⟩ := by
    cases keyboardLayouts <;> rfl
  rw [hreplayed, hworkspaces, hwindows, hcasts]

theorem length_replicate (state : EventStreamState) (order : Order) :
    (state.replicate order).length ≤ eventStreamBufferSize := by
  obtain ⟨workspaces, windows, ⟨keyboardLayouts⟩, overview, config, casts⟩ := state
  cases keyboardLayouts with
  | none => exact Nat.le_of_ble_eq_true rfl
  | some kb => exact Nat.le_of_ble_eq_true rfl

end EventStreamState

open EventStreamState

/-! ### Sending -/

namespace EventStream

variable {stream stream' : EventStream} {event : StreamEvent}

/-- Whether the stream has room for an event. -/
def Open (stream : EventStream) : Prop :=
  stream.closed = false ∧ stream.queued.length < eventStreamBufferSize

instance : DecidablePred Open := fun _ => inferInstanceAs (Decidable (_ ∧ _))

/-- The stream with one more event. -/
def push (event : StreamEvent) (stream : EventStream) : EventStream :=
  { stream with queued := stream.queued ++ [event] }

theorem trySend_of_open (h : stream.Open) : stream.trySend event = .ok (stream.push event) := by
  unfold trySend
  rw [if_neg (by simp [h.1]), if_neg (Nat.not_le.mpr h.2)]
  rfl

theorem attempt_eq (event : StreamEvent) (stream : EventStream) :
    IpcServer.attempt event stream =
      if stream.Open then (stream.push event, false) else (stream, true) := by
  unfold IpcServer.attempt
  split_ifs with hopen
  · rw [trySend_of_open hopen]
  · unfold trySend
    by_cases hclosed : stream.closed = true
    · rw [if_pos hclosed]
    · have hfull : eventStreamBufferSize ≤ stream.queued.length :=
        Nat.not_lt.mp fun hlt => hopen ⟨by simpa using hclosed, hlt⟩
      rw [if_neg hclosed, if_pos hfull]

end EventStream

namespace IpcServer

variable {self server : IpcServer} {event : StreamEvent} {client : ℕ} {order : Order}

/-- An event reaches the streams that have room for it, once each; the others are
removed. -/
theorem sendEvent_eq (self : IpcServer) (event : StreamEvent) :
    ∃ eventStreams, self.sendEvent event =
        .ok { self with eventStreams, sent := self.sent ++ [event] } ∧
      eventStreams.Perm
        ((self.eventStreams.filter (·.Open)).map (EventStream.push event)) := by
  obtain ⟨eventStreams, hremove, hperm⟩ := Vec.foldlM_swapRemove
    (fun a : EventStream × Bool => a.2) (·.1) (self.eventStreams.map (attempt event)) []
  refine ⟨eventStreams, ?_, ?_⟩
  · unfold sendEvent
    rw [List.append_nil] at hremove
    simp only [hremove]
    rfl
  · have hleft : ((self.eventStreams.map (attempt event)).filter fun a => !a.2).map (·.1) =
        (self.eventStreams.filter (·.Open)).map (EventStream.push event) := by
      induction self.eventStreams with
      | nil => rfl
      | cons stream streams ih =>
        rw [List.map_cons, List.filter_cons, EventStream.attempt_eq]
        by_cases hopen : stream.Open
        · simpa [hopen] using ih
        · simpa [hopen] using ih
    rw [List.append_nil, hleft] at hperm
    exact hperm

theorem burst_eq {stream : EventStream} {events : List StreamEvent} (hclosed : stream.closed = false)
    (hlen : stream.queued.length + events.length ≤ eventStreamBufferSize) :
    burst stream events = .ok { stream with queued := stream.queued ++ events } := by
  induction events generalizing stream with
  | nil =>
    rw [List.append_nil]
    rfl
  | cons event events ih =>
    rw [List.length_cons] at hlen
    have hopen : stream.Open := ⟨hclosed, by omega⟩
    have hrest := @ih (stream.push event) hclosed (by
      simp only [EventStream.push, List.length_append, List.length_singleton]
      omega)
    unfold burst
    rw [EventStream.trySend_of_open hopen]
    refine hrest.trans ?_
    simp [EventStream.push]

/-- A client joins with the initial burst in its queue. -/
theorem handleClient_eq (self : IpcServer) (client : ℕ) (order : Order) :
    self.handleClient client order = .ok { self with
      eventStreams := self.eventStreams ++ [{
        client, taken := [], queued := self.eventStreamState.replicate order, closed := false
        since := self.sent.length }] } := by
  unfold handleClient
  simp only
  rw [burst_eq rfl (by simpa using length_replicate self.eventStreamState order)]
  rfl

/-! ### What every client gets -/

/-- The stream holds the burst of the time its client joined and all events since. -/
structure Follows (server : IpcServer) (stream : EventStream) : Prop where
  since_le : stream.since ≤ server.sent.length
  joined : ∃ state order, default.applyAll (server.sent.take stream.since) = .ok state ∧
    Lists order state ∧
    stream.taken ++ stream.queued = state.replicate order ++ server.sent.drop stream.since

/-- The state of the server is that of its events, and all streams follow it. -/
structure Inv (server : IpcServer) : Prop where
  state : default.applyAll server.sent = .ok server.eventStreamState
  follows : ∀ stream ∈ server.eventStreams, server.Follows stream

theorem Inv.keyed (h : server.Inv) : server.eventStreamState.Keyed :=
  keyed_applyAll keyed_default _ _ h.state

/-- What a following stream holds leads to the state of the server. -/
theorem Inv.applyAll_stream (h : server.Inv) {stream : EventStream}
    (hstream : stream ∈ server.eventStreams) :
    default.applyAll (stream.taken ++ stream.queued) = .ok server.eventStreamState := by
  obtain ⟨state, order, hstate, horder, hevents⟩ := (h.follows stream hstream).joined
  have hkeyed : state.Keyed := keyed_applyAll keyed_default _ _ hstate
  have hall := h.state
  rw [← List.take_append_drop stream.since server.sent, applyAll_append, hstate] at hall
  rw [hevents, applyAll_append, applyAll_replicate hkeyed horder]
  exact hall

/-- One more event, which the stream gets. -/
theorem Follows.push {stream : EventStream} (h : server.Follows stream) {state : EventStreamState}
    {eventStreams : List EventStream} (event : StreamEvent) :
    Follows ⟨eventStreams, state, server.sent ++ [event]⟩ (stream.push event) := by
  obtain ⟨joined, order, hjoined, horder, hevents⟩ := h.joined
  refine ⟨?_, joined, order, ?_, horder, ?_⟩
  · rw [List.length_append]
    exact h.since_le.trans (Nat.le_add_right _ _)
  · rw [← hjoined]
    exact congrArg _ (List.take_append_of_le_length h.since_le)
  · change stream.taken ++ (stream.queued ++ [event]) = _
    rw [← List.append_assoc, hevents, List.append_assoc]
    exact congrArg _ (List.drop_append_of_le_length h.since_le).symm

theorem Inv.update (h : server.Inv) (event : StreamEvent) : Ensures (server.update event) Inv := by
  refine ensures_bind.mpr fun state hstate => ?_
  obtain ⟨eventStreams, hsend, hperm⟩ :=
    sendEvent_eq { server with eventStreamState := state } event
  rw [hsend]
  refine ensures_ok.mpr ⟨?_, fun stream hstream => ?_⟩
  · rw [applyAll_append, h.state]
    change (server.eventStreamState.next event >>= pure) = _
    rw [bind_pure, hstate]
  · obtain ⟨stream, hmem, rfl⟩ := List.mem_map.mp (hperm.mem_iff.mp hstream)
    exact (h.follows stream (List.mem_of_mem_filter hmem)).push event

theorem Inv.handleClient (h : server.Inv) (client : ℕ) {order : Order}
    (horder : Lists order server.eventStreamState) :
    Ensures (server.handleClient client order) Inv := by
  rw [handleClient_eq]
  refine ensures_ok.mpr ⟨h.state, fun stream hstream => ?_⟩
  rcases List.mem_append.mp hstream with hold | hnew
  · obtain ⟨hsince, hjoined⟩ := h.follows stream hold
    exact ⟨hsince, hjoined⟩
  · obtain rfl := List.mem_singleton.mp hnew
    refine ⟨le_rfl, server.eventStreamState, order, ?_, horder, ?_⟩
    · simpa using h.state
    · simp

/-- What a client does to its queue. -/
theorem Inv.onClient (h : server.Inv) (client : ℕ) {f : EventStream → EventStream}
    (hsince : ∀ stream, (f stream).since = stream.since)
    (hevents : ∀ stream, (f stream).taken ++ (f stream).queued = stream.taken ++ stream.queued) :
    (server.onClient client f).Inv := by
  refine ⟨h.state, fun stream hstream => ?_⟩
  obtain ⟨stream, hmem, rfl⟩ := List.mem_map.mp hstream
  obtain ⟨hle, joined, order, hjoined, horder, hall⟩ := h.follows stream hmem
  split_ifs
  · refine ⟨(hsince stream).trans_le hle, joined, order, ?_, horder, ?_⟩
    · rw [hsince]
      exact hjoined
    · rw [hevents, hsince]
      exact hall
  · exact ⟨hle, joined, order, hjoined, horder, hall⟩

end IpcServer

theorem EventStream.recv_events (stream : EventStream) :
    stream.recv.taken ++ stream.recv.queued = stream.taken ++ stream.queued := by
  unfold EventStream.recv
  split
  · rfl
  · rename_i event queued hqueued
    simp [hqueued]

theorem EventStream.recv_since (stream : EventStream) : stream.recv.since = stream.since := by
  unfold EventStream.recv
  split <;> rfl

/-! ### All interleavings -/

/-- What happens to the server and its clients. -/
inductive StreamAction
  | update (event : StreamEvent)
  | handleClient (client : ℕ) (order : Order)
  | recv (client : ℕ)
  | close (client : ℕ)

namespace StreamAction

/-- A client joins once, and the maps of the state list their entries in some order. -/
def Allowed (server : IpcServer) : StreamAction → Prop
  | .handleClient client order =>
    client ∉ server.eventStreams.map (·.client) ∧ Lists order server.eventStreamState
  | _ => True

def step (server : IpcServer) : StreamAction → Outcome IpcServer
  | .update event => server.update event
  | .handleClient client order => server.handleClient client order
  | .recv client => pure (server.onClient client EventStream.recv)
  | .close client => pure (server.onClient client EventStream.close)

end StreamAction

/-- The server and its clients, at first none. -/
def streamServer : Machine IpcServer StreamAction where
  initial server := server = ⟨[], default, []⟩
  step := StreamAction.step

theorem streamServer_inv {server : IpcServer}
    (h : streamServer.ReachableBy StreamAction.Allowed server) : server.Inv := by
  refine h.invariant ?_ ?_
  · rintro _ rfl
    exact ⟨rfl, by simp⟩
  · intro server action hinv hallowed
    cases action with
    | update event => exact hinv.update event
    | handleClient client order => exact hinv.handleClient client hallowed.2
    | recv client =>
      exact ensures_pure.mpr
        (hinv.onClient client EventStream.recv_since EventStream.recv_events)
    | close client => exact ensures_pure.mpr (hinv.onClient client (fun _ => rfl) fun _ => rfl)

/-- After any steps of the server and its clients, in any order: what a connected client
took and what is queued for it is the burst at its time of joining with all events
since, and leads to the server's state; a fresh burst leads there as well; and the next
event reaches exactly the streams that have room for it. -/
theorem clients_follow {server : IpcServer}
    (h : streamServer.ReachableBy StreamAction.Allowed server) :
    (∀ stream ∈ server.eventStreams,
      default.applyAll (stream.taken ++ stream.queued) = .ok server.eventStreamState ∧
      ∃ state order, default.applyAll (server.sent.take stream.since) = .ok state ∧
        Lists order state ∧
        stream.taken ++ stream.queued = state.replicate order ++ server.sent.drop stream.since) ∧
    (∀ order, Lists order server.eventStreamState →
      default.applyAll (server.eventStreamState.replicate order) = .ok server.eventStreamState) ∧
    ∀ event, ∃ eventStreams,
      server.sendEvent event = .ok { server with eventStreams, sent := server.sent ++ [event] } ∧
      eventStreams.Perm
        ((server.eventStreams.filter (·.Open)).map (EventStream.push event)) := by
  have hinv := streamServer_inv h
  refine ⟨fun stream hstream => ⟨hinv.applyAll_stream hstream, ?_⟩, ?_, server.sendEvent_eq⟩
  · exact (hinv.follows stream hstream).joined
  · exact fun order horder => applyAll_replicate hinv.keyed horder

/-! ### A concrete run -/

namespace Sample

/-- A client joined, the config failed to load, and the client read one event. -/
def followed : IpcServer where
  eventStreams := [{
    client := 7
    taken := [.workspaces (.workspacesChanged [])]
    queued := [.windows (.windowsChanged []), .overviewOpenedOrClosed false, .configLoaded false,
      .castsChanged [], .configLoaded true]
    closed := false
    since := 0 }]
  eventStreamState := { default with config := { failed := true } }
  sent := [.configLoaded true]

theorem followed_reachable : streamServer.ReachableBy StreamAction.Allowed followed := by
  have hlists : Lists ⟨[], [], []⟩ default := ⟨by decide, by decide, by decide⟩
  refine .step (.step (.step (.initial rfl) (.handleClient 7 ⟨[], [], []⟩)
    ⟨by simp, hlists⟩ rfl) (.update (.configLoaded true)) trivial rfl) (.recv 7) trivial rfl

end Sample

open Sample in
theorem clients_follow_one :
    (∀ stream ∈ followed.eventStreams,
      default.applyAll (stream.taken ++ stream.queued) =
        .ok { default with config := { failed := true } }) ∧
    followed.eventStreams.length = 1 :=
  ⟨fun stream hstream => ((clients_follow followed_reachable).1 stream hstream).1, rfl⟩

end Sol.Ipc
