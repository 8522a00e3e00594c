import CallManager.Types
import CallManager.Library.Run

/-!
# The connection of the call UI

The call manager connects the service of the call UI through the ability manager, which
answers later: `OnAbilityConnectDone` and `OnAbilityDisconnectDone`. `CallConnectAbility`
keeps three flags, and a request that comes while the opposite one is under way is left
to the answer: a connection that is asked for while `isDisconnecting_` is made when that
flag is reset, and the other way round. A disconnection waits up to a second for the
connection. Connections are asked for by `ConnectCallUiService` (a broadcast, or the
applications that preload the UI), after a change of the user and for Bluetooth calls;
disconnections by delayed tasks.

No lock covers a whole function. What is said here is said of runs in which a function
runs to its end before another one begins, but for the wait of a disconnection, and for a
connection and a disconnection that cross: each sets its flag before either reads that of
the other, and both return. The ability manager answers a request at most once, in any order
and with any result. The numbers of requests without an answer, of threads that wait, and
of all connections asked for are not part of the code.

Results:
* `backed_iff`: over every run, a flag that is set has a request or a thread under way
  that resets it iff no connection fails that a flag waits for, nothing is disconnected
  whose callback is gone, and no connection and disconnection cross with nothing under way.
* `dead_iff`: after every run, the UI is never asked for again, whatever happens, iff
  both flags are set while nothing is connected and nothing is under way.
* `dead_of_failed`, `UiWorld.dead_of_crossing`: a failed connection and the delayed
  disconnection lead there, and so does such a crossing with nothing under way.

**Deviation.** `OnAbilityConnectDone` leaves `isConnecting_` set when the connection
failed, so that a later disconnection waits for an answer that has come already.
-/

namespace CallManager

namespace CallUiConnection

/-! ## Model -/

/-- `CallConnectAbility` (call_connect_ability.h:31-53), with the requests that the ability
    manager has not answered, the threads in `WaitForConnectResult`, and the number of
    connections asked for so far. -/
structure CallConnectAbility where
  isConnected : Bool
  isConnecting : Bool
  isDisconnecting : Bool
  connectCallback : Bool
  connects : ℕ
  disconnects : ℕ
  waiting : ℕ
  asked : ℕ
  deriving DecidableEq, Repr

/-- What the calls of a step find: whether the ability manager takes a request, and
    `HasCallExist`. -/
structure Surroundings where
  connectOk : Bool
  disconnectOk : Bool
  hasCall : Bool

namespace CallConnectAbility

variable (s : Surroundings)

/-! The functions call one another; the number is how deep they may. -/

mutual

/-- `ConnectAbility` (call_connect_ability.cpp:35-64). -/
def connectAbility : ℕ → CallConnectAbility → CallConnectAbility
  | 0, a => a
  | depth + 1, a =>
    let a := setConnectingFlag true depth a
    if a.isDisconnecting then a
    else if a.isConnected then setConnectingFlag false depth a
    else
      let a := { a with connectCallback := true, asked := a.asked + 1 }
      if s.connectOk then { a with connects := a.connects + 1 }
      else setConnectingFlag false depth a

/-- `DisconnectAbility` up to its wait (call_connect_ability.cpp:66-76). -/
def disconnectAbility : ℕ → CallConnectAbility → CallConnectAbility
  | 0, a => a
  | depth + 1, a =>
    let a := setDisconnectingFlag true depth a
    if a.isConnecting then a
    else if a.isConnected then disconnectConnected depth a
    else { a with waiting := a.waiting + 1 }

/-- `DisconnectAbility` after its wait (call_connect_ability.cpp:77-88). -/
def disconnectConnected : ℕ → CallConnectAbility → CallConnectAbility
  | 0, a => a
  | depth + 1, a =>
    if a.connectCallback then
      let a :=
        if s.disconnectOk then { a with disconnects := a.disconnects + 1 }
        else setDisconnectingFlag false depth a
      { a with connectCallback := false }
    else a

/-- `SetDisconnectingFlag` (call_connect_ability.cpp:101-108). -/
def setDisconnectingFlag (isDisconnecting : Bool) : ℕ → CallConnectAbility → CallConnectAbility
  | 0, a => a
  | depth + 1, a =>
    let a := { a with isDisconnecting := isDisconnecting }
    if !isDisconnecting && a.isConnecting then connectAbility depth a else a

/-- `SetConnectingFlag` (call_connect_ability.cpp:110-122). -/
def setConnectingFlag (isConnecting : Bool) : ℕ → CallConnectAbility → CallConnectAbility
  | 0, a => a
  | depth + 1, a =>
    let a := { a with isConnecting := isConnecting }
    if !isConnecting && a.isDisconnecting then
      if s.hasCall then setDisconnectingFlag false depth a else disconnectAbility depth a
    else a

end

/-- No call goes deeper. -/
def callDepth : ℕ := 6

variable {s} {a : CallConnectAbility} (depth : ℕ)

theorem connectAbility_eq : connectAbility s (depth + 2) a =
    if a.isDisconnecting then { a with isConnecting := true }
    else if a.isConnected then { a with isConnecting := false }
    else if s.connectOk then
      { a with isConnecting := true, connectCallback := true, connects := a.connects + 1,
               asked := a.asked + 1 }
    else { a with isConnecting := false, connectCallback := true, asked := a.asked + 1 } := by
  cases hd : a.isDisconnecting <;> cases hc : a.isConnected <;> cases hs : s.connectOk <;>
    simp [connectAbility, setConnectingFlag, hd, hc, hs]

theorem setDisconnectingFlag_eq : setDisconnectingFlag s false (depth + 3) a =
    if a.isConnecting then connectAbility s (depth + 2) { a with isDisconnecting := false }
    else { a with isDisconnecting := false } := by
  cases h : a.isConnecting <;> simp [setDisconnectingFlag, h]

theorem disconnectConnected_eq (hconnected : a.isConnected = true) :
    disconnectConnected s (depth + 4) a =
      if a.connectCallback then
        if s.disconnectOk then { a with disconnects := a.disconnects + 1, connectCallback := false }
        else { a with isConnecting := false, isDisconnecting := false, connectCallback := false }
      else a := by
  cases hk : a.connectCallback <;> cases hs : s.disconnectOk <;> cases hc : a.isConnecting <;>
    simp [disconnectConnected, setDisconnectingFlag_eq, connectAbility_eq, hk, hs, hc, hconnected]

theorem disconnectAbility_eq : disconnectAbility s (depth + 5) a =
    if a.isConnecting then { a with isDisconnecting := true }
    else if a.isConnected then disconnectConnected s (depth + 4) { a with isDisconnecting := true }
    else { a with isDisconnecting := true, waiting := a.waiting + 1 } := by
  cases hc : a.isConnecting <;> simp [disconnectAbility, setDisconnectingFlag, hc]

theorem setConnectingFlag_eq : setConnectingFlag s false (depth + 6) a =
    if a.isDisconnecting then
      if s.hasCall then { a with isConnecting := false, isDisconnecting := false }
      else disconnectAbility s (depth + 5) { a with isConnecting := false }
    else { a with isConnecting := false } := by
  cases hd : a.isDisconnecting <;> cases hs : s.hasCall <;>
    simp [setConnectingFlag, setDisconnectingFlag, hd, hs]

end CallConnectAbility

/-- The service: the connection, the states of the calls, `alarmSeted_`, `shouldDisconnect`, the
    tasks of `ConnectCallUiService` and of `DelayedDisconnectCallConnectAbility` that have not
    begun, and the applications that preload the UI. -/
structure UiWorld where
  ability : CallConnectAbility
  calls : List TelCallState
  alarmSeted : Bool
  shouldDisconnect : Bool
  tasks : ℕ
  delayed : ℕ
  preloadedCallUiRequestPids : List ℤ

/-- What happens next. `skipped` is what `cancel` returns; an unexpected disconnection is one
    with the result `UNEXPECT_DISCONNECT_CODE`; with `crossing` the connection of
    `hfpConnectBroadcast` crosses the disconnection of `handler` or of `delayedDisconnect`. -/
inductive UiEvent
  | connectCallUiService (shouldConnect skipped : Bool)
  | preloadCallUi (enable : Bool) (callingPid : ℤ) (skipped : Bool)
  | handler
  | delayedDisconnect
  | handleUserSwitch
  | hfpConnectBroadcast
  | crossing (byHandler : Bool)
  | onAbilityConnectDone (success : Bool)
  | onAbilityDisconnectDone (unexpected reconnectOk : Bool)
  | waitTimedOut
  | waitEnds
  | addOneCallObject (callState : TelCallState)
  | setTelCallState (call : ℕ) (callState : TelCallState)
  | deleteOneCallObject (call : ℕ)

/-- An event, and whether the ability manager takes what it is asked for. -/
structure UiOp where
  event : UiEvent
  connectOk : Bool
  disconnectOk : Bool

namespace UiWorld

open CallConnectAbility

variable (w : UiWorld)

/-- What the calls of a step find. -/
def surroundings (connectOk disconnectOk : Bool) : Surroundings :=
  ⟨connectOk, disconnectOk, !w.calls.isEmpty⟩

def connect (connectOk : Bool) : UiWorld :=
  { w with ability := connectAbility (w.surroundings connectOk true) callDepth w.ability }

def disconnect (disconnectOk : Bool) : UiWorld :=
  { w with ability := disconnectAbility (w.surroundings true disconnectOk) callDepth w.ability }

/-- `ConnectCallUiService`, with `cancel` (call_control_manager.cpp:1427-1469). -/
def connectCallUiService (shouldConnect skipped connectOk : Bool) : UiWorld :=
  if shouldConnect then
    if w.alarmSeted && !skipped then w
    else
      let tasks := if w.alarmSeted then w.tasks - 1 else w.tasks
      { w.connect connectOk with alarmSeted := false, tasks := tasks, shouldDisconnect := false }
  else if w.alarmSeted then { w with shouldDisconnect := true }
  else { w with shouldDisconnect := true, alarmSeted := true, tasks := w.tasks + 1 }

/-- `PreloadCallUi` (call_control_manager.cpp:2316-2342). -/
def preloadCallUi (enable : Bool) (callingPid : ℤ) (skipped connectOk : Bool) : UiWorld :=
  if enable then
    if callingPid ∈ w.preloadedCallUiRequestPids then w
    else
      connectCallUiService
        { w with preloadedCallUiRequestPids := w.preloadedCallUiRequestPids ++ [callingPid] }
        true skipped connectOk
  else if callingPid ∈ w.preloadedCallUiRequestPids then
    let w :=
      { w with preloadedCallUiRequestPids := w.preloadedCallUiRequestPids.erase callingPid }
    if w.preloadedCallUiRequestPids.isEmpty then w.connectCallUiService false skipped connectOk
    else w
  else w

/-- `handler`, the task of `ConnectCallUiService` (call_control_manager.cpp:1418-1425). -/
def handler (disconnectOk : Bool) : UiWorld :=
  if w.tasks = 0 then w
  else
    let w := { w with tasks := w.tasks - 1, alarmSeted := false }
    if w.calls.isEmpty then w.disconnect disconnectOk else w

/-- The task of `DelayedDisconnectCallConnectAbility` (call_object_manager.cpp:195-210). -/
def delayedDisconnect (disconnectOk : Bool) : UiWorld :=
  if w.delayed = 0 then w
  else
    let w := { w with delayed := w.delayed - 1 }
    if w.calls.isEmpty && w.shouldDisconnect then w.disconnect disconnectOk else w

/-- The task would come to `DisconnectAbility`. -/
def Disconnects (byHandler : Bool) : Prop :=
  w.calls = [] ∧ if byHandler then 0 < w.tasks else 0 < w.delayed ∧ w.shouldDisconnect = true

instance (byHandler : Bool) : Decidable (w.Disconnects byHandler) :=
  match byHandler with
  | true => inferInstanceAs (Decidable (w.calls = [] ∧ 0 < w.tasks))
  | false =>
    inferInstanceAs (Decidable (w.calls = [] ∧ 0 < w.delayed ∧ w.shouldDisconnect = true))

/-- `ConnectAbility` and `DisconnectAbility` on two threads, where each writes its flag (lines
    37 and 68) before the other one reads it (lines 38 and 69). -/
def crossing (byHandler : Bool) : UiWorld :=
  if w.Disconnects byHandler then
    { w with
      ability := { w.ability with isConnecting := true, isDisconnecting := true }
      tasks := if byHandler then w.tasks - 1 else w.tasks
      alarmSeted := if byHandler then false else w.alarmSeted
      delayed := if byHandler then w.delayed + 1 else w.delayed }
  else w

/-- A call in this state is shown again. -/
def isShown (callState : TelCallState) : Bool :=
  callState ∉ [TelCallState.disconnecting, .disconnected, .unknown, .idle]

/-- `ReConnectAbility` (call_ability_connect_callback.cpp:68-90). -/
def reConnectAbility (connectOk : Bool) : UiWorld :=
  if w.calls.any isShown then w.connect connectOk else w

/-- `HandleUserSwicth` (call_broadcast_subscriber.cpp:200-212). -/
def handleUserSwitch (connectOk disconnectOk : Bool) : UiWorld :=
  if w.ability.isConnected then (w.disconnect disconnectOk).reConnectAbility connectOk else w

/-- `OnAbilityConnectDone` (call_ability_connect_callback.cpp:30-56): with another result it
    does nothing. -/
def onAbilityConnectDone (success disconnectOk : Bool) : UiWorld :=
  if w.ability.connects = 0 then w
  else
    let a := { w.ability with connects := w.ability.connects - 1 }
    if success then
      let a := { a with isConnected := true }
      let s := w.surroundings true disconnectOk
      { w with ability := setConnectingFlag s false callDepth a }
    else { w with ability := a }

/-- `OnAbilityDisconnectDone` (call_ability_connect_callback.cpp:57-66), which comes to a
    request or, unexpected, to a connection. -/
def onAbilityDisconnectDone (unexpected reconnectOk connectOk : Bool) : UiWorld :=
  if unexpected && !w.ability.isConnected || !unexpected && w.ability.disconnects == 0 then w
  else
    let disconnects :=
      if unexpected then w.ability.disconnects else w.ability.disconnects - 1
    let a := { w.ability with disconnects := disconnects, isConnected := false }
    let s := w.surroundings connectOk true
    let w := { w with ability := setDisconnectingFlag s false callDepth a }
    if unexpected then w.reConnectAbility reconnectOk else w

/-- A wait that is over after a second (call_connect_ability.cpp:73-76 and 129-141). -/
def waitTimedOut (connectOk : Bool) : UiWorld :=
  if w.ability.waiting = 0 then w
  else
    let a := { w.ability with waiting := w.ability.waiting - 1 }
    { w with ability := setDisconnectingFlag (w.surroundings connectOk true) false callDepth a }

/-- A wait that finds the connection. -/
def waitEnds (disconnectOk : Bool) : UiWorld :=
  if w.ability.waiting = 0 || !w.ability.isConnected then w
  else
    let a := { w.ability with waiting := w.ability.waiting - 1 }
    { w with ability := disconnectConnected (w.surroundings true disconnectOk) callDepth a }

/-- `DeleteOneCallObject`, as far as the UI goes (call_object_manager.cpp:212-235). -/
def deleteOneCallObject (call : ℕ) : UiWorld :=
  let w := { w with calls := w.calls.eraseIdx call }
  if w.calls.isEmpty && w.shouldDisconnect then { w with delayed := w.delayed + 1 } else w

/-- One step. -/
def step (op : UiOp) : UiWorld :=
  match op.event with
  | .connectCallUiService shouldConnect skipped =>
    w.connectCallUiService shouldConnect skipped op.connectOk
  | .preloadCallUi enable callingPid skipped =>
    w.preloadCallUi enable callingPid skipped op.connectOk
  | .handler => w.handler op.disconnectOk
  | .delayedDisconnect => w.delayedDisconnect op.disconnectOk
  | .handleUserSwitch => w.handleUserSwitch op.connectOk op.disconnectOk
  | .hfpConnectBroadcast => { w.connect op.connectOk with delayed := w.delayed + 1 }
  | .crossing byHandler => w.crossing byHandler
  | .onAbilityConnectDone success => w.onAbilityConnectDone success op.disconnectOk
  | .onAbilityDisconnectDone unexpected reconnectOk =>
    w.onAbilityDisconnectDone unexpected reconnectOk op.connectOk
  | .waitTimedOut => w.waitTimedOut op.connectOk
  | .waitEnds => w.waitEnds op.disconnectOk
  | .addOneCallObject callState => { w with calls := w.calls ++ [callState] }
  | .setTelCallState call callState =>
    { w with calls := w.calls.modify call fun _ => callState }
  | .deleteOneCallObject call => w.deleteOneCallObject call

end UiWorld

/-- The start of the service. -/
def UiWorld.start : UiWorld :=
  ⟨⟨false, false, false, false, 0, 0, 0, 0⟩, [], false, false, 0, 0, []⟩

/-! ## Specification -/

/-- A flag that is set is reset by something under way: a connection that has been asked for,
    or that the end of a disconnection asks for; a disconnection, a thread that waits to make
    one, or a connection whose answer makes one. -/
structure Backed (a : CallConnectAbility) : Prop where
  connecting : a.isConnecting = true → 0 < a.connects ∨ a.isDisconnecting = true
  disconnecting : a.isDisconnecting = true →
    0 < a.disconnects ∨ 0 < a.waiting ∨ a.isConnecting = true ∧ 0 < a.connects

/-- The callback of the connection is gone, and no disconnection is under way. -/
def Orphaned (a : CallConnectAbility) : Prop :=
  a.connectCallback = false ∧ a.disconnects = 0 ∧ a.waiting = 0

/-- A disconnection would find the UI connected and nothing to disconnect. -/
def Unreachable (a : CallConnectAbility) : Prop :=
  a.isConnected = true ∧ a.isConnecting = false ∧ Orphaned a

/-- No connection fails that a flag waits for, nothing is disconnected whose callback is gone,
    and no connection and disconnection cross with nothing under way. -/
def Kept (w : UiWorld) (op : UiOp) : Prop :=
  match op.event with
  | .handler => 0 < w.tasks → w.calls = [] → ¬ Unreachable w.ability
  | .delayedDisconnect =>
    0 < w.delayed → w.calls = [] → w.shouldDisconnect = true → ¬ Unreachable w.ability
  | .handleUserSwitch =>
    Unreachable w.ability → w.calls.any UiWorld.isShown = true ∧ 0 < w.ability.connects
  | .crossing byHandler =>
    w.Disconnects byHandler →
      0 < w.ability.connects ∨ 0 < w.ability.disconnects ∨ 0 < w.ability.waiting
  | .onAbilityConnectDone true =>
    0 < w.ability.connects → w.ability.isDisconnecting = true → w.calls = [] →
      ¬ Orphaned w.ability
  | .onAbilityConnectDone false =>
    w.ability.connects = 1 → w.ability.isConnecting = true →
      w.ability.isDisconnecting = true ∧ (0 < w.ability.disconnects ∨ 0 < w.ability.waiting)
  | .waitEnds =>
    w.ability.waiting = 1 → w.ability.isConnected = true → w.ability.connectCallback = false →
      w.ability.disconnects = 0 → w.ability.isDisconnecting = true →
        w.ability.isConnecting = true ∧ 0 < w.ability.connects
  | _ => True

/-- Both flags are set, and nothing is connected or under way. -/
structure Wedged (a : CallConnectAbility) : Prop where
  connecting : a.isConnecting = true
  disconnecting : a.isDisconnecting = true
  notConnected : a.isConnected = false
  noConnect : a.connects = 0
  noDisconnect : a.disconnects = 0
  noWait : a.waiting = 0

/-- The UI is never asked for again. -/
def Dead (w : UiWorld) : Prop :=
  ∀ ops, (Run.run UiWorld.step w ops).ability.asked = w.ability.asked

/-! ## Lemmas -/

open CallConnectAbility

variable {s : Surroundings} {a : CallConnectAbility}

/-! ### One call -/

theorem backed_of_quiet (hc : a.isConnecting = false) (hd : a.isDisconnecting = false) :
    Backed a := by
  constructor <;> intro h
  · simp [hc] at h
  · simp [hd] at h

/-- A connection that is asked for is made, left to the disconnection under way, or given up. -/
theorem Backed.connectAbility (h : Backed a) : Backed (connectAbility s callDepth a) := by
  rw [show callDepth = 4 + 2 from rfl, connectAbility_eq]
  split_ifs with hd hc hs
  · constructor
    · intro _
      exact .inr hd
    · intro _
      rcases h.disconnecting hd with hmade | hwait | ⟨-, hasked⟩
      · exact .inl hmade
      · exact .inr (.inl hwait)
      · exact .inr (.inr ⟨rfl, hasked⟩)
  · exact backed_of_quiet rfl (by simpa using hd)
  · constructor
    · intro _
      exact .inl (Nat.succ_pos _)
    · intro hd'
      exact absurd hd' hd
  · exact backed_of_quiet rfl (by simpa using hd)

/-- The end of a disconnection leaves nothing behind but a connection that it asks for. -/
theorem backed_setDisconnectingFlag : Backed (setDisconnectingFlag s false callDepth a) := by
  rw [show callDepth = 3 + 3 from rfl, setDisconnectingFlag_eq, connectAbility_eq]
  split_ifs with hc hd hconnected hs
  · simp at hd
  · exact backed_of_quiet rfl rfl
  · constructor
    · intro _
      exact .inl (Nat.succ_pos _)
    · intro hd'
      simp at hd'
  · exact backed_of_quiet rfl rfl
  · exact backed_of_quiet (by simpa using hc) rfl

/-- A disconnection of what is connected is under way afterwards, or given up, unless the
    callback is gone. -/
theorem backed_disconnectConnected_iff (depth : ℕ) (hconnected : a.isConnected = true)
    (hconnecting : a.isConnecting = true → 0 < a.connects ∨ a.isDisconnecting = true) :
    Backed (disconnectConnected s (depth + 4) a) ↔ (a.connectCallback = false → Backed a) := by
  rw [disconnectConnected_eq _ hconnected]
  split_ifs with hk hs
  · refine iff_of_true ⟨hconnecting, fun _ => .inl (Nat.succ_pos _)⟩ ?_
    intro hk'
    simp [hk] at hk'
  · refine iff_of_true (backed_of_quiet rfl rfl) ?_
    intro hk'
    simp [hk] at hk'
  · simp [hk]

theorem not_orphaned_iff :
    ¬ Orphaned a ↔ (a.connectCallback = false → 0 < a.disconnects ∨ 0 < a.waiting) := by
  unfold Orphaned
  cases a.connectCallback
  · simp
    omega
  · simp

theorem backed_disconnecting_iff (depth : ℕ) (hconnected : a.isConnected = true)
    (hc : a.isConnecting = false) :
    Backed (disconnectConnected s (depth + 4) { a with isDisconnecting := true }) ↔
      ¬ Orphaned a := by
  have hiff := backed_disconnectConnected_iff (s := s) (a := { a with isDisconnecting := true })
    depth hconnected fun _ => .inr rfl
  rw [hiff, not_orphaned_iff]
  refine imp_congr_right fun _ => ?_
  constructor
  · intro hback
    have := hback.disconnecting rfl
    simpa [hc] using this
  · intro hrest
    refine ⟨fun _ => .inr rfl, fun _ => ?_⟩
    rcases hrest with hmade | hwait
    · exact .inl hmade
    · exact .inr (.inl hwait)

theorem backed_disconnectAbility_iff (h : Backed a) :
    Backed (disconnectAbility s callDepth a) ↔ ¬ Unreachable a := by
  rw [show callDepth = 1 + 5 from rfl, disconnectAbility_eq]
  split_ifs with hc hconnected
  · refine iff_of_true ⟨fun _ => .inr rfl, fun _ => ?_⟩ fun hu => by simp [hu.2.1] at hc
    rcases h.connecting hc with hasked | hd
    · exact .inr (.inr ⟨hc, hasked⟩)
    · exact h.disconnecting hd
  · have hc : a.isConnecting = false := by simpa using hc
    rw [backed_disconnecting_iff 1 hconnected hc]
    simp [Unreachable, hconnected, hc]
  · refine iff_of_true ⟨fun _ => .inr rfl, fun _ => .inr (.inl (Nat.succ_pos _))⟩ ?_
    exact fun hu => hconnected hu.1

/-- The answer to a connection resets its flag, and makes the disconnection that waits for it. -/
theorem backed_setConnectingFlag_iff (hconnected : a.isConnected = true) :
    Backed (setConnectingFlag s false callDepth a) ↔
      (a.isDisconnecting = true → s.hasCall = false → ¬ Orphaned a) := by
  rw [show callDepth = 0 + 6 from rfl, setConnectingFlag_eq]
  split_ifs with hd hs
  · refine iff_of_true (backed_of_quiet rfl rfl) fun _ hs' => ?_
    simp [hs] at hs'
  · rw [disconnectAbility_eq, if_neg (by simp), if_pos (by exact hconnected)]
    have hiff := backed_disconnecting_iff (s := s) (a := { a with isConnecting := false }) 0
      hconnected rfl
    rw [hiff]
    simp [hd, hs, Orphaned]
  · exact iff_of_true (backed_of_quiet rfl (by simpa using hd)) fun hd' => absurd hd' hd

/-! ### One step -/

namespace UiWorld

variable {w : UiWorld}

theorem connectCallUiService_cases (w : UiWorld) (shouldConnect skipped connectOk : Bool) :
    (w.connectCallUiService shouldConnect skipped connectOk).ability = w.ability ∨
      (w.connectCallUiService shouldConnect skipped connectOk).ability =
        (w.connect connectOk).ability := by
  unfold connectCallUiService
  split_ifs <;> first | exact .inl rfl | exact .inr rfl

theorem preloadCallUi_cases (w : UiWorld) (enable : Bool) (callingPid : ℤ)
    (skipped connectOk : Bool) :
    (w.preloadCallUi enable callingPid skipped connectOk).ability = w.ability ∨
      (w.preloadCallUi enable callingPid skipped connectOk).ability =
        (w.connect connectOk).ability := by
  unfold preloadCallUi
  dsimp only
  split_ifs
  · exact .inl rfl
  · exact connectCallUiService_cases _ true skipped connectOk
  · exact connectCallUiService_cases _ false skipped connectOk
  · exact .inl rfl
  · exact .inl rfl

theorem backed_connect (h : Backed w.ability) (connectOk : Bool) :
    Backed (w.connect connectOk).ability := h.connectAbility

theorem backed_reConnectAbility (h : Backed w.ability) (connectOk : Bool) :
    Backed (w.reConnectAbility connectOk).ability := by
  unfold reConnectAbility
  split_ifs
  · exact backed_connect h connectOk
  · exact h

/-- What the change of the user leaves when the callback is gone. -/
theorem backed_handleUserSwitch_iff (h : Backed w.ability) (connectOk disconnectOk : Bool) :
    Backed (w.handleUserSwitch connectOk disconnectOk).ability ↔
      (Unreachable w.ability → w.calls.any isShown = true ∧ 0 < w.ability.connects) := by
  unfold handleUserSwitch
  split_ifs with hconnected
  · by_cases hu : Unreachable w.ability
    · obtain ⟨-, hc, hk, hnone, hwait⟩ := hu
      have hcut : (w.disconnect disconnectOk).ability =
          { w.ability with isDisconnecting := true } := by
        show disconnectAbility _ (1 + 5) w.ability = _
        rw [disconnectAbility_eq, if_neg (by simp [hc]), if_pos hconnected]
        refine (disconnectConnected_eq 1 ?_).trans (if_neg ?_)
        · exact hconnected
        · simp [hk]
      have hu : Unreachable w.ability := ⟨hconnected, hc, hk, hnone, hwait⟩
      unfold reConnectAbility
      show Backed (if w.calls.any isShown then _ else _ : UiWorld).ability ↔ _
      split_ifs with hshown
      · show Backed (connectAbility _ (4 + 2) (w.disconnect disconnectOk).ability) ↔ _
        rw [hcut, connectAbility_eq, if_pos rfl]
        simp only [hu, hshown, true_and, forall_const]
        constructor
        · intro hback
          have := hback.disconnecting rfl
          simpa [hnone, hwait] using this
        · intro hpos
          exact ⟨fun _ => .inr rfl, fun _ => .inr (.inr ⟨rfl, hpos⟩)⟩
      · rw [hcut]
        refine iff_of_false (fun hback => ?_) fun hnot => ?_
        · have := hback.disconnecting rfl
          simp [hnone, hwait, hc] at this
        · exact hshown (hnot hu).1
    · exact iff_of_true
        (backed_reConnectAbility ((backed_disconnectAbility_iff h).mpr hu) connectOk)
        fun hu' => absurd hu' hu
  · exact iff_of_true h fun hu => absurd hu.1 hconnected

theorem backed_connectDone_iff (h : Backed w.ability) (success disconnectOk : Bool) :
    Backed (w.onAbilityConnectDone success disconnectOk).ability ↔
      Kept w ⟨.onAbilityConnectDone success, true, disconnectOk⟩ := by
  unfold onAbilityConnectDone
  split_ifs with hnone hs
  · cases success <;> simp [Kept, hnone, h]
  · subst hs
    refine (backed_setConnectingFlag_iff rfl).trans ?_
    show (w.ability.isDisconnecting = true → (!w.calls.isEmpty) = false → ¬ Orphaned w.ability) ↔
      (0 < w.ability.connects → w.ability.isDisconnecting = true → w.calls = [] → _)
    simp [Nat.pos_of_ne_zero hnone]
  · obtain rfl : success = false := by simpa using hs
    show Backed { w.ability with connects := w.ability.connects - 1 } ↔
      (w.ability.connects = 1 → w.ability.isConnecting = true → _)
    constructor
    · intro hback hone hc
      have hd : w.ability.isDisconnecting = true := by
        have := hback.connecting hc
        simpa [hone] using this
      have := hback.disconnecting hd
      exact ⟨hd, by simpa [hone] using this⟩
    · intro hkept
      by_cases hone : w.ability.connects = 1
      · constructor
        · intro hc
          exact .inr (hkept hone hc).1
        · intro hd
          rcases h.disconnecting hd with hmade | hwait | ⟨hc, -⟩
          · exact .inl hmade
          · exact .inr (.inl hwait)
          · rcases (hkept hone hc).2 with hmade | hwait
            · exact .inl hmade
            · exact .inr (.inl hwait)
      · have hmore : 0 < w.ability.connects - 1 := by omega
        constructor
        · intro _
          exact .inl hmore
        · intro hd
          rcases h.disconnecting hd with hmade | hwait | ⟨hc, -⟩
          · exact .inl hmade
          · exact .inr (.inl hwait)
          · exact .inr (.inr ⟨hc, hmore⟩)

theorem crossing_ability (w : UiWorld) (byHandler : Bool) :
    (w.crossing byHandler).ability =
      if w.Disconnects byHandler then
        { w.ability with isConnecting := true, isDisconnecting := true }
      else w.ability := by
  by_cases hends : w.Disconnects byHandler
  · rw [if_pos hends, crossing, if_pos hends]
  · rw [if_neg hends, crossing, if_neg hends]

theorem backed_crossing_iff (h : Backed w.ability) (byHandler : Bool) :
    Backed (w.crossing byHandler).ability ↔ (w.Disconnects byHandler →
      0 < w.ability.connects ∨ 0 < w.ability.disconnects ∨ 0 < w.ability.waiting) := by
  rw [crossing_ability]
  split_ifs with hends
  · rw [imp_iff_right hends]
    constructor
    · intro hback
      rcases hback.disconnecting rfl with hmade | hwait | ⟨-, hasked⟩
      · exact .inr (.inl hmade)
      · exact .inr (.inr hwait)
      · exact .inl hasked
    · intro hany
      refine ⟨fun _ => .inr rfl, fun _ => ?_⟩
      rcases hany with hasked | hmade | hwait
      · exact .inr (.inr ⟨rfl, hasked⟩)
      · exact .inl hmade
      · exact .inr (.inl hwait)
  · exact iff_of_true h fun hends' => absurd hends' hends

theorem backed_disconnectDone (h : Backed w.ability) (unexpected reconnectOk connectOk : Bool) :
    Backed (w.onAbilityDisconnectDone unexpected reconnectOk connectOk).ability := by
  unfold onAbilityDisconnectDone
  split_ifs
  · exact h
  · exact backed_reConnectAbility backed_setDisconnectingFlag reconnectOk
  · exact backed_setDisconnectingFlag

theorem backed_waitEnds_iff (h : Backed w.ability) (disconnectOk : Bool) :
    Backed (w.waitEnds disconnectOk).ability ↔
      (w.ability.waiting = 1 → w.ability.isConnected = true →
        w.ability.connectCallback = false → w.ability.disconnects = 0 →
          w.ability.isDisconnecting = true →
            w.ability.isConnecting = true ∧ 0 < w.ability.connects) := by
  unfold waitEnds
  split_ifs with hnone
  · refine iff_of_true h fun hone hconnected => ?_
    simp [hone, hconnected] at hnone
  · obtain ⟨hwait, hconnected⟩ : w.ability.waiting ≠ 0 ∧ w.ability.isConnected = true := by
      simpa using hnone
    refine (backed_disconnectConnected_iff (a := { w.ability with
      waiting := w.ability.waiting - 1 }) 2 hconnected h.connecting).trans ?_
    constructor
    · intro hback hone _ hk hnone' hd
      have := (hback hk).disconnecting hd
      simpa [hone, hnone'] using this
    · intro hkept hk
      refine ⟨h.connecting, fun hd => ?_⟩
      rcases h.disconnecting hd with hmade | hwait' | hboth
      · exact .inl hmade
      · by_cases hone : w.ability.waiting = 1
        · by_cases hmade : w.ability.disconnects = 0
          · exact .inr (.inr (hkept hone hconnected hk hmade hd))
          · exact .inl (Nat.pos_of_ne_zero hmade)
        · right
          left
          show 0 < w.ability.waiting - 1
          omega
      · exact .inr (.inr hboth)

/-- **One step** leaves every flag with something that resets it iff it is one of those. -/
theorem backed_step_iff (h : Backed w.ability) (op : UiOp) :
    Backed (w.step op).ability ↔ Kept w op := by
  obtain ⟨event, connectOk, disconnectOk⟩ := op
  cases event with
  | connectCallUiService shouldConnect skipped =>
    refine iff_of_true ?_ trivial
    show Backed (w.connectCallUiService shouldConnect skipped connectOk).ability
    rcases connectCallUiService_cases w shouldConnect skipped connectOk with heq | heq <;> rw [heq]
    · exact h
    · exact backed_connect h connectOk
  | preloadCallUi enable callingPid skipped =>
    refine iff_of_true ?_ trivial
    show Backed (w.preloadCallUi enable callingPid skipped connectOk).ability
    rcases preloadCallUi_cases w enable callingPid skipped connectOk with heq | heq <;> rw [heq]
    · exact h
    · exact backed_connect h connectOk
  | handler =>
    show Backed (w.handler disconnectOk).ability ↔
      (0 < w.tasks → w.calls = [] → ¬ Unreachable w.ability)
    unfold handler
    dsimp only
    split_ifs with hnone hcalls
    · simp [hnone, h]
    · refine (backed_disconnectAbility_iff h).trans ?_
      have hcalls : w.calls = [] := by simpa using hcalls
      simp [Nat.pos_of_ne_zero hnone, hcalls]
    · refine iff_of_true h fun _ hcalls' => ?_
      simp [hcalls'] at hcalls
  | delayedDisconnect =>
    show Backed (w.delayedDisconnect disconnectOk).ability ↔
      (0 < w.delayed → w.calls = [] → w.shouldDisconnect = true → ¬ Unreachable w.ability)
    unfold delayedDisconnect
    dsimp only
    split_ifs with hnone hcalls
    · simp [hnone, h]
    · refine (backed_disconnectAbility_iff h).trans ?_
      have hcalls : w.calls = [] ∧ w.shouldDisconnect = true := by simpa using hcalls
      simp [Nat.pos_of_ne_zero hnone, hcalls]
    · refine iff_of_true h fun _ hcalls' hshould => ?_
      simp [hcalls', hshould] at hcalls
  | handleUserSwitch => exact backed_handleUserSwitch_iff h connectOk disconnectOk
  | hfpConnectBroadcast => exact iff_of_true (backed_connect h connectOk) trivial
  | crossing byHandler => exact backed_crossing_iff h byHandler
  | onAbilityConnectDone success =>
    refine (backed_connectDone_iff h success disconnectOk).trans ?_
    cases success <;> exact Iff.rfl
  | onAbilityDisconnectDone unexpected reconnectOk =>
    exact iff_of_true (backed_disconnectDone h unexpected reconnectOk connectOk) trivial
  | waitTimedOut =>
    refine iff_of_true ?_ trivial
    show Backed (w.waitTimedOut connectOk).ability
    unfold waitTimedOut
    split_ifs
    · exact h
    · exact backed_setDisconnectingFlag
  | waitEnds => exact backed_waitEnds_iff h disconnectOk
  | addOneCallObject callState => exact iff_of_true h trivial
  | setTelCallState call callState => exact iff_of_true h trivial
  | deleteOneCallObject call =>
    refine iff_of_true ?_ trivial
    show Backed (w.deleteOneCallObject call).ability
    unfold deleteOneCallObject
    dsimp only
    split_ifs <;> exact h

/-! ### The end of all connections -/

theorem set_both (hc : a.isConnecting = true) (hd : a.isDisconnecting = true) :
    { a with isConnecting := true, isDisconnecting := true } = a := by
  cases a
  cases hc
  cases hd
  rfl

/-- Without anything under way the flags keep out every request. -/
theorem wedged_step (h : Wedged w.ability) (op : UiOp) : (w.step op).ability = w.ability := by
  obtain ⟨hc, hd, hnot, hnoc, hnod, hnow⟩ := h
  have hconnect {w' : UiWorld} (connectOk : Bool) (heq : w'.ability = w.ability) :
      (w'.connect connectOk).ability = w.ability := by
    show connectAbility _ (4 + 2) w'.ability = _
    rw [heq, connectAbility_eq, if_pos hd, ← hc]
  have hdisconnect {w' : UiWorld} (disconnectOk : Bool) (heq : w'.ability = w.ability) :
      (w'.disconnect disconnectOk).ability = w.ability := by
    show disconnectAbility _ (1 + 5) w'.ability = _
    rw [heq, disconnectAbility_eq, if_pos hc, ← hd]
  obtain ⟨event, connectOk, disconnectOk⟩ := op
  cases event with
  | connectCallUiService shouldConnect skipped =>
    rcases connectCallUiService_cases w shouldConnect skipped connectOk with heq | heq
    · exact heq
    · exact heq.trans (hconnect connectOk rfl)
  | preloadCallUi enable callingPid skipped =>
    rcases preloadCallUi_cases w enable callingPid skipped connectOk with heq | heq
    · exact heq
    · exact heq.trans (hconnect connectOk rfl)
  | handler =>
    show (w.handler disconnectOk).ability = _
    unfold handler
    dsimp only
    split_ifs
    · rfl
    · exact hdisconnect disconnectOk rfl
    · rfl
  | delayedDisconnect =>
    show (w.delayedDisconnect disconnectOk).ability = _
    unfold delayedDisconnect
    dsimp only
    split_ifs
    · rfl
    · exact hdisconnect disconnectOk rfl
    · rfl
  | handleUserSwitch =>
    show (w.handleUserSwitch connectOk disconnectOk).ability = _
    simp [handleUserSwitch, hnot]
  | hfpConnectBroadcast => exact hconnect connectOk rfl
  | crossing byHandler =>
    exact (crossing_ability w byHandler).trans (by rw [set_both hc hd, ite_self])
  | onAbilityConnectDone success =>
    show (w.onAbilityConnectDone success disconnectOk).ability = _
    simp [onAbilityConnectDone, hnoc]
  | onAbilityDisconnectDone unexpected reconnectOk =>
    show (w.onAbilityDisconnectDone unexpected reconnectOk connectOk).ability = _
    simp [onAbilityDisconnectDone, hnot, hnod]
  | waitTimedOut =>
    show (w.waitTimedOut connectOk).ability = _
    simp [waitTimedOut, hnow]
  | waitEnds =>
    show (w.waitEnds disconnectOk).ability = _
    simp [waitEnds, hnow]
  | addOneCallObject callState => rfl
  | setTelCallState call callState => rfl
  | deleteOneCallObject call =>
    show (w.deleteOneCallObject call).ability = _
    unfold deleteOneCallObject
    dsimp only
    split_ifs <;> rfl

theorem dead_of_wedged (h : Wedged w.ability) : Dead w := by
  intro ops
  have hrun : (Run.run UiWorld.step w ops).ability = w.ability :=
    Run.run_invariant (P := fun w' : UiWorld => w'.ability = w.ability)
      (fun w' op heq => (wedged_step (heq ▸ h) op).trans heq) ops rfl
  rw [hrun]

/-- A crossing with nothing under way is enough. -/
theorem dead_of_crossing {byHandler : Bool} (hends : w.Disconnects byHandler)
    (hc : w.ability.isConnected = false) (hnoc : w.ability.connects = 0)
    (hnod : w.ability.disconnects = 0) (hnow : w.ability.waiting = 0) :
    Dead (w.crossing byHandler) := by
  refine dead_of_wedged ?_
  rw [crossing_ability, if_pos hends]
  exact ⟨rfl, rfl, hc, hnoc, hnod, hnow⟩

theorem Dead.step (h : Dead w) (op : UiOp) : Dead (w.step op) := by
  intro ops
  have hrest := h (op :: ops)
  have hone := h [op]
  exact hrest.trans hone.symm

/-- Without a connection and a disconnection, the UI can be asked for. -/
theorem not_dead_of_quiet (hd : w.ability.isDisconnecting = false)
    (hc : w.ability.isConnected = false) : ¬ Dead w := by
  intro h
  have hone := h [⟨.hfpConnectBroadcast, true, true⟩]
  have hasked : (connectAbility (w.surroundings true true) (4 + 2) w.ability).asked =
      w.ability.asked := hone
  rw [connectAbility_eq, if_neg (by simp [hd]), if_neg (by simp [hc])] at hasked
  simp [surroundings] at hasked

theorem asked_le_connect (w : UiWorld) (connectOk : Bool) :
    w.ability.asked ≤ (w.connect connectOk).ability.asked := by
  show _ ≤ (connectAbility _ (4 + 2) w.ability).asked
  rw [connectAbility_eq]
  split_ifs <;> simp

/-- The end of a disconnection asks for the UI, or leaves it free to be asked for. -/
theorem setDisconnectingFlag_spec (hc : a.isConnected = false) (hs : s.connectOk = true) :
    (setDisconnectingFlag s false callDepth a).asked = a.asked + 1 ∨
      setDisconnectingFlag s false callDepth a = { a with isDisconnecting := false } := by
  rw [show callDepth = 3 + 3 from rfl, setDisconnectingFlag_eq, connectAbility_eq]
  split_ifs with hconnecting
  · simp at *
  · simp [hc] at *
  · exact .inl rfl
  · exact .inr rfl

/-- Nothing is dead that a disconnection can end in. -/
theorem not_dead_of_end {w' : UiWorld} {op : UiOp} {s : Surroundings} {a : CallConnectAbility}
    (hstep : w.step op = w') (hability : w'.ability = setDisconnectingFlag s false callDepth a)
    (hs : s.connectOk = true) (hc : a.isConnected = false) (hasked : a.asked = w.ability.asked) :
    ¬ Dead w := by
  intro h
  have hone : w'.ability.asked = w.ability.asked := hstep ▸ h [op]
  rcases setDisconnectingFlag_spec hc hs with hmore | heq
  · rw [hability, hmore, hasked] at hone
    omega
  · refine not_dead_of_quiet (w := w') ?_ ?_ (hstep ▸ Dead.step h op)
    · rw [hability, heq]
    · rw [hability, heq]
      exact hc

/-- The ability manager can end a connection, and then the UI is asked for. -/
theorem not_dead_of_connected (hc : w.ability.isConnected = true) : ¬ Dead w := by
  let a : CallConnectAbility := { w.ability with isConnected := false }
  let s := w.surroundings true true
  let ended : UiWorld := { w with ability := setDisconnectingFlag s false callDepth a }
  have hstep : w.step ⟨.onAbilityDisconnectDone true true, true, true⟩ =
      ended.reConnectAbility true := by
    show w.onAbilityDisconnectDone true true true = _
    simp [onAbilityDisconnectDone, hc, ended, a, s]
  by_cases hshown : w.calls.any isShown
  · intro h
    have hstep' : w.step ⟨.onAbilityDisconnectDone true true, true, true⟩ = ended.connect true :=
      hstep.trans (if_pos hshown)
    have hone : (ended.connect true).ability.asked = w.ability.asked :=
      hstep' ▸ h [⟨.onAbilityDisconnectDone true true, true, true⟩]
    rcases setDisconnectingFlag_spec (s := s) (a := a) rfl rfl with hmore | heq
    · have hle := asked_le_connect ended true
      have hmore' : ended.ability.asked = w.ability.asked + 1 := hmore
      omega
    · have hquiet : ended.ability = { a with isDisconnecting := false } := heq
      have hasks : (ended.connect true).ability.asked = w.ability.asked + 1 := by
        show (connectAbility _ (4 + 2) ended.ability).asked = _
        rw [hquiet, connectAbility_eq]
        simp [surroundings, a]
      omega
  · exact not_dead_of_end (hstep.trans (if_neg hshown)) rfl rfl rfl rfl

/-- What a flag that is set has beside it in every run. -/
def Accounted (a : CallConnectAbility) : Prop :=
  a.isDisconnecting = true → a.isConnected = true ∨ a.isConnecting = true ∨ 0 < a.waiting

theorem accounted_connectAbility : Accounted (connectAbility s callDepth a) := by
  rw [show callDepth = 4 + 2 from rfl, connectAbility_eq]
  split_ifs with hd hc hs
  · exact fun _ => .inr (.inl rfl)
  · exact fun _ => .inl hc
  · exact fun hd' => absurd hd' hd
  · exact fun hd' => absurd hd' hd

theorem accounted_setDisconnectingFlag :
    Accounted (setDisconnectingFlag s false callDepth a) := by
  rw [show callDepth = 3 + 3 from rfl, setDisconnectingFlag_eq, connectAbility_eq]
  intro hd
  split_ifs at hd

theorem accounted_disconnectConnected (depth : ℕ) (hc : a.isConnected = true) :
    Accounted (disconnectConnected s (depth + 4) a) := by
  rw [disconnectConnected_eq _ hc]
  split_ifs <;> exact fun _ => .inl hc

theorem accounted_disconnectAbility (depth : ℕ) :
    Accounted (disconnectAbility s (depth + 5) a) := by
  rw [disconnectAbility_eq]
  split_ifs with hconnecting hc
  · exact fun _ => .inr (.inl hconnecting)
  · exact accounted_disconnectConnected depth hc
  · exact fun _ => .inr (.inr (Nat.succ_pos _))

theorem accounted_reConnectAbility (h : Accounted w.ability) (connectOk : Bool) :
    Accounted (w.reConnectAbility connectOk).ability := by
  unfold reConnectAbility
  split_ifs
  · exact accounted_connectAbility
  · exact h

theorem accounted_step (h : Accounted w.ability) (op : UiOp) : Accounted (w.step op).ability := by
  obtain ⟨event, connectOk, disconnectOk⟩ := op
  cases event with
  | connectCallUiService shouldConnect skipped =>
    show Accounted (w.connectCallUiService shouldConnect skipped connectOk).ability
    rcases connectCallUiService_cases w shouldConnect skipped connectOk with heq | heq <;> rw [heq]
    · exact h
    · exact accounted_connectAbility
  | preloadCallUi enable callingPid skipped =>
    show Accounted (w.preloadCallUi enable callingPid skipped connectOk).ability
    rcases preloadCallUi_cases w enable callingPid skipped connectOk with heq | heq <;> rw [heq]
    · exact h
    · exact accounted_connectAbility
  | handler =>
    show Accounted (w.handler disconnectOk).ability
    unfold handler
    dsimp only
    split_ifs
    · exact h
    · exact accounted_disconnectAbility 1
    · exact h
  | delayedDisconnect =>
    show Accounted (w.delayedDisconnect disconnectOk).ability
    unfold delayedDisconnect
    dsimp only
    split_ifs
    · exact h
    · exact accounted_disconnectAbility 1
    · exact h
  | handleUserSwitch =>
    show Accounted (w.handleUserSwitch connectOk disconnectOk).ability
    unfold handleUserSwitch
    split_ifs
    · exact accounted_reConnectAbility (accounted_disconnectAbility 1) connectOk
    · exact h
  | hfpConnectBroadcast => exact accounted_connectAbility
  | crossing byHandler =>
    show Accounted (w.crossing byHandler).ability
    rw [crossing_ability]
    split_ifs
    · exact fun _ => .inr (.inl rfl)
    · exact h
  | onAbilityConnectDone success =>
    show Accounted (w.onAbilityConnectDone success disconnectOk).ability
    unfold onAbilityConnectDone
    dsimp only
    split_ifs
    · exact h
    · show Accounted (setConnectingFlag _ false (0 + 6) _)
      rw [setConnectingFlag_eq]
      split_ifs with hd hs
      · exact fun _ => .inl rfl
      · exact accounted_disconnectAbility 0
      · exact fun _ => .inl rfl
    · exact h
  | onAbilityDisconnectDone unexpected reconnectOk =>
    show Accounted (w.onAbilityDisconnectDone unexpected reconnectOk connectOk).ability
    unfold onAbilityDisconnectDone
    dsimp only
    split_ifs
    · exact h
    · exact accounted_reConnectAbility accounted_setDisconnectingFlag reconnectOk
    · exact accounted_setDisconnectingFlag
  | waitTimedOut =>
    show Accounted (w.waitTimedOut connectOk).ability
    unfold waitTimedOut
    split_ifs
    · exact h
    · exact accounted_setDisconnectingFlag
  | waitEnds =>
    show Accounted (w.waitEnds disconnectOk).ability
    unfold waitEnds
    split_ifs with hnone
    · exact h
    · have hc : w.ability.isConnected = true := by
        simp at hnone
        exact hnone.2
      show Accounted (disconnectConnected _ (2 + 4)
        { w.ability with waiting := w.ability.waiting - 1 })
      exact accounted_disconnectConnected 2 hc
  | addOneCallObject callState => exact h
  | setTelCallState call callState => exact h
  | deleteOneCallObject call =>
    show Accounted (w.deleteOneCallObject call).ability
    unfold deleteOneCallObject
    dsimp only
    split_ifs <;> exact h

theorem isConnected_setConnectingFlag (hc : a.isConnected = true) :
    (setConnectingFlag s false callDepth a).isConnected = true := by
  rw [show callDepth = 0 + 6 from rfl, setConnectingFlag_eq]
  split_ifs with hd hs
  · exact hc
  · rw [disconnectAbility_eq, if_neg (by simp), if_pos (by exact hc)]
    rw [disconnectConnected_eq 0 (by exact hc)]
    split_ifs <;> exact hc
  · exact hc

/-- What is dead is wedged. -/
theorem wedged_of_dead (h : Accounted w.ability) (hdead : Dead w) : Wedged w.ability := by
  have hc : w.ability.isConnected = false := by
    by_contra hc
    exact not_dead_of_connected (by simpa using hc) hdead
  have hd : w.ability.isDisconnecting = true := by
    by_contra hd
    exact not_dead_of_quiet (by simpa using hd) hc hdead
  have hnod : w.ability.disconnects = 0 := by
    by_contra hnod
    have hstep : w.step ⟨.onAbilityDisconnectDone false true, true, true⟩ =
        w.onAbilityDisconnectDone false true true := rfl
    refine not_dead_of_end (s := w.surroundings true true) (a := { w.ability with
      disconnects := w.ability.disconnects - 1, isConnected := false }) hstep ?_ rfl rfl rfl hdead
    simp [onAbilityDisconnectDone, hnod]
  have hnow : w.ability.waiting = 0 := by
    by_contra hnow
    have hstep : w.step ⟨.waitTimedOut, true, true⟩ = w.waitTimedOut true := rfl
    refine not_dead_of_end (s := w.surroundings true true)
      (a := { w.ability with waiting := w.ability.waiting - 1 }) hstep ?_ rfl hc rfl hdead
    simp [waitTimedOut, hnow]
  have hnoc : w.ability.connects = 0 := by
    by_contra hnoc
    refine not_dead_of_connected (w := w.step ⟨.onAbilityConnectDone true, true, true⟩) ?_
      (Dead.step hdead _)
    show (w.onAbilityConnectDone true true).ability.isConnected = true
    simp only [onAbilityConnectDone, hnoc, if_false, if_true]
    exact isConnected_setConnectingFlag rfl
  refine ⟨?_, hd, hc, hnoc, hnod, hnow⟩
  rcases h hd with hc' | hconnecting | hwait
  · simp [hc] at hc'
  · exact hconnecting
  · omega

end UiWorld

/-! ## Main results -/

/-- **The flags**: in every run, a flag that is set has something under way that resets it, in
    every state, iff no connection fails that a flag waits for, nothing is disconnected whose
    callback is gone, and no connection and disconnection cross with nothing under way. -/
theorem backed_iff (ops : List UiOp) :
    Run.StatesMeet UiWorld.step (fun w => Backed w.ability) .start ops ↔
      Run.StepsMeet UiWorld.step Kept .start ops :=
  Run.statesMeet_iff_stepsMeet (fun _ op h => UiWorld.backed_step_iff h op) ops
    (backed_of_quiet rfl rfl)

/-- **The end of the call UI**: after every run, no connection is ever asked for again, whatever
    happens, iff both flags are set, and nothing is connected or under way. -/
theorem dead_iff (ops : List UiOp) :
    Dead (Run.run UiWorld.step .start ops) ↔
      Wedged (Run.run UiWorld.step .start ops).ability := by
  have haccounted : UiWorld.Accounted (Run.run UiWorld.step .start ops).ability :=
    Run.run_invariant (P := fun w : UiWorld => UiWorld.Accounted w.ability)
      (fun _ op h => UiWorld.accounted_step h op) ops fun hd => by simp [UiWorld.start] at hd
  exact ⟨UiWorld.wedged_of_dead haccounted, UiWorld.dead_of_wedged⟩

/-- A connection fails, and the UI is unloaded. -/
def failedConnection : List UiOp :=
  [⟨.preloadCallUi true 1 true, true, true⟩, ⟨.onAbilityConnectDone false, true, true⟩,
    ⟨.preloadCallUi false 1 true, true, true⟩, ⟨.handler, true, true⟩]

/-- One failed connection is enough. -/
theorem dead_of_failed : Dead (Run.run UiWorld.step .start failedConnection) :=
  UiWorld.dead_of_wedged ⟨rfl, rfl, rfl, rfl, rfl, rfl⟩

end CallUiConnection

end CallManager
