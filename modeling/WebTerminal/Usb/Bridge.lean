import Mathlib.Data.Int.Notation
import WebTerminal.Base.CString
import WebTerminal.Lib.Machine
import WebTerminal.Lib.Mutex
import WebTerminal.Server.Platform

/-!
# The USB serial bridge

`usb_event_task` opens and closes the one device, other tasks send to it and change its
rate, and the callbacks of the USB host put events into the queue between the two.  The
handle `s_cdc_dev` is guarded by `s_cdc_mutex`, the rate `s_baud_rate` by nothing.

The model is a machine over all interleavings of these.  A step of a task is one access to
what the tasks share: a take or a give of the mutex, a read or a write of `s_cdc_dev` or
`s_baud_rate`, one call into the driver.  The driver names the devices it opens by number,
so a handle that was closed is never the handle of a later device.
-/

set_option autoImplicit false

namespace WebTerminal

/-- `usb_event_t` -/
inductive UsbEvent
  | connected (vid pid : UInt16)
  | disconnected
  deriving DecidableEq

/-- `cdc_acm_line_coding_t` -/
structure LineCoding where
  dwDTERate : UInt32
  bCharFormat : UInt8
  bParityType : UInt8
  bDataBits : UInt8
  deriving DecidableEq

/-- One stop bit, no parity, eight data bits. -/
def lineCodingAt (baudRate : UInt32) : LineCoding where
  dwDTERate := baudRate
  bCharFormat := 0
  bParityType := 0
  bDataBits := 8

/-- `cdc_acm_dev_hdl_t`: the number of a device the driver has opened, or NULL. -/
abbrev CdcHandle := Option ℕ

inductive UsbDriver
  | ftdiVcp
  | ch34xVcp
  | cp210xVcp
  | cdcAcm
  deriving DecidableEq

/-- `FTDI_VID`, `NANJING_QINHENG_MICROE_VID` and `SILICON_LABS_VID` -/
structure VcpVendors where
  ftdi : UInt16
  nanjingQinheng : UInt16
  siliconLabs : UInt16

/-- The driver `open_device` selects. -/
def VcpVendors.driver (vendors : VcpVendors) (vid : UInt16) : UsbDriver :=
  if vid = vendors.ftdi then .ftdiVcp
  else if vid = vendors.nanjingQinheng then .ch34xVcp
  else if vid = vendors.siliconLabs then .cp210xVcp
  else .cdcAcm

/-- A call into the drivers of the USB host. -/
inductive DriverCall
  | open (driver : UsbDriver) (vid pid : UInt16)
  | lineCodingSet (dev : CdcHandle) (coding : LineCoding)
  | setControlLineState (dev : CdcHandle) (dtr rts : Bool)
  | dataTxBlocking (dev : CdcHandle) (data : List UInt8) (timeoutMs : ℕ)
  | close (dev : CdcHandle)
  deriving DecidableEq

/-- `TX_TIMEOUT_MS` -/
abbrev txTimeoutMs : ℕ := 1000

/-- A call of the API of the bridge. -/
inductive UsbCall
  | send (data : List UInt8)
  | setBaudRate (baudRate : UInt32)
  | isConnected
  deriving DecidableEq

inductive UsbResult
  | err (err : EspErr)
  | connected (connected : Bool)
  deriving DecidableEq

/-- Where `usb_event_task` is. -/
inductive EventTask
  /-- it was not created -/
  | absent
  /-- in `xQueueReceive` -/
  | waiting
  | received (msg : UsbEvent)
  /-- in `open_device` -/
  | opening (vid pid : UInt16)
  /-- before it reads `s_baud_rate` -/
  | opened (dev : ℕ)
  /-- before `cdc_acm_host_line_coding_set` -/
  | coding (dev : ℕ) (coding : LineCoding)
  /-- before `cdc_acm_host_set_control_line_state` -/
  | controlling (dev : ℕ) (coding : LineCoding)
  /-- before it takes the mutex -/
  | publishing (dev : ℕ) (coding : LineCoding)
  /-- before it sets `s_cdc_dev` -/
  | assigning (dev : ℕ) (coding : LineCoding)
  /-- before it takes the mutex -/
  | disconnecting
  /-- before it looks at `s_cdc_dev` -/
  | checking
  /-- before `cdc_acm_host_close` -/
  | closing
  /-- before it clears `s_cdc_dev` -/
  | clearing
  /-- before it gives the mutex back -/
  | releasing (connected : Bool)
  /-- before it sets `available` -/
  | updating (connected : Bool)
  /-- before it tells the clients -/
  | announcing (connected : Bool)
  deriving DecidableEq

/-- Where another task is in a call. -/
inductive Caller
  | idle
  /-- before it takes the mutex -/
  | taking (call : UsbCall)
  /-- before it looks at `s_cdc_dev` -/
  | holding (call : UsbCall)
  /-- before it calls the driver -/
  | calling (call : UsbCall)
  /-- before it gives the mutex back -/
  | giving (call : UsbCall) (result : UsbResult)
  deriving DecidableEq

/-- The tasks that take `s_cdc_mutex`. -/
inductive UsbTask (τ : Type)
  | event
  | caller (task : τ)
  deriving DecidableEq

inductive SerialType
  | uart
  | usbCdc
  deriving DecidableEq

/-- `serial_port_t` without its functions -/
structure SerialPort where
  type : SerialType
  name : CString
  available : Bool
  deriving DecidableEq

/-- The statics of the bridge and of `serial_port.c`, what the driver has opened, and where
the tasks are. -/
structure Bridge (τ : Type) where
  portIndex : ℤ
  baudRate : UInt32
  cdcDev : CdcHandle
  eventQueue : List UsbEvent
  cdcMutex : Mutex (UsbTask τ)
  ports : List SerialPort
  /-- how many devices the driver has opened -/
  opens : ℕ
  eventTask : EventTask
  callers : τ → Caller

inductive BridgeEvent (τ : Type)
  | called (task : τ) (call : UsbCall)
  | returned (task : τ) (call : UsbCall) (result : UsbResult)
  | driver (call : DriverCall) (err : EspErr)
  | opened (dev : ℕ)
  | broadcast (text : CString)
  deriving DecidableEq

section

variable {τ : Type}

/-- `serial_port_get` -/
def serialPortGet (ports : List SerialPort) (portIndex : ℤ) : Option SerialPort :=
  if portIndex < 0 ∨ (ports.length : ℤ) ≤ portIndex then none else ports[portIndex.toNat]?

/-- The port of the bridge is there and available. -/
def Bridge.available (s : Bridge τ) : Bool :=
  (serialPortGet s.ports s.portIndex).any SerialPort.available

/-- `sp->available` is set, if there is such a port. -/
def Bridge.setAvailable (s : Bridge τ) (connected : Bool) : Bridge τ :=
  match serialPortGet s.ports s.portIndex with
  | none => s
  | some _ =>
      { s with ports := s.ports.modify s.portIndex.toNat ({ · with available := connected }) }

/-! ## Start -/

/-- The statics before `serial_port_init_all`. -/
def Bridge.zero : Bridge τ where
  portIndex := -1
  baudRate := 115200
  cdcDev := none
  eventQueue := []
  cdcMutex := .absent
  ports := []
  opens := 0
  eventTask := .absent
  callers := fun _ => .idle

/-- What succeeds while the ports are started. -/
structure SerialBoot where
  uartInit : EspErr
  uartStart : EspErr
  queueCreated : Bool
  mutexCreated : Bool
  libTaskCreated : Bool
  /-- the USB host tells in time that it is installed -/
  notified : Bool
  eventTaskCreated : Bool

/-- `usb_cdc_init` -/
def Bridge.usbCdcInit (boot : SerialBoot) (portIndex : ℤ) (baudRate : UInt32) (s : Bridge τ) :
    EspErr × Bridge τ :=
  let s := { s with portIndex := portIndex, baudRate := baudRate }
  if !boot.queueCreated then (.noMem, s)
  else if !boot.mutexCreated then (.noMem, s)
  else (.ok, { s with eventQueue := [], cdcMutex := .free })

/-- `usb_cdc_start` -/
def Bridge.usbCdcStart (boot : SerialBoot) (s : Bridge τ) : EspErr × Bridge τ :=
  if !boot.libTaskCreated then (.fail, s)
  else if !boot.notified then (.fail, s)
  else if !boot.eventTaskCreated then (.fail, s)
  else (.ok, { s with eventTask := .waiting })

/-- `s_ports` on a target with USB -/
def serialPorts : List SerialPort :=
  [⟨.uart, cstr "UART", true⟩, ⟨.usbCdc, cstr "USB", false⟩]

/-- `serial_port_init_all` on a target with USB.  A failure of the USB port is not fatal. -/
def Bridge.serialPortInitAll (boot : SerialBoot) (usbBaudRate : UInt32) : EspErr × Bridge τ :=
  let s := { Bridge.zero with ports := serialPorts }
  if boot.uartInit ≠ .ok then (boot.uartInit, s)
  else if boot.uartStart ≠ .ok then (boot.uartStart, s)
  else
    let (err, s) := usbCdcInit boot 1 usbBaudRate s
    if err ≠ .ok then (.ok, s) else (.ok, (usbCdcStart boot s).2)

/-- The ports are started and `usb_event_task` runs. -/
def Bridge.Started (s : Bridge τ) : Prop :=
  ∃ boot usbBaudRate, s = (serialPortInitAll boot usbBaudRate).2 ∧ s.eventTask = .waiting

/-! ## Callbacks -/

/-- The length of `s_event_queue`. -/
abbrev eventQueueLength : ℕ := 5

/-- `xQueueSend` without a timeout; nobody looks at its result. -/
def xQueueSend (queue : List UsbEvent) (msg : UsbEvent) : List UsbEvent :=
  if queue.length < eventQueueLength then queue ++ [msg] else queue

/-- `cdc_acm_host_dev_event_data_t` -/
inductive CdcHostEvent
  | error
  | disconnected
  | serialState
  | other
  deriving DecidableEq

/-- `handle_event` -/
def handleEvent (event : CdcHostEvent) (s : Bridge τ) : Bridge τ :=
  match event with
  | .disconnected => { s with eventQueue := xQueueSend s.eventQueue .disconnected }
  | _ => s

/-- `new_dev_cb`, with the vendor and the product of the descriptor if there is one -/
def newDevCb (desc : Option (UInt16 × UInt16)) (s : Bridge τ) : Bridge τ :=
  match desc with
  | none => s
  | some (vid, pid) => { s with eventQueue := xQueueSend s.eventQueue (.connected vid pid) }

/-! ## `usb_event_task` -/

/-- What the clients are told. -/
def usbNotice (connected : Bool) : CString :=
  if connected then cstr "\x7b\"event\":\"usb_connected\"\x7d"
  else cstr "\x7b\"event\":\"usb_disconnected\"\x7d"

/-- A step of `usb_event_task`.  `err` is the answer of the driver, where it is called. -/
def eventTaskStep (vendors : VcpVendors) (err : EspErr) (s : Bridge τ) :
    Option (Bridge τ × List (BridgeEvent τ)) :=
  match s.eventTask with
  | .absent => none
  | .waiting =>
      match s.eventQueue with
      | [] => none
      | msg :: rest => some ({ s with eventQueue := rest, eventTask := .received msg }, [])
  | .received (.connected vid pid) =>
      if s.cdcDev.isSome then some ({ s with eventTask := .waiting }, [])
      else some ({ s with eventTask := .opening vid pid }, [])
  | .received .disconnected => some ({ s with eventTask := .disconnecting }, [])
  | .opening vid pid =>
      if err ≠ .ok then
        some ({ s with eventTask := .waiting }, [.driver (.open (vendors.driver vid) vid pid) err])
      else
        some ({ s with opens := s.opens + 1, eventTask := .opened s.opens },
          [.driver (.open (vendors.driver vid) vid pid) err, .opened s.opens])
  | .opened dev => some ({ s with eventTask := .coding dev (lineCodingAt s.baudRate) }, [])
  | .coding dev coding =>
      some ({ s with eventTask := .controlling dev coding },
        [.driver (.lineCodingSet (some dev) coding) err])
  | .controlling dev coding =>
      some ({ s with eventTask := .publishing dev coding },
        [.driver (.setControlLineState (some dev) true true) err])
  | .publishing dev coding =>
      (s.cdcMutex.take .event).map fun m =>
        ({ s with cdcMutex := m, eventTask := .assigning dev coding }, [])
  | .assigning dev _ => some ({ s with cdcDev := some dev, eventTask := .releasing true }, [])
  | .disconnecting =>
      (s.cdcMutex.take .event).map fun m => ({ s with cdcMutex := m, eventTask := .checking }, [])
  | .checking =>
      if s.cdcDev.isSome then some ({ s with eventTask := .closing }, [])
      else some ({ s with eventTask := .releasing false }, [])
  | .closing => some ({ s with eventTask := .clearing }, [.driver (.close s.cdcDev) err])
  | .clearing => some ({ s with cdcDev := none, eventTask := .releasing false }, [])
  | .releasing connected =>
      some ({ s with cdcMutex := s.cdcMutex.give, eventTask := .updating connected }, [])
  | .updating connected =>
      some ({ s.setAvailable connected with eventTask := .announcing connected }, [])
  | .announcing connected =>
      some ({ s with eventTask := .waiting }, [.broadcast (usbNotice connected)])

/-! ## The API -/

/-- What a call returns while the bridge was never initialized. -/
def UsbCall.uninitialized : UsbCall → UsbResult
  | isConnected => .connected false
  | _ => .err .invalidState

/-- What a call returns when it finds no device. -/
def UsbCall.noDevice : UsbCall → UsbResult
  | send _ => .err .invalidState
  | setBaudRate _ => .err .ok
  | isConnected => .connected false

/-- What a call asks of the driver when it finds a device. -/
def UsbCall.driverCall : UsbCall → CdcHandle → Option DriverCall
  | send data, dev => some (.dataTxBlocking dev data txTimeoutMs)
  | setBaudRate baudRate, dev => some (.lineCodingSet dev (lineCodingAt baudRate))
  | isConnected, _ => none

/-- What a call returns when the driver has answered. -/
def UsbCall.answer : UsbCall → EspErr → UsbResult
  | send _, err => .err err
  | setBaudRate _, err => .err (if err ≠ .ok ∧ err ≠ .notSupported then err else .ok)
  | isConnected, _ => .connected true

/-- `s_baud_rate` after the start of a call, which stores it before it takes the mutex. -/
def UsbCall.stored : UsbCall → UInt32 → UInt32
  | setBaudRate baudRate, _ => baudRate
  | _, baudRate => baudRate

variable [DecidableEq τ]

/-- Where a task is in its call. -/
def Bridge.setCaller (s : Bridge τ) (task : τ) (caller : Caller) : Bridge τ :=
  { s with callers := Function.update s.callers task caller }

/-- The start of a call, up to the take of the mutex. -/
def startCall (task : τ) (call : UsbCall) (s : Bridge τ) :
    Option (Bridge τ × List (BridgeEvent τ)) :=
  match s.callers task, s.cdcMutex with
  | .idle, .absent => some (s, [.called task call, .returned task call call.uninitialized])
  | .idle, _ =>
      some ({ s with baudRate := call.stored s.baudRate }.setCaller task (.taking call),
        [.called task call])
  | _, _ => none

/-- A step of a task in a call.  `err` is the answer of the driver, where it is called. -/
def callerStep (task : τ) (err : EspErr) (s : Bridge τ) :
    Option (Bridge τ × List (BridgeEvent τ)) :=
  match s.callers task with
  | .idle => none
  | .taking call =>
      (s.cdcMutex.take (.caller task)).map fun m =>
        ({ s with cdcMutex := m }.setCaller task (.holding call), [])
  | .holding call =>
      if s.cdcDev.isSome then some (s.setCaller task (.calling call), [])
      else some (s.setCaller task (.giving call call.noDevice), [])
  | .calling call =>
      some (s.setCaller task (.giving call (call.answer err)),
        (call.driverCall s.cdcDev).toList.map (.driver · err))
  | .giving call result =>
      some ({ s with cdcMutex := s.cdcMutex.give }.setCaller task .idle,
        [.returned task call result])

/-! ## The machine -/

inductive BridgeAction (τ : Type)
  | hostEvent (event : CdcHostEvent)
  | newDev (desc : Option (UInt16 × UInt16))
  | event (err : EspErr)
  | call (task : τ) (call : UsbCall)
  | run (task : τ) (err : EspErr)

def bridgeStep (vendors : VcpVendors) (s : Bridge τ) :
    BridgeAction τ → Option (Bridge τ × List (BridgeEvent τ))
  | .hostEvent event => some (handleEvent event s, [])
  | .newDev desc => some (newDevCb desc s, [])
  | .event err => eventTaskStep vendors err s
  | .call task call => startCall task call s
  | .run task err => callerStep task err s

def bridgeMachine (τ : Type) [DecidableEq τ] (vendors : VcpVendors) :
    Machine (Bridge τ) (BridgeAction τ) (BridgeEvent τ) where
  step := bridgeStep vendors

end

end WebTerminal
