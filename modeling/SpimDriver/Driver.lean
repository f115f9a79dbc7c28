/-
SpimDriver.Driver — the functions of `Driver_SPI.c` and `Driver_IRQ.c`,
each a list of `Stmt` in the order of its C statements.

* `ddSpiAbortTransfer` (lines 193-202), `ddSpiInitialize` (210-228),
  `ddSpiUninitialize` (236-248), `ddSpiControl` (257-349), `ddSpiSend`
  (358-388), `ddSpiReceive` (398-420), `ddSpiTransfer` (429-446),
  `ddSpiGetStatus` (452-459), `ddSpiGetDataCount` (467-473).
* `Call.run` — a call of the interface: the function's statements run
  without interruption, as `DD_SPI_GetDriver(SPIM0)`'s table dispatches it.
* `ddSpiIrqCallback` (509-519) and `irqHandler` (`Driver_IRQ.c` 35-92):
  the completion path. The user callback runs its calls one after the
  other, then `buzy` is cleared.

What the model leaves out, and why, is listed in `MODEL_MAP.json`: the
`printf` calls and the argument the user callback is passed. The
register save/restore assembly of `irq_handler` is
`SpimDriver.Trampoline`.

`pi_freq_get` and the channel size registers are inputs of the call
(`Call.control`, `Call.getDataCount`). `GET_BUS_SPEED` divides by the
divider byte; C leaves a division by zero undefined, and `UInt32`
division returns 0 there. No theorem relies on that value: where the
divider can be zero, the theorems state the divisor.
-/
import Mathlib.Algebra.Group.Int
import SpimDriver.Machine

namespace SpimDriver

/-- `int32_t` read of a 32-bit pattern. -/
def asInt32 (x : UInt32) : Int :=
  if x.toNat < 2 ^ 31 then x.toNat else x.toNat - 2 ^ 32

/-- `return DD_DRIVER_OK;` and the other constant assignments of `error`. -/
def Stmt.ret (e : Int) : Stmt := .result fun _ _ => e

/-! ## Abort, initialize, uninitialize -/

def ddSpiAbortTransfer : List Stmt :=
  [.clear .rx, .clear .tx, .clear .cmd, .buzy false]

def ddSpiInitialize (cbEvent : Option (List Call)) : List Stmt :=
  [.clock true, .callback none, .buzy false] ++
  (match cbEvent with
   | some cb => [.callback (some cb)]
   | none => []) ++
  [.eotEvent true, .dataLeft 0, .ret ddDriverOk]

def ddSpiUninitialize : List Stmt :=
  ddSpiAbortTransfer ++ [.callback none, .dataLeft 0, .clock false, .eotEvent false, .ret ddDriverOk]

/-! ## Control -/

/-- The baud test of `SET_BUS_SPEED` and `MODE_MASTER`:
`(arg <= freq_periph) && (arg > (freq_periph >> 9))`. -/
def baudOk (arg freq : UInt32) : Prop := arg ≤ freq ∧ arg > freq >>> 9

instance (arg freq : UInt32) : Decidable (baudOk arg freq) :=
  inferInstanceAs (Decidable (_ ∧ _))

/-- `clockdiv = freq_periph / ((arg) << 1);` into a `uint8_t`. -/
def divider (arg freq : UInt32) : UInt8 := (freq / (arg <<< 1)).toUInt8

/-- `(pdriver->buffer_cmd[CMD_CFG_ID] & 0xFFFFFF00) | clockdiv` (line 276). -/
def setDivider (w : UInt32) (clockdiv : UInt8) : UInt32 := (w &&& 0xFFFFFF00) ||| clockdiv.toUInt32

/-- The config word the mode sub-protocol writes (line 318). -/
def cfgWord (P : Pulp) (control : UInt32) (clockdiv : UInt8) : UInt32 :=
  (P.spiCmdCfgId <<< P.spiCmdIdOffset) ||| (control &&& ddSpiFrameFormatMsk) ||| clockdiv.toUInt32

/-- The miscellaneous sub-protocol (lines 267-292). -/
def controlMisc (control arg freq : UInt32) : List Stmt :=
  if control = ddSpiSetBusSpeed then
    if baudOk arg freq then
      [.cmd cmdCfgId fun d => setDivider (d.bufferCmd cmdCfgId) (divider arg freq)]
    else [.ret ddSpiErrorMode]
  else if control = ddSpiGetBusSpeed then
    [.result fun d _ => asInt32 (freq / (d.bufferCmd cmdCfgId &&& 0xFF).toUInt8.toUInt32)]
  else if control = ddSpiAbortTransferCode then ddSpiAbortTransfer
  else [.ret ddDriverErrorParameter]

/-- The value of `clockdiv` at line 318: assigned only by an accepted
`MODE_MASTER`, otherwise its indeterminate initial value. -/
def modeClockdiv (control arg freq : UInt32) (clockdiv : UInt8) : UInt8 :=
  if control &&& ddSpiControlMsk = ddSpiModeMaster ∧ baudOk arg freq then divider arg freq
  else clockdiv

/-- `(control & DD_SPI_DATA_BITS_Msk) >> DD_SPI_DATA_BITS_Pos` into `uint8_t bitsword` (line 321). -/
def rawBits (control : UInt32) : UInt8 :=
  ((control &&& ddSpiDataBitsMsk) >>> ddSpiDataBitsPos).toUInt8

/-- The mode sub-protocol (lines 296-328). -/
def controlMode (P : Pulp) (control arg freq : UInt32) (clockdiv : UInt8) : List Stmt :=
  (if control &&& ddSpiControlMsk = ddSpiModeMaster then
    if baudOk arg freq then [.clock true] else [.ret ddSpiErrorMode]
  else ddSpiAbortTransfer) ++
  [.cmd cmdCfgId fun _ => cfgWord P control (modeClockdiv control arg freq clockdiv),
   .bitsword (rawBits control),
   .clampBits,
   .lsbfirst ((control &&& ddSpiBitOrderMsk) >>> ddSpiBitOrderPos).toUInt8]

def ddSpiControl (P : Pulp) (control arg freq : UInt32) (clockdiv : UInt8) : List Stmt :=
  .ret ddDriverOk ::
  (if control &&& ddSpiMiscellaneousMsk ≠ 0 then controlMisc control arg freq
   else controlMode P control arg freq clockdiv) ++
  [.sizeClass,
   .cmd cmdSotId fun _ => P.spiCmdSot 0,
   .cmd cmdEotId fun _ => P.spiCmdEot P.spiCmdEotEventEna 0]

/-! ## Send, receive, transfer -/

/-- `(config & mask) != 0` as the `uint8_t` 0 or 1. -/
def cfgFlag (config mask : UInt8) : UInt32 := if config &&& mask ≠ 0 then 1 else 0

/-- `plp_udma_enqueue(channel, data, num << pdriver->sizefactor, pdriver->bytesword)`. -/
def Stmt.enqueueData (ch : Channel) (data : Buf) (num : UInt32) : Stmt :=
  .enqueue ch (.mem data) (fun d => num <<< d.sizefactor.toUInt32) (·.bytesword)

/-- `plp_udma_enqueue(UDMA_SPIM_CMD_ADDR, buffer_cmd, sizeof(buffer_cmd), UDMA_CHANNEL_CFG_SIZE_32)`. -/
def Stmt.enqueueCmd (P : Pulp) : Stmt :=
  .enqueue .cmd .bufferCmd (fun _ => 16) (fun _ => P.udmaChannelCfgSize32)

def ddSpiSend (P : Pulp) (data : Buf) (num : UInt32) (config : UInt8) : List Stmt :=
  let qspi := cfgFlag config ddSpiXferQspiMsk
  let pending := cfgFlag config ddSpiXferPendingMsk
  .ret ddDriverErrorBusy ::
  if num ≠ 0 then
    [.ifIdle, .buzy true] ++
    (if num = 1 then
      [.cmd cmdRunId fun d => P.spiCmdSendCmd (data.bytes.getD 0 0).toUInt32 d.bitsword.toUInt32 qspi]
    else
      [.cmd cmdRunId fun d => P.spiCmdTxData num 0 d.bitsword.toUInt32 qspi d.lsbfirst.toUInt32,
       .dataLeft num,
       .enqueueData .tx data num]) ++
    [.cmd cmdEotId fun _ => P.spiCmdEot P.spiCmdEotEventEna pending,
     .enqueueCmd P,
     .ret ddDriverOk]
  else []

def ddSpiReceive (P : Pulp) (data : Buf) (num : UInt32) (config : UInt8) : List Stmt :=
  let qspi := cfgFlag config ddSpiXferQspiMsk
  let pending := cfgFlag config ddSpiXferPendingMsk
  [.ret ddDriverErrorBusy,
   .ifIdle,
   .buzy true,
   .cmd cmdEotId fun _ => P.spiCmdEot P.spiCmdEotEventEna pending,
   .cmd cmdRunId fun d => P.spiCmdRxData num 0 d.bitsword.toUInt32 qspi d.lsbfirst.toUInt32,
   .dataLeft num,
   .enqueueData .rx data num,
   .enqueueCmd P,
   .ret ddDriverOk]

def ddSpiTransfer (P : Pulp) (dataOut dataIn : Buf) (num : UInt32) : List Stmt :=
  [.ret ddDriverErrorBusy,
   .ifIdle,
   .buzy true,
   .cmd cmdEotId fun _ => P.spiCmdEot P.spiCmdEotEventEna 0,
   .cmd cmdRunId fun d => P.spiCmdFul num 0 d.bitsword.toUInt32 d.lsbfirst.toUInt32,
   .dataLeft (num <<< 1),
   .enqueueData .rx dataIn num,
   .enqueueData .tx dataOut num,
   .enqueueCmd P,
   .ret ddDriverOk]

/-! ## Status and progress -/

/-- `DD_SPI_STATUS status = {0}; status.busy = pdriver->buzy;`, the
status word as an integer (bit 0 is `busy`). -/
def ddSpiGetStatus : List Stmt :=
  [.ret 0, .result fun d _ => if d.buzy then 1 else 0]

/-- The `uint32_t` it returns, as an integer. -/
def ddSpiGetDataCount (txSize rxSize : UInt32) : List Stmt :=
  [.result fun d _ =>
    (d.dataLeft - ((txSize >>> d.sizefactor.toUInt32) + (rxSize >>> d.sizefactor.toUInt32))).toNat]

/-! ## The interface -/

def Call.stmts (P : Pulp) : Call → List Stmt
  | .init cb => ddSpiInitialize cb
  | .deinit => ddSpiUninitialize
  | .control ctl arg freq clockdiv => ddSpiControl P ctl arg freq clockdiv
  | .send data num config => ddSpiSend P data num config
  | .receive data num config => ddSpiReceive P data num config
  | .transfer dataOut dataIn num => ddSpiTransfer P dataOut dataIn num
  | .getStatus => ddSpiGetStatus
  | .getDataCount txSize rxSize => ddSpiGetDataCount txSize rxSize

/-- A call of the interface: the new state and the value returned. -/
def Call.run (P : Pulp) (c : Call) (s : State) : State × Int := SpimDriver.run P (c.stmts P) s 0

/-- The calls of a callback, one after the other, with their results. -/
def runCalls (P : Pulp) : List Call → State → State × List Int
  | [], s => (s, [])
  | c :: cs, s =>
    let r := c.run P s
    let rs := runCalls P cs r.1
    (rs.1, r.2 :: rs.2)

/-! ## The completion path -/

/-- `uint8_t spi_id = ((evt - ARCHI_UDMA_SPIM_EOT_EVT) / UDMA_NB_PERIPH_EVENTS) - 2;` (line 511). -/
def spiId (P : Pulp) (evt : UInt32) : UInt8 :=
  ((evt - P.archiUdmaSpimEotEvt) / P.udmaNbPeriphEvents - 2).toUInt8

/-- `DD_SPI_IrqCallback(evt)` on `SPI_Driver_List[spi_id]`: the registered
callback, if any, then `pdriver->buzy = false`. Also returns what the
callback's calls returned. The state holds the record of `SPIM0`, index
0; the callback of another index leaves it alone. -/
def ddSpiIrqCallback (P : Pulp) (evt : UInt32) (s : State) : State × List Int :=
  if spiId P evt ≠ 0 then (s, []) else
  let r := match s.drv.callback with
    | some cb => runCalls P cb s
    | none => (s, [])
  ({ r.1 with drv := { r.1.drv with buzy := false } }, r.2)

/-- `irq_handler`: only `ARCHI_SOC_EVENT_SPIM0_EOT` is dispatched. -/
def irqHandler (P : Pulp) (evt : UInt32) (s : State) : State :=
  if evt = P.archiSocEventSpim0Eot then (ddSpiIrqCallback P evt s).1 else s

end SpimDriver
