/-
SpimDriver.DriverTheorems — what one uninterrupted call of each driver
function does, in closed form.

Every later proof about a call cites these lemmas and never unfolds a
statement list again.

* Requests: `run_send_reject`, `run_receive_reject`, `run_transfer_reject`
  (a rejected request returns `DD_DRIVER_ERROR_BUSY` and changes nothing),
  and the accepted forms `run_send_one`, `run_send_many`,
  `run_receive_idle`, `run_transfer_idle`, all written with
  `State.accepted`: `buzy` set, the RUN and EOT words written, `data_left`
  and the enqueues, the command block last.
* Lifecycle: `run_init`, `run_deinit`, and `run_abort` for the abort block.
* Control: `run_control` cuts a call into its sub-protocol body and the
  three statements every path ends with (`DriverSpi.controlTail`);
  `run_controlMisc` and `run_controlMode` give the bodies.
* Queries and callbacks: `run_getStatus`, `run_getDataCount`, and
  `runCalls_of_busy` — on a busy driver, a callback made of queries and
  requests changes nothing and reads `busy`.
-/
import SpimDriver.Driver

namespace SpimDriver

/-! ## Small lemmas of the SoC and the driver record -/

@[simp] theorem Soc.enqueue_enqueued (c : Soc) (e : Enqueue) :
    (c.enqueue e).enqueued = c.enqueued ++ [e] := rfl
@[simp] theorem Soc.enqueue_cmdBlocks (c : Soc) (e : Enqueue) :
    (c.enqueue e).cmdBlocks = if e.ch = .cmd then c.cmdBlocks + 1 else c.cmdBlocks := rfl
@[simp] theorem Soc.enqueue_eot (c : Soc) (e : Enqueue) : (c.enqueue e).eot = c.eot := rfl
@[simp] theorem Soc.enqueue_staleEot (c : Soc) (e : Enqueue) :
    (c.enqueue e).staleEot = c.staleEot := rfl
@[simp] theorem Soc.enqueue_clock (c : Soc) (e : Enqueue) : (c.enqueue e).clock = c.clock := rfl
@[simp] theorem Soc.enqueue_eotEvent (c : Soc) (e : Enqueue) :
    (c.enqueue e).eotEvent = c.eotEvent := rfl

/-- The four words of the command block are distinct. -/
@[simp] theorem cmdIds_ne :
    cmdCfgId ≠ cmdSotId ∧ cmdCfgId ≠ cmdRunId ∧ cmdCfgId ≠ cmdEotId ∧ cmdSotId ≠ cmdRunId ∧
    cmdSotId ≠ cmdEotId ∧ cmdRunId ≠ cmdEotId ∧ cmdSotId ≠ cmdCfgId ∧ cmdRunId ≠ cmdCfgId ∧
    cmdEotId ≠ cmdCfgId ∧ cmdRunId ≠ cmdSotId ∧ cmdEotId ≠ cmdSotId ∧ cmdEotId ≠ cmdRunId := by
  decide

@[simp] theorem DriverSpi.setCmd_bufferCmd (d : DriverSpi) (i : Fin 4) (w : UInt32) :
    (d.setCmd i w).bufferCmd = Function.update d.bufferCmd i w := rfl

/-- A command-word store keeps every other field. -/
@[simp] theorem DriverSpi.setCmd_fields (d : DriverSpi) (i : Fin 4) (w : UInt32) :
    (d.setCmd i w).bitsword = d.bitsword ∧ (d.setCmd i w).lsbfirst = d.lsbfirst ∧
    (d.setCmd i w).sizefactor = d.sizefactor ∧ (d.setCmd i w).bytesword = d.bytesword ∧
    (d.setCmd i w).dataLeft = d.dataLeft ∧ (d.setCmd i w).buzy = d.buzy ∧
    (d.setCmd i w).callback = d.callback := by
  simp [DriverSpi.setCmd]

@[simp] theorem Soc.clear_data (c : Soc) : c.clear .rx = c ∧ c.clear .tx = c := ⟨rfl, rfl⟩

/-- The size class keeps every field but `bytesword` and `sizefactor`. -/
@[simp] theorem DriverSpi.sizeClass_fields (P : Pulp) (d : DriverSpi) :
    (d.sizeClass P).bitsword = d.bitsword ∧ (d.sizeClass P).lsbfirst = d.lsbfirst ∧
    (d.sizeClass P).bufferCmd = d.bufferCmd ∧ (d.sizeClass P).dataLeft = d.dataLeft ∧
    (d.sizeClass P).buzy = d.buzy ∧ (d.sizeClass P).callback = d.callback := by
  unfold DriverSpi.sizeClass; split_ifs <;> simp

/-! ## Requests -/

/-- The state an accepted request leaves: `buzy` set, the RUN word and
the EOT word written, `data_left` set to `dataLeft`, and the enqueues
`enq` made in order. -/
def State.accepted (s : State) (runW eotW dataLeft : UInt32) (enq : List Enqueue) : State where
  drv :=
    { s.drv with
      buzy := true
      dataLeft := dataLeft
      bufferCmd := Function.update (Function.update s.drv.bufferCmd cmdRunId runW) cmdEotId eotW }
  soc := enq.foldl Soc.enqueue s.soc

/-- The enqueue of the command block. -/
def cmdEnqueue (P : Pulp) : Enqueue := ⟨.cmd, .bufferCmd, 16, P.udmaChannelCfgSize32⟩

/-- The enqueue of a data buffer of `num` items. -/
def dataEnqueue (ch : Channel) (data : Buf) (num : UInt32) (d : DriverSpi) : Enqueue :=
  ⟨ch, .mem data, num <<< d.sizefactor.toUInt32, d.bytesword⟩

section Requests

variable {P : Pulp} {s : State}

theorem run_send_reject (data : Buf) (num : UInt32) (config : UInt8)
    (h : num = 0 ∨ s.drv.buzy = true) :
    (Call.send data num config).run P s = (s, ddDriverErrorBusy) := by
  by_cases h0 : num = 0
  · simp [Call.run, Call.stmts, ddSpiSend, run, Stmt.exec, Stmt.ret, h0]
  · simp [Call.run, Call.stmts, ddSpiSend, run, Stmt.exec, Stmt.ret, h0, h.resolve_left h0]

theorem run_receive_reject (data : Buf) (num : UInt32) (config : UInt8)
    (hb : s.drv.buzy = true) :
    (Call.receive data num config).run P s = (s, ddDriverErrorBusy) := by
  simp [Call.run, Call.stmts, ddSpiReceive, run, Stmt.exec, Stmt.ret, hb]

theorem run_transfer_reject (dataOut dataIn : Buf) (num : UInt32) (hb : s.drv.buzy = true) :
    (Call.transfer dataOut dataIn num).run P s = (s, ddDriverErrorBusy) := by
  simp [Call.run, Call.stmts, ddSpiTransfer, run, Stmt.exec, Stmt.ret, hb]

theorem run_send_one (data : Buf) (config : UInt8) (hb : s.drv.buzy = false) :
    (Call.send data 1 config).run P s =
      (s.accepted
        (P.spiCmdSendCmd (data.bytes.getD 0 0).toUInt32 s.drv.bitsword.toUInt32
          (cfgFlag config ddSpiXferQspiMsk))
        (P.spiCmdEot P.spiCmdEotEventEna (cfgFlag config ddSpiXferPendingMsk))
        s.drv.dataLeft [cmdEnqueue P], ddDriverOk) := by
  simp [Call.run, Call.stmts, ddSpiSend, run, Stmt.exec, hb, Stmt.ret, Stmt.enqueueCmd,
    State.accepted, cmdEnqueue, DriverSpi.setCmd]

theorem run_send_many (data : Buf) (num : UInt32) (config : UInt8) (h0 : num ≠ 0) (h1 : num ≠ 1)
    (hb : s.drv.buzy = false) :
    (Call.send data num config).run P s =
      (s.accepted
        (P.spiCmdTxData num 0 s.drv.bitsword.toUInt32 (cfgFlag config ddSpiXferQspiMsk)
          s.drv.lsbfirst.toUInt32)
        (P.spiCmdEot P.spiCmdEotEventEna (cfgFlag config ddSpiXferPendingMsk))
        num [dataEnqueue .tx data num s.drv, cmdEnqueue P], ddDriverOk) := by
  simp [Call.run, Call.stmts, ddSpiSend, run, Stmt.exec, hb, h0, h1, Stmt.ret, Stmt.enqueueData,
    Stmt.enqueueCmd, State.accepted, dataEnqueue, cmdEnqueue, DriverSpi.setCmd]

/-- Receive writes EOT before RUN; the two stores commute. -/
theorem run_receive_idle (data : Buf) (num : UInt32) (config : UInt8) (hb : s.drv.buzy = false) :
    (Call.receive data num config).run P s =
      (s.accepted
        (P.spiCmdRxData num 0 s.drv.bitsword.toUInt32 (cfgFlag config ddSpiXferQspiMsk)
          s.drv.lsbfirst.toUInt32)
        (P.spiCmdEot P.spiCmdEotEventEna (cfgFlag config ddSpiXferPendingMsk))
        num [dataEnqueue .rx data num s.drv, cmdEnqueue P], ddDriverOk) := by
  simp [Call.run, Call.stmts, ddSpiReceive, run, Stmt.exec, hb, Stmt.ret, Stmt.enqueueData,
    Stmt.enqueueCmd, State.accepted, dataEnqueue, cmdEnqueue, DriverSpi.setCmd,
    Function.update_comm (show cmdEotId ≠ cmdRunId by decide)]

theorem run_transfer_idle (dataOut dataIn : Buf) (num : UInt32) (hb : s.drv.buzy = false) :
    (Call.transfer dataOut dataIn num).run P s =
      (s.accepted (P.spiCmdFul num 0 s.drv.bitsword.toUInt32 s.drv.lsbfirst.toUInt32)
        (P.spiCmdEot P.spiCmdEotEventEna 0) (num <<< 1)
        [dataEnqueue .rx dataIn num s.drv, dataEnqueue .tx dataOut num s.drv, cmdEnqueue P],
        ddDriverOk) := by
  simp [Call.run, Call.stmts, ddSpiTransfer, run, Stmt.exec, hb, Stmt.ret, Stmt.enqueueData,
    Stmt.enqueueCmd, State.accepted, dataEnqueue, cmdEnqueue, DriverSpi.setCmd,
    Function.update_comm (show cmdEotId ≠ cmdRunId by decide)]

end Requests

/-! ## Abort, initialize, uninitialize -/

/-- What `DD_SPI_AbortTransfer` leaves: the channels cleared, `buzy` false. -/
def State.abort (s : State) : State where
  drv := { s.drv with buzy := false }
  soc := s.soc.clear .cmd

theorem run_abort (P : Pulp) (s : State) (e : Int) :
    run P ddSpiAbortTransfer s e = (s.abort, e) := by
  simp [ddSpiAbortTransfer, run, Stmt.exec, State.abort]

theorem run_init (P : Pulp) (s : State) (cb : Option (List Call)) :
    (Call.init cb).run P s =
      ({ drv := { s.drv with buzy := false, callback := cb, dataLeft := 0 },
         soc := { s.soc with clock := true, eotEvent := true } }, ddDriverOk) := by
  cases cb <;> simp [Call.run, Call.stmts, ddSpiInitialize, run, Stmt.exec, Stmt.ret]

theorem run_deinit (P : Pulp) (s : State) :
    Call.deinit.run P s =
      ({ drv := { s.drv with buzy := false, callback := none, dataLeft := 0 },
         soc := { s.soc.clear .cmd with clock := false, eotEvent := false } }, ddDriverOk) := by
  simp [Call.run, Call.stmts, ddSpiUninitialize, run, Stmt.exec, Stmt.ret, ddSpiAbortTransfer]

/-! ## Control -/

/-- The three statements every path of `DD_SPI_Control` ends with
(lines 330-347): the size class, `SOT(0)` and `EOT(EVENT_ENA, 0)`. -/
def DriverSpi.controlTail (P : Pulp) (d : DriverSpi) : DriverSpi :=
  ((d.sizeClass P).setCmd cmdSotId (P.spiCmdSot 0)).setCmd cmdEotId (P.spiCmdEot P.spiCmdEotEventEna 0)

/-- The sub-protocol `DD_SPI_Control` runs before its tail. -/
def controlBody (P : Pulp) (ctl arg freq : UInt32) (clockdiv : UInt8) : List Stmt :=
  if ctl &&& ddSpiMiscellaneousMsk ≠ 0 then controlMisc ctl arg freq
  else controlMode P ctl arg freq clockdiv

theorem controlBody_no_ifIdle (P : Pulp) (ctl arg freq : UInt32) (clockdiv : UInt8) :
    ∀ st ∈ controlBody P ctl arg freq clockdiv, st ≠ .ifIdle := by
  rintro st hst rfl
  unfold controlBody at hst
  split at hst
  · unfold controlMisc ddSpiAbortTransfer at hst; split_ifs at hst <;> simp [Stmt.ret] at hst
  · unfold controlMode ddSpiAbortTransfer at hst; split_ifs at hst <;> simp [Stmt.ret] at hst

theorem run_control (P : Pulp) (s : State) (ctl arg freq : UInt32) (clockdiv : UInt8) :
    (Call.control ctl arg freq clockdiv).run P s =
      let r := run P (controlBody P ctl arg freq clockdiv) s ddDriverOk
      ({ r.1 with drv := r.1.drv.controlTail P }, r.2) := by
  have h : (Call.control ctl arg freq clockdiv).stmts P = .ret ddDriverOk ::
      (controlBody P ctl arg freq clockdiv ++ [.sizeClass, .cmd cmdSotId fun _ => P.spiCmdSot 0,
        .cmd cmdEotId fun _ => P.spiCmdEot P.spiCmdEotEventEna 0]) := rfl
  have h0 : (Stmt.ret ddDriverOk).exec P (s, 0) = some (s, ddDriverOk) := rfl
  rw [Call.run, h, run_cons_some h0,
    run_append _ _ _ _ _ (controlBody_no_ifIdle P ctl arg freq clockdiv)]
  simp [run, Stmt.exec, DriverSpi.controlTail]

theorem run_controlMisc (P : Pulp) (s : State) (e : Int) (ctl arg freq : UInt32) :
    run P (controlMisc ctl arg freq) s e =
      if ctl = ddSpiSetBusSpeed then
        if baudOk arg freq then
          ({ s with drv := s.drv.setCmd cmdCfgId (setDivider (s.drv.bufferCmd cmdCfgId) (divider arg freq)) }, e)
        else (s, ddSpiErrorMode)
      else if ctl = ddSpiGetBusSpeed then
        (s, asInt32 (freq / (s.drv.bufferCmd cmdCfgId &&& 0xFF).toUInt8.toUInt32))
      else if ctl = ddSpiAbortTransferCode then (s.abort, e)
      else (s, ddDriverErrorParameter) := by
  unfold controlMisc
  split_ifs <;> simp [run, Stmt.exec, Stmt.ret, run_abort, State.abort]

/-- What the mode sub-protocol does before its config-word store: an
accepted `MODE_MASTER` ungates the clock, a rejected one sets the mode
error, inactive mode aborts. -/
def modePrefix (s : State) (e : Int) (ctl arg freq : UInt32) : State × Int :=
  if ctl &&& ddSpiControlMsk = ddSpiModeMaster then
    if baudOk arg freq then ({ s with soc := { s.soc with clock := true } }, e)
    else (s, ddSpiErrorMode)
  else (s.abort, e)

theorem run_controlMode (P : Pulp) (s : State) (e : Int) (ctl arg freq : UInt32) (clockdiv : UInt8) :
    run P (controlMode P ctl arg freq clockdiv) s e =
      let r := modePrefix s e ctl arg freq
      ({ r.1 with drv := { r.1.drv.setCmd cmdCfgId (cfgWord P ctl (modeClockdiv ctl arg freq clockdiv)) with
          bitsword := if badBits (rawBits ctl) then 8 else rawBits ctl
          lsbfirst := ((ctl &&& ddSpiBitOrderMsk) >>> ddSpiBitOrderPos).toUInt8 } },
       if badBits (rawBits ctl) then ddSpiErrorDataBits else r.2) := by
  unfold controlMode modePrefix
  by_cases hb : badBits (rawBits ctl) <;>
  split_ifs <;> simp [run, Stmt.exec, Stmt.ret, hb, ddSpiAbortTransfer, State.abort]

/-! ## Queries and callbacks -/

theorem run_getStatus (P : Pulp) (s : State) :
    Call.getStatus.run P s = (s, if s.drv.buzy then 1 else 0) := by
  simp [Call.run, Call.stmts, ddSpiGetStatus, run, Stmt.exec, Stmt.ret]

/-- `DD_SPI_GetDataCount` for the register readings `txSize`, `rxSize`. -/
def dataCount (d : DriverSpi) (txSize rxSize : UInt32) : UInt32 :=
  d.dataLeft - ((txSize >>> d.sizefactor.toUInt32) + (rxSize >>> d.sizefactor.toUInt32))

theorem run_getDataCount (P : Pulp) (s : State) (txSize rxSize : UInt32) :
    (Call.getDataCount txSize rxSize).run P s = (s, ((dataCount s.drv txSize rxSize).toNat : Int)) := by
  simp [Call.run, Call.stmts, ddSpiGetDataCount, run, Stmt.exec, dataCount]

/-- A call that only reads the driver or requests a transfer. -/
def Call.isRequest : Call → Bool
  | .send .. | .receive .. | .transfer .. | .getStatus | .getDataCount .. => true
  | _ => false

/-- What a query or a request returns on a busy driver. -/
def Call.busyReply (d : DriverSpi) : Call → Int
  | .getStatus => 1
  | .getDataCount txSize rxSize => (dataCount d txSize rxSize).toNat
  | _ => ddDriverErrorBusy

/-- On a busy driver a query or a request changes nothing. -/
theorem run_of_busy_request (P : Pulp) (s : State) (c : Call) (hc : c.isRequest = true)
    (hb : s.drv.buzy = true) : c.run P s = (s, c.busyReply s.drv) := by
  cases c with
  | send => exact run_send_reject _ _ _ (.inr hb)
  | receive => exact run_receive_reject _ _ _ hb
  | transfer => exact run_transfer_reject _ _ _ hb
  | getStatus => simp [run_getStatus, hb, Call.busyReply]
  | getDataCount => simp [run_getDataCount, Call.busyReply]
  | _ => simp [Call.isRequest] at hc

@[simp] theorem runCalls_nil (P : Pulp) (s : State) : runCalls P [] s = (s, []) := rfl

theorem runCalls_cons (P : Pulp) (s : State) (c : Call) (cs : List Call) :
    runCalls P (c :: cs) s =
      ((runCalls P cs (c.run P s).1).1, (c.run P s).2 :: (runCalls P cs (c.run P s).1).2) := rfl

/-- A callback of queries and requests run on a busy driver changes
nothing, and each call returns its busy reply. -/
theorem runCalls_of_busy (P : Pulp) (s : State) (cb : List Call)
    (hcb : ∀ c ∈ cb, c.isRequest = true) (hb : s.drv.buzy = true) :
    runCalls P cb s = (s, cb.map (Call.busyReply s.drv)) := by
  induction cb with
  | nil => rfl
  | cons c cs ih =>
    rw [runCalls_cons, run_of_busy_request P s c (hcb c (by simp)) hb,
      ih fun c' h => hcb c' (by simp [h])]
    rfl

/-- `irq_handler` passes `ARCHI_SOC_EVENT_SPIM0_EOT`, which
`DD_SPI_IrqCallback` maps to the record of `SPIM0`. -/
theorem ddSpiIrqCallback_spim0 (P : Pulp) (s : State) :
    ddSpiIrqCallback P P.archiSocEventSpim0Eot s =
      let r := match s.drv.callback with
        | some cb => runCalls P cb s
        | none => (s, [])
      ({ r.1 with drv := { r.1.drv with buzy := false } }, r.2) :=
  if_neg (not_not.mpr P.spim0Eot_spiId)

end SpimDriver
