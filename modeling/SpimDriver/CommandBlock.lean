/-
SpimDriver.CommandBlock — the four words of the command block a request
enqueues, against the calls made before it.

## What the configuring calls leave

Words 0 and 1 of `buffer_cmd` are written by `DD_SPI_Control` only
(`config_of_call`). A mode Control writes the CFG word from the CFG
opcode, the frame-format bits of its control word, and the value of its
local `clockdiv` at line 318: the divider `f / (r << 1)` when
`MODE_MASTER` accepts the baud `r`, and otherwise whatever the variable
held. An accepted `SET_BUS_SPEED` replaces the divider byte and keeps the
rest (`setDivider_cfgWord`). Every Control writes `SOT(0)`.

* `Call.configure` — that account, call by call: the control word of the
  last mode Control and the divider stored since, or `none` before the
  first mode Control. It is written from the words above, not with the
  driver's own `modeClockdiv`, `divider` and `baudOk`.
* `State.callsOf` — the interface calls a run makes, in order, the calls
  of the callback each interrupt runs included.
* `ConfigMatches` — the record agrees with the account: words 0 and 1,
  and the size class (`BlockConfigInv`). `configMatches_call` is the step
  lemma, `configMatches_steps` the run lemma.

## The block of a request

`request_block`: after every run from process start whose calls include a
mode Control, a request accepted with `num ≥ 1` enqueues its data buffers
and then the 16-byte command block, last. The block holds the CFG word of
the account, `SOT(0)`, the request's RUN word and its EOT word. Two
things in it are not what the request's configuration asks for: after an
inactive mode or a rejected `MODE_MASTER`, the divider is the value
`clockdiv` held; and the RUN word of a one-item Send carries only the
first byte of the item the uDMA would read (`Buf.dmaItem`), which is the
whole item for 8-bit words only.
-/
import SpimDriver.Configuration

namespace SpimDriver

/-! ## What the configuring calls leave -/

/-- The control word of the last mode Control and the divider stored
since: a mode Control stores the divider it computes when `MODE_MASTER`
accepts the baud (`arg <= f` and `arg > f >> 9`), otherwise the value its
`clockdiv` held; an accepted `SET_BUS_SPEED` stores its divider. -/
def Call.configure (cfg : Option (UInt32 × UInt8)) : Call → Option (UInt32 × UInt8)
  | .control ctl arg freq clockdiv =>
    if ctl &&& ddSpiMiscellaneousMsk = 0 then
      some (ctl, if ctl &&& ddSpiControlMsk = ddSpiModeMaster ∧ arg ≤ freq ∧ arg > freq >>> 9 then
        (freq / (arg <<< 1)).toUInt8 else clockdiv)
    else if ctl = ddSpiSetBusSpeed ∧ arg ≤ freq ∧ arg > freq >>> 9 then
      cfg.map fun c => (c.1, (freq / (arg <<< 1)).toUInt8)
    else cfg
  | _ => cfg

/-- The interface calls an event makes the driver run: the application's
call, or on the interrupt those of the registered callback. -/
def Event.calls (s : State) : Event → List Call
  | .call c => [c]
  | .eot => []
  | .irq => s.drv.callback.getD []

/-- The interface calls a run makes, in order, up to its first impossible event. -/
def State.callsOf (P : Pulp) : State → List Event → List Call
  | _, [] => []
  | s, e :: es =>
    match s.step P e with
    | some s' => e.calls s ++ s'.callsOf P es
    | none => []

/-- Words 0 and 1 of the command block as a control word `ctl` and a
divider `div` leave them, and the size class. -/
structure BlockConfigInv (P : Pulp) (c : Config) (ctl : UInt32) (div : UInt8) : Prop where
  cfg : c.cfgWord = cfgWord P ctl div
  sot : c.sotWord = P.spiCmdSot 0
  size : SizeClassInv P c

/-- The configuration agrees with the account of the configuring calls, once there is one. -/
def ConfigMatches (P : Pulp) (c : Config) (cfg : Option (UInt32 × UInt8)) : Prop :=
  ∀ ctl div, cfg = some (ctl, div) → BlockConfigInv P c ctl div

section Runs

variable {P : Pulp}

/-- Clearing `buzy` keeps the configuration. -/
@[simp] theorem DriverSpi.config_buzy (d : DriverSpi) (b : Bool) : { d with buzy := b }.config = d.config := rfl

/-- A mode Control leaves the account's CFG word, `SOT(0)` and a size
class; `SET_BUS_SPEED` moves the divider; other Controls keep words 0
and 1. -/
theorem configMatches_control (s : State) (ctl arg freq : UInt32) (clockdiv : UInt8)
    {cfg : Option (UInt32 × UInt8)} (h : ConfigMatches P s.drv.config cfg) :
    ConfigMatches P ((Call.control ctl arg freq clockdiv).run P s).1.drv.config
      (Call.configure cfg (.control ctl arg freq clockdiv)) := by
  have hcfg := control_cfg P s ctl arg freq clockdiv
  have hsot := (control_tail P s ctl arg freq clockdiv).1
  intro ctl' div' heq
  simp only [Call.configure] at heq
  by_cases hm : ctl &&& ddSpiMiscellaneousMsk = 0
  · rw [if_pos hm] at heq
    cases heq
    exact ⟨hcfg.trans (if_neg (not_not.mpr hm)), hsot, control_sizeClassInv s ctl arg freq clockdiv (.inl hm)⟩
  · rw [if_neg hm] at heq
    rw [if_pos hm] at hcfg
    by_cases hset : ctl = ddSpiSetBusSpeed ∧ arg ≤ freq ∧ arg > freq >>> 9
    · rw [if_pos hset] at heq
      rw [if_pos (show ctl = ddSpiSetBusSpeed ∧ baudOk arg freq from hset)] at hcfg
      obtain ⟨⟨c, d⟩, hc, hpair⟩ := Option.map_eq_some'.mp heq
      cases hpair
      have hinv := h c d hc
      refine ⟨hcfg.trans ?_, hsot, control_sizeClassInv s ctl arg freq clockdiv (.inr hinv.size)⟩
      exact (congrArg (setDivider · (divider arg freq)) hinv.cfg).trans (setDivider_cfgWord P c d _)
    · rw [if_neg hset] at heq
      rw [if_neg (show ¬(ctl = ddSpiSetBusSpeed ∧ baudOk arg freq) from hset)] at hcfg
      have hinv := h ctl' div' heq
      exact ⟨hcfg.trans hinv.cfg, hsot, control_sizeClassInv s ctl arg freq clockdiv (.inr hinv.size)⟩

/-- Every call keeps the record in agreement with the account. -/
theorem configMatches_call (s : State) (c : Call) {cfg : Option (UInt32 × UInt8)}
    (h : ConfigMatches P s.drv.config cfg) :
    ConfigMatches P (c.run P s).1.drv.config (Call.configure cfg c) := by
  cases hc : c.isControl
  · rw [config_of_call P s c hc]
    cases c <;> first | exact h | simp [Call.isControl] at hc
  · cases c <;> simp only [Call.isControl, Bool.false_eq_true] at hc
    exact configMatches_control s _ _ _ _ h

theorem configMatches_runCalls (cb : List Call) (s : State) {cfg : Option (UInt32 × UInt8)}
    (h : ConfigMatches P s.drv.config cfg) :
    ConfigMatches P (runCalls P cb s).1.drv.config (cb.foldl Call.configure cfg) := by
  induction cb generalizing s cfg with
  | nil => exact h
  | cons c cb ih => exact ih _ (configMatches_call s c h)

/-- An event keeps the agreement: the end of transfer touches the SoC
only, and the interrupt runs the callback's calls and clears `buzy`. -/
theorem configMatches_step {s s' : State} {e : Event} {cfg : Option (UInt32 × UInt8)}
    (h : ConfigMatches P s.drv.config cfg) (hs : s.step P e = some s') :
    ConfigMatches P s'.drv.config ((e.calls s).foldl Call.configure cfg) := by
  rcases step_cases hs with ⟨c, rfl, rfl⟩ | ⟨rfl, -, -, rfl⟩ | ⟨rfl, c, -, rfl⟩
  · exact configMatches_call s c h
  · exact h
  · rw [ddSpiIrqCallback_spim0]
    cases hcb : s.drv.callback with
    | none => simpa [Event.calls, hcb] using h
    | some cb => simpa [Event.calls, hcb] using configMatches_runCalls cb { s with soc := c } h

/-- Along every run the record agrees with the account of the calls the run makes. -/
theorem configMatches_steps (es : List Event) {s s' : State} {cfg : Option (UInt32 × UInt8)}
    (h : ConfigMatches P s.drv.config cfg) (hs : s.steps P es = some s') :
    ConfigMatches P s'.drv.config ((s.callsOf P es).foldl Call.configure cfg) := by
  induction es generalizing s cfg with
  | nil => cases hs; exact h
  | cons e es ih =>
    obtain ⟨s₁, h₁, h₂⟩ := Option.bind_eq_some.mp hs
    simp only [State.callsOf, h₁, List.foldl_append]
    exact ih (configMatches_step h h₁) h₂

end Runs

/-! ## The block of a request -/

/-- The data buffers of a request, by channel: none for a one-item Send,
TX for a longer Send, RX for Receive, RX then TX for Transfer. -/
def Call.dataBuffers : Call → List (Channel × Buf)
  | .send data num _ => if num = 1 then [] else [(.tx, data)]
  | .receive data _ _ => [(.rx, data)]
  | .transfer dataOut dataIn _ => [(.rx, dataIn), (.tx, dataOut)]
  | _ => []

/-- An option bit of a request's `config`, as 0 or 1; Transfer has none. -/
def Call.option (mask : UInt8) : Call → UInt32
  | .send _ _ config | .receive _ _ config => if config &&& mask = 0 then 0 else 1
  | _ => 0

/-- The RUN word of a request made on the record `d`: `SEND_CMD` of the
first byte of the item the uDMA would read, for a one-item Send;
`TX_DATA`, `RX_DATA` or `FUL` with the count, the width, the QSPI option
and the bit order where the command has them. -/
def Call.runWord (P : Pulp) (d : DriverSpi) : Call → UInt32
  | .send data num config =>
    if num = 1 then
      P.spiCmdSendCmd ((data.dmaItem d.sizefactor).headD 0).toUInt32 d.bitsword.toUInt32
        (Call.option ddSpiXferQspiMsk (.send data num config))
    else
      P.spiCmdTxData num 0 d.bitsword.toUInt32 (Call.option ddSpiXferQspiMsk (.send data num config))
        d.lsbfirst.toUInt32
  | .receive data num config =>
    P.spiCmdRxData num 0 d.bitsword.toUInt32 (Call.option ddSpiXferQspiMsk (.receive data num config))
      d.lsbfirst.toUInt32
  | .transfer _ _ num => P.spiCmdFul num 0 d.bitsword.toUInt32 d.lsbfirst.toUInt32
  | _ => 0

/-- The item the uDMA would read starts with byte 0 of the buffer. -/
theorem dmaItem_head (data : Buf) (sizefactor : UInt8) :
    (data.dmaItem sizefactor).headD 0 = data.bytes.getD 0 0 := by
  rw [Buf.dmaItem, ← Nat.succ_pred_eq_of_pos (Nat.two_pow_pos sizefactor.toNat), List.range_succ_eq_map]
  rfl

/-- `(config & mask) != 0` as `0` or `1` is the option bit. -/
theorem cfgFlag_eq (config mask : UInt8) : cfgFlag config mask = if config &&& mask = 0 then 0 else 1 := by
  unfold cfgFlag
  by_cases h : config &&& mask = 0 <;> simp [h]

/-- `num << sizefactor` is the byte count `num * 2 ^ sizefactor` when that fits. -/
theorem shiftLeft_items (num : UInt32) (sf : UInt8) (hsf : sf.toNat ≤ 2)
    (hfit : num.toNat * 2 ^ sf.toNat < 2 ^ 32) :
    num <<< sf.toUInt32 = UInt32.ofNat (num.toNat * 2 ^ sf.toNat) := by
  apply UInt32.toNat.inj
  rw [toNat_shiftLeft _ _ (by rw [toNat_toUInt32]; omega), toNat_toUInt32,
    UInt32.toNat_ofNat_of_lt hfit, Nat.mod_eq_of_lt hfit]

/-- An accepted request keeps words 0 and 1 and writes its RUN and EOT words. -/
theorem accepted_block {s : State} (runW eotW dataLeft : UInt32) (enq : List Enqueue) :
    (s.accepted runW eotW dataLeft enq).drv.bufferCmd cmdCfgId = s.drv.bufferCmd cmdCfgId ∧
    (s.accepted runW eotW dataLeft enq).drv.bufferCmd cmdSotId = s.drv.bufferCmd cmdSotId ∧
    (s.accepted runW eotW dataLeft enq).drv.bufferCmd cmdRunId = runW ∧
    (s.accepted runW eotW dataLeft enq).drv.bufferCmd cmdEotId = eotW := by
  simp only [State.accepted_drv, Function.update_noteq, Function.update_same, ne_eq, cmdIds_ne,
    not_false_eq_true, and_self]

/-- After every run from process start whose calls include a mode
Control, a request accepted with `num ≥ 1` items of
`num * 2 ^ sizefactor < 2 ^ 32` bytes enqueues its data buffers, then the
16-byte command block, last. The block holds the CFG opcode with the
frame-format bits of the last mode Control and the divider stored since,
`SOT(0)`, the request's RUN word, and `EOT` with the event enabled and
the request's pending option. -/
theorem request_block (P : Pulp) (es : List Event) (s : State) (ctl : UInt32) (div : UInt8) (c : Call)
    (hrun : State.init.steps P es = some s)
    (hcfg : (State.init.callsOf P es).foldl Call.configure none = some (ctl, div))
    (hc : c.isTransfer = true) (hb : s.drv.buzy = false) (hn : 1 ≤ c.count.toNat)
    (hfit : c.count.toNat * 2 ^ s.drv.sizefactor.toNat < 2 ^ 32) :
    let r := c.run P s
    r.2 = ddDriverOk ∧
    r.1.soc.enqueued = s.soc.enqueued ++
      c.dataBuffers.map (fun b => ⟨b.1, .mem b.2,
        UInt32.ofNat (c.count.toNat * 2 ^ s.drv.sizefactor.toNat), s.drv.bytesword⟩) ++
      [⟨.cmd, .bufferCmd, 16, P.udmaChannelCfgSize32⟩] ∧
    r.1.drv.bufferCmd cmdCfgId =
      (P.spiCmdCfgId <<< P.spiCmdIdOffset) ||| (ctl &&& ddSpiFrameFormatMsk) ||| div.toUInt32 ∧
    r.1.drv.bufferCmd cmdSotId = P.spiCmdSot 0 ∧
    r.1.drv.bufferCmd cmdRunId = c.runWord P s.drv ∧
    r.1.drv.bufferCmd cmdEotId = P.spiCmdEot P.spiCmdEotEventEna (Call.option ddSpiXferPendingMsk c) := by
  have hblk := @configMatches_steps P es State.init s none (fun _ _ h => by cases h) hrun ctl div hcfg
  have hsh := shiftLeft_items c.count s.drv.sizefactor hblk.size.factor_le hfit
  have hwords : ∀ runW eotW dataLeft enq, runW = c.runWord P s.drv →
      eotW = P.spiCmdEot P.spiCmdEotEventEna (Call.option ddSpiXferPendingMsk c) →
      (s.accepted runW eotW dataLeft enq).drv.bufferCmd cmdCfgId = cfgWord P ctl div ∧
      (s.accepted runW eotW dataLeft enq).drv.bufferCmd cmdSotId = P.spiCmdSot 0 ∧
      (s.accepted runW eotW dataLeft enq).drv.bufferCmd cmdRunId = c.runWord P s.drv ∧
      (s.accepted runW eotW dataLeft enq).drv.bufferCmd cmdEotId =
        P.spiCmdEot P.spiCmdEotEventEna (Call.option ddSpiXferPendingMsk c) := by
    rintro runW eotW dataLeft enq rfl rfl
    have h := @accepted_block s (c.runWord P s.drv)
      (P.spiCmdEot P.spiCmdEotEventEna (Call.option ddSpiXferPendingMsk c)) dataLeft enq
    exact ⟨h.1.trans hblk.cfg, h.2.1.trans hblk.sot, h.2.2⟩
  cases c with
  | send data num config =>
    have h0 : num ≠ 0 := fun h => by simp [Call.count, h] at hn
    by_cases h1 : num = 1
    · subst h1
      rw [run_send_one data config hb]
      refine ⟨rfl, by simp [Call.dataBuffers, cmdEnqueue], hwords _ _ _ _ ?_ ?_⟩ <;>
      simp only [Call.runWord, Call.option, ite_true, dmaItem_head, cfgFlag_eq]
    · rw [run_send_many data num config h0 h1 hb]
      refine ⟨rfl, by simpa [Call.dataBuffers, h1, dataEnqueue, cmdEnqueue] using hsh, hwords _ _ _ _ ?_ ?_⟩ <;>
      simp only [Call.runWord, Call.option, if_neg h1, cfgFlag_eq]
  | receive data num config =>
    rw [run_receive_idle data num config hb]
    refine ⟨rfl, by simpa [Call.dataBuffers, dataEnqueue, cmdEnqueue] using hsh, hwords _ _ _ _ ?_ ?_⟩ <;>
    simp only [Call.runWord, Call.option, cfgFlag_eq]
  | transfer dataOut dataIn num =>
    rw [run_transfer_idle dataOut dataIn num hb]
    exact ⟨rfl, by simpa [Call.dataBuffers, dataEnqueue, cmdEnqueue] using hsh, hwords _ _ _ _ rfl rfl⟩
  | _ => simp [Call.isTransfer] at hc

/-- A 16-bit `MODE_MASTER` at 1 MHz under a 50 MHz clock stores the
divider 25. A `MODE_INACTIVE` after it, its `clockdiv` holding `0xAB`,
leaves `0xAB` in the CFG word of the next block; and a one-item Send of
the 16-bit item `[1, 2]` puts `SEND_CMD` of its first byte in the RUN word. -/
theorem request_block_inactive :
    let es := [Event.call (.control (ddSpiModeMaster ||| ddSpiDataBits 16) 1000000 50000000 0),
      .call (.control (ddSpiModeInactive ||| ddSpiDataBits 16) 0 50000000 0xAB)]
    let s := (State.init.steps Pulp.sample es).getD State.init
    let r := (Call.send ⟨0, [1, 2]⟩ 1 0).run Pulp.sample s
    ((50000000 : UInt32) / ((1000000 : UInt32) <<< 1)).toUInt8 = 25 ∧ s.drv.sizefactor = 1 ∧
    Buf.dmaItem ⟨0, [1, 2]⟩ s.drv.sizefactor = [1, 2] ∧
    r.1.drv.bufferCmd cmdCfgId = (Pulp.sample.spiCmdCfgId <<< Pulp.sample.spiCmdIdOffset) |||
      ((ddSpiModeInactive ||| ddSpiDataBits 16) &&& ddSpiFrameFormatMsk) ||| (0xAB : UInt8).toUInt32 ∧
    r.1.drv.bufferCmd cmdRunId = Pulp.sample.spiCmdSendCmd 1 16 0 := by
  intro es s r
  obtain ⟨-, -, hcfg, -, hrunW, -⟩ := request_block Pulp.sample es s (ddSpiModeInactive ||| ddSpiDataBits 16)
    0xAB (.send ⟨0, [1, 2]⟩ 1 0) rfl rfl rfl rfl (by decide) (by decide)
  exact ⟨by decide, by decide, by decide, hcfg, hrunW.trans (by decide)⟩

end SpimDriver
