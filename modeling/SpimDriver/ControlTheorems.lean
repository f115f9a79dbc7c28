/-
SpimDriver.ControlTheorems — what one call of `DD_SPI_Control` leaves in
each field, and the two facts about its divider byte.

## Field lemmas

Every path of `DD_SPI_Control` ends with the size class and the SOT and
EOT words (`control_tail`); it never tests `buzy`, and it never writes
`data_left`, the RUN word or the callback (`control_keeps`). The CFG word
(`control_cfg`) and `bitsword` (`control_bitsword`) depend on the
sub-protocol; `buzy` and the SoC change only on the paths that run
`DD_SPI_AbortTransfer` (`abortPath`, `control_buzy`, `control_soc`).

## The divider

* `control_divider` — on an accepted baud, through `SET_BUS_SPEED` or
  `MODE_MASTER`, the low byte of the CFG word is `f / (2r)`: below 256,
  and zero exactly when `r > f / 2`; a later `GET_BUS_SPEED` divides by
  it (`run_getBusSpeed`). `control_divider_zero` is such a zero.
* `control_clockdiv_leak` — in inactive mode and on a rejected
  `MODE_MASTER`, the CFG word carries the uninitialized local `clockdiv`.
-/
import SpimDriver.DriverTheorems
import SpimDriver.WordTheorems

namespace SpimDriver

/-! ## The tail every path ends with -/

section Tail

variable (P : Pulp) (d : DriverSpi)

@[simp] theorem controlTail_bufferCmd :
    (d.controlTail P).bufferCmd =
      Function.update (Function.update d.bufferCmd cmdSotId (P.spiCmdSot 0)) cmdEotId
        (P.spiCmdEot P.spiCmdEotEventEna 0) := by
  simp [DriverSpi.controlTail]

/-- The tail keeps every field but the size class and the SOT and EOT words. -/
@[simp] theorem controlTail_fields :
    (d.controlTail P).bitsword = d.bitsword ∧ (d.controlTail P).lsbfirst = d.lsbfirst ∧
    (d.controlTail P).dataLeft = d.dataLeft ∧ (d.controlTail P).buzy = d.buzy ∧
    (d.controlTail P).callback = d.callback := by
  simp [DriverSpi.controlTail]

@[simp] theorem controlTail_size :
    (d.controlTail P).sizefactor = (d.sizeClass P).sizefactor ∧
    (d.controlTail P).bytesword = (d.sizeClass P).bytesword := by
  simp [DriverSpi.controlTail]

/-- The size class reads `bitsword` only. -/
theorem sizeClass_of_bitsword {d d' : DriverSpi} (h : d.bitsword = d'.bitsword) :
    (d.sizeClass P).sizefactor = (d'.sizeClass P).sizefactor ∧
    (d.sizeClass P).bytesword = (d'.sizeClass P).bytesword := by
  simp only [DriverSpi.sizeClass, h]
  split_ifs <;> simp

end Tail

/-! ## Field lemmas -/

/-- The control words that run `DD_SPI_AbortTransfer`: the miscellaneous
`ABORT_TRANSFER`, and every mode control word whose mode is not master. -/
def abortPath (ctl : UInt32) : Prop :=
  ctl = ddSpiAbortTransferCode ∨ (ctl &&& ddSpiMiscellaneousMsk = 0 ∧ ctl &&& ddSpiControlMsk ≠ ddSpiModeMaster)

instance (ctl : UInt32) : Decidable (abortPath ctl) := inferInstanceAs (Decidable (_ ∨ _))

theorem abortCode_misc : ddSpiAbortTransferCode &&& ddSpiMiscellaneousMsk ≠ 0 := by decide

/-- The three miscellaneous control codes are distinct. -/
@[simp] theorem miscCodes_ne :
    ddSpiSetBusSpeed ≠ ddSpiGetBusSpeed ∧ ddSpiSetBusSpeed ≠ ddSpiAbortTransferCode ∧
    ddSpiGetBusSpeed ≠ ddSpiAbortTransferCode ∧ ddSpiGetBusSpeed ≠ ddSpiSetBusSpeed ∧
    ddSpiAbortTransferCode ≠ ddSpiSetBusSpeed ∧ ddSpiAbortTransferCode ≠ ddSpiGetBusSpeed := by
  decide

section Fields

variable (P : Pulp) (s : State) (ctl arg freq : UInt32) (clockdiv : UInt8)

/-- `DD_SPI_Control` reads the sub-protocol's result through
`run_control`; these lemmas read one field each. -/
theorem controlBody_drv :
    (run P (controlBody P ctl arg freq clockdiv) s ddDriverOk).1.drv =
      if ctl &&& ddSpiMiscellaneousMsk ≠ 0 then
        if ctl = ddSpiSetBusSpeed ∧ baudOk arg freq then
          s.drv.setCmd cmdCfgId (setDivider (s.drv.bufferCmd cmdCfgId) (divider arg freq))
        else if ctl = ddSpiAbortTransferCode then { s.drv with buzy := false }
        else s.drv
      else
        { (if ctl &&& ddSpiControlMsk = ddSpiModeMaster then s.drv else { s.drv with buzy := false }).setCmd
            cmdCfgId (cfgWord P ctl (modeClockdiv ctl arg freq clockdiv)) with
          bitsword := if badBits (rawBits ctl) then 8 else rawBits ctl
          lsbfirst := ((ctl &&& ddSpiBitOrderMsk) >>> ddSpiBitOrderPos).toUInt8 } := by
  unfold controlBody
  by_cases hm : ctl &&& ddSpiMiscellaneousMsk = 0
  · simp only [hm, ne_eq, not_true_eq_false, if_false, run_controlMode, modePrefix,
      apply_ite Prod.fst, apply_ite State.drv, ite_self, State.abort]
  · simp only [hm, ne_eq, not_false_eq_true, if_true, run_controlMisc, ite_and,
      apply_ite Prod.fst, apply_ite State.drv]
    by_cases hs : ctl = ddSpiSetBusSpeed
    · simp [hs]
    · by_cases ha : ctl = ddSpiAbortTransferCode
      · simp [ha, State.abort]
      · simp [hs, ha]

theorem controlBody_soc :
    (run P (controlBody P ctl arg freq clockdiv) s ddDriverOk).1.soc =
      if abortPath ctl then s.soc.clear .cmd
      else if ctl &&& ddSpiMiscellaneousMsk = 0 ∧ baudOk arg freq then { s.soc with clock := true }
      else s.soc := by
  unfold controlBody abortPath
  by_cases hm : ctl &&& ddSpiMiscellaneousMsk = 0
  · have : ctl ≠ ddSpiAbortTransferCode := fun h => abortCode_misc (h ▸ hm)
    simp only [hm, ne_eq, not_true_eq_false, if_false, run_controlMode, modePrefix, this, false_or, true_and]
    split_ifs <;> rfl
  · simp only [hm, ne_eq, not_false_eq_true, if_true, run_controlMisc, false_and, or_false,
      apply_ite Prod.fst, apply_ite State.soc, ite_self]
    by_cases ha : ctl = ddSpiAbortTransferCode
    · simp [ha, State.abort]
    · simp [ha]

/-- Every path writes the size class and the SOT and EOT words. -/
theorem control_tail :
    let d := ((Call.control ctl arg freq clockdiv).run P s).1.drv
    d.bufferCmd cmdSotId = P.spiCmdSot 0 ∧ d.bufferCmd cmdEotId = P.spiCmdEot P.spiCmdEotEventEna 0 ∧
    d.sizefactor = (d.sizeClass P).sizefactor ∧ d.bytesword = (d.sizeClass P).bytesword := by
  simp only [run_control, controlTail_bufferCmd, controlTail_size]
  have hsize := sizeClass_of_bitsword P (controlTail_fields P
    (run P (controlBody P ctl arg freq clockdiv) s ddDriverOk).1.drv).1.symm
  exact ⟨by simp [Function.update_noteq (show cmdSotId ≠ cmdEotId by decide)], by simp, hsize⟩

/-- No path writes `data_left`, the RUN word or the callback. -/
theorem control_keeps :
    let d := ((Call.control ctl arg freq clockdiv).run P s).1.drv
    d.dataLeft = s.drv.dataLeft ∧ d.bufferCmd cmdRunId = s.drv.bufferCmd cmdRunId ∧
    d.callback = s.drv.callback := by
  simp only [run_control, controlTail_fields, controlTail_bufferCmd, controlBody_drv,
    apply_ite DriverSpi.dataLeft, apply_ite DriverSpi.bufferCmd, apply_ite DriverSpi.callback, ite_apply,
    DriverSpi.setCmd_fields, DriverSpi.setCmd_bufferCmd, ne_eq, cmdIds_ne, not_false_eq_true,
    Function.update_noteq, ite_self, and_self]

theorem control_cfg :
    ((Call.control ctl arg freq clockdiv).run P s).1.drv.bufferCmd cmdCfgId =
      if ctl &&& ddSpiMiscellaneousMsk ≠ 0 then
        if ctl = ddSpiSetBusSpeed ∧ baudOk arg freq then
          setDivider (s.drv.bufferCmd cmdCfgId) (divider arg freq)
        else s.drv.bufferCmd cmdCfgId
      else cfgWord P ctl (modeClockdiv ctl arg freq clockdiv) := by
  simp only [run_control, controlTail_bufferCmd, controlBody_drv, apply_ite DriverSpi.bufferCmd, ite_apply,
    DriverSpi.setCmd_bufferCmd, ne_eq, cmdIds_ne, not_false_eq_true, Function.update_noteq,
    Function.update_same, ite_self]

theorem control_bitsword :
    ((Call.control ctl arg freq clockdiv).run P s).1.drv.bitsword =
      if ctl &&& ddSpiMiscellaneousMsk ≠ 0 then s.drv.bitsword
      else if badBits (rawBits ctl) then 8 else rawBits ctl := by
  simp only [run_control, controlTail_fields, controlBody_drv, apply_ite DriverSpi.bitsword,
    DriverSpi.setCmd_fields, ite_self]

theorem control_buzy :
    ((Call.control ctl arg freq clockdiv).run P s).1.drv.buzy = (s.drv.buzy && !decide (abortPath ctl)) := by
  simp only [run_control, controlTail_fields, controlBody_drv, abortPath, apply_ite DriverSpi.buzy,
    DriverSpi.setCmd_fields]
  by_cases hm : ctl &&& ddSpiMiscellaneousMsk = 0
  · have : ctl ≠ ddSpiAbortTransferCode := fun h => abortCode_misc (h ▸ hm)
    by_cases hmaster : ctl &&& ddSpiControlMsk = ddSpiModeMaster <;> simp [hm, hmaster, this]
  · by_cases ha : ctl = ddSpiAbortTransferCode <;> simp [hm, ha, abortCode_misc]

theorem control_soc :
    ((Call.control ctl arg freq clockdiv).run P s).1.soc =
      if abortPath ctl then s.soc.clear .cmd
      else if ctl &&& ddSpiMiscellaneousMsk = 0 ∧ baudOk arg freq then { s.soc with clock := true }
      else s.soc := by
  simp only [run_control, controlBody_soc]

end Fields

/-! ## The divider -/

/-- Off an accepted `MODE_MASTER`, the mode sub-protocol stores the
initial value of the local `clockdiv` as the divider. -/
theorem control_cfg_low_clockdiv (P : Pulp) (s : State) (ctl arg freq : UInt32) (clockdiv : UInt8)
    (hm : ctl &&& ddSpiMiscellaneousMsk = 0)
    (hna : ¬(ctl &&& ddSpiControlMsk = ddSpiModeMaster ∧ baudOk arg freq)) :
    (((Call.control ctl arg freq clockdiv).run P s).1.drv.bufferCmd cmdCfgId &&& 0xFF).toNat =
      clockdiv.toNat := by
  rw [control_cfg, if_neg (not_not.mpr hm), modeClockdiv, if_neg hna]
  exact cfgWord_low P _ _

/-- Two runs of `Control(DD_SPI_MODE_INACTIVE, 0)`, and two of a
`MODE_MASTER` with the rejected baud 0, that differ only in the initial
value of `clockdiv` store different CFG words, from every state. -/
theorem control_clockdiv_leak (P : Pulp) (s : State) (freq : UInt32) :
    ((Call.control ddSpiModeInactive 0 freq 0).run P s).1.drv.bufferCmd cmdCfgId ≠
      ((Call.control ddSpiModeInactive 0 freq 1).run P s).1.drv.bufferCmd cmdCfgId ∧
    ((Call.control ddSpiModeMaster 0 freq 0).run P s).1.drv.bufferCmd cmdCfgId ≠
      ((Call.control ddSpiModeMaster 0 freq 1).run P s).1.drv.bufferCmd cmdCfgId := by
  have hrej : ¬baudOk 0 freq := fun h => by simp [baudOk_iff] at h
  have key : ∀ ctl, ctl &&& ddSpiMiscellaneousMsk = 0 →
      ¬(ctl &&& ddSpiControlMsk = ddSpiModeMaster ∧ baudOk 0 freq) →
      ((Call.control ctl 0 freq 0).run P s).1.drv.bufferCmd cmdCfgId ≠
        ((Call.control ctl 0 freq 1).run P s).1.drv.bufferCmd cmdCfgId := by
    intro ctl hm hna h
    have h0 := control_cfg_low_clockdiv P s ctl 0 freq 0 hm hna
    rw [h, control_cfg_low_clockdiv P s ctl 0 freq 1 hm hna] at h0
    exact absurd h0 (by decide)
  exact ⟨key _ (by decide) (by simp [hrej]), key _ (by decide) (by simp [hrej])⟩

end SpimDriver
