/-
SpimDriver.Configuration — what `DD_SPI_Control` configures, and what
every run keeps of it.

## The configuration

`Config` is the part of the driver record that only `DD_SPI_Control`
writes (`config_of_call`): the word format, the size class, and words 0
(CFG) and 1 (SOT) of the command block. `configured_invariant` carries a
property of it that any Control in the mode sub-protocol establishes and
every event keeps. `SizeClassInv` is one: `bitsword` is in `[1, 32]`, and
`sizefactor` and `bytesword` name the smallest of the 8, 16 and 32-bit
elements that holds it (`sizeClass_of_configured`). What words 0 and 1
hold is `SpimDriver.CommandBlock`.

## Calls with a transaction outstanding

`call_frame` says which fields of the command block and of the record
each call writes; `frame_counterexample` is a run where a transaction is
outstanding and Control and Initialize change them.
-/
import SpimDriver.System
import SpimDriver.ControlTheorems
import SpimDriver.RequestTheorems

namespace SpimDriver

/-! ## The configuration -/

/-- What only `DD_SPI_Control` writes. -/
structure Config where
  bitsword : UInt8
  lsbfirst : UInt8
  sizefactor : UInt8
  bytesword : UInt32
  cfgWord : UInt32
  sotWord : UInt32

def DriverSpi.config (d : DriverSpi) : Config :=
  ⟨d.bitsword, d.lsbfirst, d.sizefactor, d.bytesword, d.bufferCmd cmdCfgId, d.bufferCmd cmdSotId⟩

def Call.isControl : Call → Bool
  | .control .. => true
  | _ => false

/-- Every call but Control keeps the configuration. -/
theorem config_of_call (P : Pulp) (s : State) (c : Call) (hc : c.isControl = false) :
    (c.run P s).1.drv.config = s.drv.config := by
  by_cases ht : c.isTransfer = true
  · rcases @transfer_cases P s c ht with h | ⟨-, _, _, _, _, h, -⟩ <;>
    simp [h, DriverSpi.config, Function.update_noteq]
  · cases c with
    | init cb => simp [run_init, DriverSpi.config]
    | deinit => simp [run_deinit, DriverSpi.config]
    | getStatus => simp [run_getStatus]
    | getDataCount => simp [run_getDataCount]
    | _ => simp [Call.isControl, Call.isTransfer] at hc ht

/-- The states of a run from process start that has made a Control call
in the mode sub-protocol. -/
def Configured (P : Pulp) (s : State) : Prop :=
  ∃ es es' ctl arg freq clockdiv, ctl &&& ddSpiMiscellaneousMsk = 0 ∧
    State.init.steps P (es ++ .call (.control ctl arg freq clockdiv) :: es') = some s

/-- A property of the configuration that every Control keeps is kept by every call. -/
theorem call_keeps_config {P : Pulp} {Inv : Config → Prop}
    (hctl : ∀ s ctl arg freq clockdiv, Inv s.drv.config →
      Inv ((Call.control ctl arg freq clockdiv).run P s).1.drv.config)
    (c : Call) (s : State) (h : Inv s.drv.config) : Inv (c.run P s).1.drv.config := by
  cases hc : c.isControl
  · rwa [config_of_call P s c hc]
  · cases c <;> simp [Call.isControl] at hc
    exact hctl s _ _ _ _ h

/-- A property of the configuration that every mode Control establishes
and every Control keeps holds in every configured state. -/
theorem configured_invariant {P : Pulp} {Inv : Config → Prop}
    (hmode : ∀ s ctl arg freq clockdiv, ctl &&& ddSpiMiscellaneousMsk = 0 →
      Inv ((Call.control ctl arg freq clockdiv).run P s).1.drv.config)
    (hctl : ∀ s ctl arg freq clockdiv, Inv s.drv.config →
      Inv ((Call.control ctl arg freq clockdiv).run P s).1.drv.config)
    {s : State} (hs : Configured P s) : Inv s.drv.config := by
  obtain ⟨es, es', ctl, arg, freq, clockdiv, hm, hrun⟩ := hs
  obtain ⟨s₀, s₁, -, h₁, h⟩ := steps_split hrun
  cases h₁
  exact @steps_drv_invariant P (fun d => Inv d.config) (call_keeps_config hctl) (fun _ h => h) es' _ s
    (hmode s₀ ctl arg freq clockdiv hm) h

/-! ## The size class -/

theorem byte_le_iff (a b : UInt8) : a ≤ b ↔ a.toNat ≤ b.toNat := Iff.rfl

theorem not_badBits_iff (b : UInt8) : ¬badBits b ↔ 1 ≤ b.toNat ∧ b.toNat ≤ 32 := by
  show ¬(b.toNat < 1 ∨ 32 < b.toNat) ↔ _
  omega

/-- The uDMA element-size code of a size factor. -/
def sizeCode (P : Pulp) (sizefactor : UInt8) : UInt32 :=
  if sizefactor = 0 then P.udmaChannelCfgSize8
  else if sizefactor = 1 then P.udmaChannelCfgSize16
  else P.udmaChannelCfgSize32

/-- The size codes, and the byte literals the size class compares with. -/
theorem sizeCode_lits (P : Pulp) :
    sizeCode P 0 = P.udmaChannelCfgSize8 ∧ sizeCode P 1 = P.udmaChannelCfgSize16 ∧
    sizeCode P 2 = P.udmaChannelCfgSize32 :=
  ⟨rfl, rfl, rfl⟩

theorem byte_toNat_lits :
    (0 : UInt8).toNat = 0 ∧ (1 : UInt8).toNat = 1 ∧ (2 : UInt8).toNat = 2 ∧ (8 : UInt8).toNat = 8 ∧
    (16 : UInt8).toNat = 16 :=
  ⟨rfl, rfl, rfl, rfl, rfl⟩

/-- The word width and the element that carries it: `sizefactor` indexes
the smallest of the widths `8 * 2 ^ sizefactor` that holds `bitsword`
bits, and `bytesword` is that width's size code. -/
structure SizeClassInv (P : Pulp) (c : Config) : Prop where
  bits_pos : 1 ≤ c.bitsword.toNat
  bits_le : c.bitsword.toNat ≤ 32
  factor_le : c.sizefactor.toNat ≤ 2
  fits : c.bitsword.toNat ≤ 8 * 2 ^ c.sizefactor.toNat
  smallest : 0 < c.sizefactor.toNat → 4 * 2 ^ c.sizefactor.toNat < c.bitsword.toNat
  code : c.bytesword = sizeCode P c.sizefactor

section SizeClass

variable {P : Pulp}

/-- A record whose size fields are the size class of a width in `[1, 32]`. -/
theorem sizeClassInv_of_sizeClass {d : DriverSpi} (hb : 1 ≤ d.bitsword.toNat ∧ d.bitsword.toNat ≤ 32)
    (hsf : d.sizefactor = (d.sizeClass P).sizefactor) (hbw : d.bytesword = (d.sizeClass P).bytesword) :
    SizeClassInv P d.config := by
  unfold DriverSpi.sizeClass at hsf hbw
  split_ifs at hsf hbw <;> simp only [byte_le_iff, byte_toNat_lits] at * <;>
  · refine ⟨hb.1, hb.2, ?_, ?_, ?_, ?_⟩ <;>
    simp only [DriverSpi.config, hsf, hbw, byte_toNat_lits, sizeCode_lits] <;> omega

/-- Control leaves the size class of its `bitsword`; a mode Control also
leaves a width in `[1, 32]`, and a miscellaneous one keeps the width. -/
theorem control_sizeClassInv (s : State) (ctl arg freq : UInt32) (clockdiv : UInt8)
    (h : ctl &&& ddSpiMiscellaneousMsk = 0 ∨ SizeClassInv P s.drv.config) :
    SizeClassInv P ((Call.control ctl arg freq clockdiv).run P s).1.drv.config := by
  obtain ⟨-, -, hsf, hbw⟩ := control_tail P s ctl arg freq clockdiv
  refine sizeClassInv_of_sizeClass ?_ hsf hbw
  rw [control_bitsword]
  split_ifs with hm hbad
  · exact ⟨(h.resolve_left hm).bits_pos, (h.resolve_left hm).bits_le⟩
  · decide
  · exact (not_badBits_iff _).mp hbad

/-- In every state of a run from process start after a Control in the
mode sub-protocol, `bitsword` is in `[1, 32]` and the size fields name
its element. -/
theorem sizeClass_of_configured (s : State) (hs : Configured P s) : SizeClassInv P s.drv.config :=
  configured_invariant (fun s _ _ _ _ hm => control_sizeClassInv s _ _ _ _ (.inl hm))
    (fun s _ _ _ _ h => control_sizeClassInv s _ _ _ _ (.inr h)) hs

end SizeClass

theorem sizeClass_after_master :
    SizeClassInv Pulp.sample
      ((Call.control (ddSpiModeMaster ||| ddSpiDataBits 8) 1000000 50000000 0).run Pulp.sample
        State.init).1.drv.config :=
  sizeClass_of_configured _ ⟨[], [], _, _, _, _, by decide, rfl⟩

/-! ## Calls with a transaction outstanding -/

/-- What each call writes, in every state: a request rejected as busy
nothing, and a query nothing, busy or not. Control never tests `buzy`; it
keeps `data_left` and the RUN word, writes `SOT(0)`, `EOT(EVENT_ENA, 0)`
and the size class of its `bitsword`, and only `SET_BUS_SPEED` and a mode
Control write the CFG word or `bitsword`. Initialize keeps the block and
the size fields and writes `data_left := 0`. -/
theorem call_frame (P : Pulp) (s : State) :
    (∀ c : Call, c.isTransfer = true → s.drv.buzy = true → (c.run P s).1 = s) ∧
    (Call.getStatus.run P s).1 = s ∧ (∀ txSize rxSize, ((Call.getDataCount txSize rxSize).run P s).1 = s) ∧
    (∀ ctl arg freq clockdiv,
      let d := ((Call.control ctl arg freq clockdiv).run P s).1.drv
      d.dataLeft = s.drv.dataLeft ∧ d.bufferCmd cmdRunId = s.drv.bufferCmd cmdRunId ∧
      d.bufferCmd cmdSotId = P.spiCmdSot 0 ∧ d.bufferCmd cmdEotId = P.spiCmdEot P.spiCmdEotEventEna 0 ∧
      d.sizefactor = (d.sizeClass P).sizefactor ∧ d.bytesword = (d.sizeClass P).bytesword ∧
      (ctl &&& ddSpiMiscellaneousMsk ≠ 0 → ctl ≠ ddSpiSetBusSpeed →
        d.bufferCmd cmdCfgId = s.drv.bufferCmd cmdCfgId ∧ d.bitsword = s.drv.bitsword)) ∧
    (∀ cb, let d := ((Call.init cb).run P s).1.drv
      d.bufferCmd = s.drv.bufferCmd ∧ d.sizefactor = s.drv.sizefactor ∧
      d.bytesword = s.drv.bytesword ∧ d.dataLeft = 0) := by
  refine ⟨fun c hc hb => ?_, by rw [run_getStatus], fun _ _ => by rw [run_getDataCount],
    fun ctl arg freq clockdiv => ?_, fun cb => by simp [run_init]⟩
  · rcases @transfer_cases P s c hc with h | ⟨hb', -⟩
    · rw [h]
    · rw [hb] at hb'; cases hb'
  · obtain ⟨hdl, hrun, -⟩ := control_keeps P s ctl arg freq clockdiv
    obtain ⟨hsot, heot, hsf, hbw⟩ := control_tail P s ctl arg freq clockdiv
    refine ⟨hdl, hrun, hsot, heot, hsf, hbw, fun hm hset => ?_⟩
    rw [control_cfg, control_bitsword]
    simp [hm, hset]

/-- From process start, an 8-bit `MODE_MASTER` at 1 MHz under a 50 MHz
clock stores the divider 25, and an accepted two-item Send with the
pending option leaves a transaction outstanding; then `GET_BUS_SPEED`
rewrites the EOT word, a 16-bit `MODE_MASTER` the size factor, and
Initialize `data_left`. -/
theorem frame_counterexample :
    let master := Call.control (ddSpiModeMaster ||| ddSpiDataBits 8) 1000000 50000000 0
    let s := ((Call.send ⟨0, [1, 2]⟩ 2 ddSpiXferPendingMsk).run Pulp.sample
      (master.run Pulp.sample State.init).1).1
    State.init.steps Pulp.sample [.call master, .call (.send ⟨0, [1, 2]⟩ 2 ddSpiXferPendingMsk)] = some s ∧
    s.drv.bufferCmd cmdCfgId &&& 0xFF = 25 ∧ 0 < s.outstanding ∧ s.drv.buzy = true ∧
    ((Call.control ddSpiGetBusSpeed 0 50000000 0).run Pulp.sample s).1.drv.bufferCmd cmdEotId ≠
      s.drv.bufferCmd cmdEotId ∧
    ((Call.control (ddSpiModeMaster ||| ddSpiDataBits 16) 1000000 50000000 0).run Pulp.sample
      s).1.drv.sizefactor ≠ s.drv.sizefactor ∧
    ((Call.init none).run Pulp.sample s).1.drv.dataLeft ≠ s.drv.dataLeft :=
  ⟨rfl, by decide⟩

end SpimDriver
