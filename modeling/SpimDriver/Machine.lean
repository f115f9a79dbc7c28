/-
SpimDriver.Machine — the state the driver acts on, and the statements its
functions are made of.

## State

`DriverSpi` is `Driver_SPI_t` (`Driver_SPI.c` lines 54-65) without its
`driver` field, the function table `DD_SPI_GetDriver` fills in; here the
table is `Call`. `Soc` is what the driver sees of the SoC: the uDMA
channels it enqueues on, the end-of-transfer events in flight, the SPIM
clock gate and the event-unit mask of the SPIM end of transfer. Only the
instance `SPIM0` exists: every entry of the `DD_SPI_*List` tables binds
`SPIM0`, and `irq_handler` dispatches only `ARCHI_SOC_EVENT_SPIM0_EOT`.

## Transactions

A command block enqueued on the CMD channel is a transaction.
`cmdBlocks` counts those whose end of transfer is not raised yet; `eot`
counts raised events of transactions still on the channels; `staleEot`
counts raised events whose transaction an abort cleared before its
interrupt ran. The split of raised events into `eot` and `staleEot` is
bookkeeping only (the event FIFO holds the same entry for both), and it
is what "outstanding" means: a transaction is outstanding from its
enqueue until its own interrupt has run or an abort has cleared the
channels, so `outstanding = cmdBlocks + eot`.

## Statements

A driver function is a list of `Stmt`, one per C statement, in source
order. An `if` on a call argument is resolved when the list is built.
The test of `buzy` (`ifIdle`) is a statement of its own, and so is each
of the two conditionals that read the driver record (`clampBits`,
`sizeClass`), together with its branch. `run` executes a list without
interruption, which is a call of the function; `SpimDriver.Interleaving`
executes one statement at a time, with interrupts in between.
-/
import SpimDriver.Header

namespace SpimDriver

/-! ## The driver record and the SoC -/

/-- A uDMA channel of the SPIM. -/
inductive Channel
  | rx | tx | cmd
  deriving DecidableEq, Repr

/-- A buffer passed by pointer: its address and the bytes stored there. -/
structure Buf where
  addr : UInt32
  bytes : List UInt8
  deriving DecidableEq, Repr

/-- What an enqueue points a channel at: caller memory, or the driver's
own `buffer_cmd`, which the CMD channel reads after the enqueue. -/
inductive Src
  | mem (b : Buf)
  | bufferCmd
  deriving DecidableEq, Repr

/-- One `plp_udma_enqueue(channel, buffer, size, cfg)`. -/
structure Enqueue where
  ch : Channel
  src : Src
  size : UInt32
  cfg : UInt32
  deriving DecidableEq, Repr

/-- A call of the `DD_DRIVER_SPI` interface of `SPIM0`, with its
arguments. A completion callback is the list of driver calls it makes
when `DD_SPI_IrqCallback` invokes it. -/
inductive Call where
  /-- `Initialize(cb_event)` -/
  | init (cbEvent : Option (List Call))
  /-- `Uninitialize()` -/
  | deinit
  /-- `freq` is what `pi_freq_get` returns during the call; `clockdiv` is
  the indeterminate initial value of the local `uint8_t clockdiv`. -/
  | control (control arg freq : UInt32) (clockdiv : UInt8)
  | send (data : Buf) (num : UInt32) (config : UInt8)
  | receive (data : Buf) (num : UInt32) (config : UInt8)
  | transfer (dataOut dataIn : Buf) (num : UInt32)
  | getStatus
  /-- `txSize` and `rxSize` are the channel size registers it reads. -/
  | getDataCount (txSize rxSize : UInt32)

def cmdCfgId : Fin 4 := 0
def cmdSotId : Fin 4 := 1
def cmdRunId : Fin 4 := 2
def cmdEotId : Fin 4 := 3

/-- `Driver_SPI_t`: `int32_t` fields as their 32-bit patterns. -/
structure DriverSpi where
  bitsword : UInt8
  lsbfirst : UInt8
  sizefactor : UInt8
  bytesword : UInt32
  bufferCmd : Fin 4 → UInt32
  dataLeft : UInt32
  buzy : Bool
  callback : Option (List Call)

/-- The SoC as the driver sees it (see the module header). -/
structure Soc where
  /-- every `plp_udma_enqueue`, oldest first -/
  enqueued : List Enqueue
  cmdBlocks : Nat
  eot : Nat
  staleEot : Nat
  /-- the SPIM bit of `plp_udma_cg` -/
  clock : Bool
  /-- the SPIM end of transfer in `soc_eu_fcEventMask` -/
  eotEvent : Bool

structure State where
  drv : DriverSpi
  soc : Soc

/-- `static Driver_SPI_t SPI_Driver_List[...]` is zero-initialized; the
SoC comes out of reset with nothing queued, the clock gated and the event
masked. -/
def State.init : State where
  drv := ⟨0, 0, 0, 0, fun _ => 0, 0, false, none⟩
  soc := ⟨[], 0, 0, 0, false, false⟩

/-- Transactions on the channels whose own interrupt has not run. -/
def State.outstanding (s : State) : Nat := s.soc.cmdBlocks + s.soc.eot

/-! ## Statements -/

/-- The `if / else if / else` on `bitsword` that ends `DD_SPI_Control`
(lines 330-344). -/
def DriverSpi.sizeClass (P : Pulp) (d : DriverSpi) : DriverSpi :=
  if d.bitsword ≤ 8 then { d with bytesword := P.udmaChannelCfgSize8, sizefactor := 0 }
  else if d.bitsword ≤ 16 then { d with bytesword := P.udmaChannelCfgSize16, sizefactor := 1 }
  else { d with bytesword := P.udmaChannelCfgSize32, sizefactor := 2 }

/-- `pdriver->buffer_cmd[i] = w`. -/
def DriverSpi.setCmd (d : DriverSpi) (i : Fin 4) (w : UInt32) : DriverSpi :=
  { d with bufferCmd := Function.update d.bufferCmd i w }

/-- The width test `(bitsword < 1) || (bitsword > 32)` of `DD_SPI_Control`. -/
def badBits (b : UInt8) : Prop := b < 1 ∨ b > 32

instance (b : UInt8) : Decidable (badBits b) := inferInstanceAs (Decidable (_ ∨ _))

/-- `plp_udma_enqueue`: a command block on the CMD channel is a new
transaction. -/
def Soc.enqueue (c : Soc) (e : Enqueue) : Soc :=
  { c with enqueued := c.enqueued ++ [e]
           cmdBlocks := if e.ch = .cmd then c.cmdBlocks + 1 else c.cmdBlocks }

/-- `pulp_write32(channel + UDMA_CHANNEL_CFG_OFFSET, UDMA_CHANNEL_CFG_CLEAR)`:
clearing the CMD channel ends its transactions; their raised events stay
in the FIFO, stale. -/
def Soc.clear (c : Soc) : Channel → Soc
  | .cmd => { c with cmdBlocks := 0, eot := 0, staleEot := c.staleEot + c.eot }
  | _ => c

/-- One C statement of a driver function. -/
inductive Stmt where
  /-- an assignment to the function's result local (`error`, `status`) -/
  | result (f : DriverSpi → Int → Int)
  /-- `if (pdriver->buzy == false) {`: the function returns when busy -/
  | ifIdle
  | buzy (b : Bool)
  | callback (cb : Option (List Call))
  | bitsword (v : UInt8)
  /-- `if (bitsword < 1 || bitsword > 32) { bitsword = 8; error = DD_SPI_ERROR_DATA_BITS; }` -/
  | clampBits
  | lsbfirst (v : UInt8)
  /-- `DriverSpi.sizeClass` -/
  | sizeClass
  | cmd (i : Fin 4) (f : DriverSpi → UInt32)
  | dataLeft (v : UInt32)
  | enqueue (ch : Channel) (src : Src) (size cfg : DriverSpi → UInt32)
  | clear (ch : Channel)
  | eotEvent (enable : Bool)
  | clock (enable : Bool)

/-- A statement's effect on the state and the result local; `none` when
the function returns there (`ifIdle` on a busy driver). -/
def Stmt.exec (P : Pulp) : Stmt → State × Int → Option (State × Int)
  | .result f, (s, e) => some (s, f s.drv e)
  | .ifIdle, (s, e) => if s.drv.buzy then none else some (s, e)
  | .buzy b, (s, e) => some ({ s with drv := { s.drv with buzy := b } }, e)
  | .callback cb, (s, e) => some ({ s with drv := { s.drv with callback := cb } }, e)
  | .bitsword v, (s, e) => some ({ s with drv := { s.drv with bitsword := v } }, e)
  | .clampBits, (s, e) =>
    if badBits s.drv.bitsword then
      some ({ s with drv := { s.drv with bitsword := 8 } }, ddSpiErrorDataBits)
    else some (s, e)
  | .lsbfirst v, (s, e) => some ({ s with drv := { s.drv with lsbfirst := v } }, e)
  | .sizeClass, (s, e) => some ({ s with drv := s.drv.sizeClass P }, e)
  | .cmd i f, (s, e) => some ({ s with drv := s.drv.setCmd i (f s.drv) }, e)
  | .dataLeft v, (s, e) => some ({ s with drv := { s.drv with dataLeft := v } }, e)
  | .enqueue ch src size cfg, (s, e) =>
    some ({ s with soc := s.soc.enqueue ⟨ch, src, size s.drv, cfg s.drv⟩ }, e)
  | .clear ch, (s, e) => some ({ s with soc := s.soc.clear ch }, e)
  | .eotEvent enable, (s, e) => some ({ s with soc := { s.soc with eotEvent := enable } }, e)
  | .clock enable, (s, e) => some ({ s with soc := { s.soc with clock := enable } }, e)

/-- A function body run without interruption, from result local `e`. -/
def run (P : Pulp) : List Stmt → State → Int → State × Int
  | [], s, e => (s, e)
  | st :: rest, s, e =>
    match st.exec P (s, e) with
    | none => (s, e)
    | some (s', e') => run P rest s' e'

@[simp] theorem run_nil (P : Pulp) (s : State) (e : Int) : run P [] s e = (s, e) := rfl

theorem run_cons_some {P : Pulp} {st : Stmt} {rest : List Stmt} {s s' : State} {e e' : Int}
    (h : st.exec P (s, e) = some (s', e')) : run P (st :: rest) s e = run P rest s' e' := by
  simp [run, h]

theorem run_cons_none {P : Pulp} {st : Stmt} {rest : List Stmt} {s : State} {e : Int}
    (h : st.exec P (s, e) = none) : run P (st :: rest) s e = (s, e) := by
  simp [run, h]

theorem run_append (P : Pulp) (l₁ l₂ : List Stmt) (s : State) (e : Int)
    (h : ∀ st ∈ l₁, st ≠ .ifIdle) : run P (l₁ ++ l₂) s e = run P l₂ (run P l₁ s e).1 (run P l₁ s e).2 := by
  induction l₁ generalizing s e with
  | nil => rfl
  | cons st rest ih =>
    obtain ⟨⟨s', e'⟩, hx⟩ : ∃ r, st.exec P (s, e) = some r := by
      cases st with
      | ifIdle => exact absurd rfl (h _ (List.mem_cons_self _ _))
      | clampBits => simp only [Stmt.exec]; split <;> exact ⟨_, rfl⟩
      | _ => exact ⟨_, rfl⟩
    rw [List.cons_append, run_cons_some hx, run_cons_some hx]
    exact ih s' e' (fun x hx => h x (List.mem_cons_of_mem _ hx))

end SpimDriver
