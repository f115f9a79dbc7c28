/-
SpimDriver.Header — the constants the SPI master driver
(`spim_driver_Dolphine_test/Driver_SPI.c`) reads from its headers.

* `Driver_Common.h` — the status codes every entry point returns.
* `Driver_SPI.h` — the bit layout of the `control` word of `DD_SPI_Control`
  (mode, frame format, data bits, bit order, miscellaneous codes), the
  transfer options of `DD_SPI_Send` / `DD_SPI_Receive`, and the SPI error
  codes.
* `pulp.h` is not part of the repository. The driver takes from it the
  uDMA element-size codes, the SPIM command-word macros `SPI_CMD_*` and the
  event numbers of the SPIM end of transfer. They are the fields of `Pulp`,
  so every theorem of the development holds for every value of them. The
  two properties of theirs that the development uses are fields of `Pulp`:
  the CFG opcode sits above the clock-divider byte and the frame-format
  bits, which is how the spec (§4.1) writes the config word,
  `(opcode=CFG) | clock_divider` plus the frame-format bits; and the index
  `DD_SPI_IrqCallback` computes from the event `irq_handler` passes it is
  that of `SPIM0`, the only instance the driver's tables fill.

Status codes are `Int` (the C functions return `int32_t`); 32-bit
registers, command words and `int32_t` driver fields are `UInt32` bit
patterns, which is what the driver's `&`, `|`, `<<` and `-` act on.
-/
import Mathlib.Logic.Function.Basic

namespace SpimDriver

/-! ## `Driver_Common.h` -/

def ddDriverOk : Int := 0
def ddDriverErrorBusy : Int := -2
def ddDriverErrorParameter : Int := -5
def ddDriverErrorSpecific : Int := -6

/-! ## `Driver_SPI.h` -/

def ddSpiControlMsk : UInt32 := 0xFF
def ddSpiModeInactive : UInt32 := 0x00
def ddSpiModeMaster : UInt32 := 0x01

def ddSpiFrameFormatMsk : UInt32 := 0x700

def ddSpiDataBitsPos : UInt32 := 12
def ddSpiDataBitsMsk : UInt32 := 0x3F000
/-- `DD_SPI_DATA_BITS(n)`: the data-bits field of a control word. -/
def ddSpiDataBits (n : UInt32) : UInt32 := (n &&& 0x3F) <<< ddSpiDataBitsPos

def ddSpiBitOrderPos : UInt32 := 18
def ddSpiBitOrderMsk : UInt32 := 0x40000
/-- `DD_SPI_LSB_MSB`: least significant bit first. -/
def ddSpiLsbMsb : UInt32 := 0x40000

def ddSpiMiscellaneousMsk : UInt32 := 0x10
def ddSpiSetBusSpeed : UInt32 := 0x10
def ddSpiGetBusSpeed : UInt32 := 0x11
/-- `DD_SPI_ABORT_TRANSFER`, renamed: `ddSpiAbortTransfer` is the function. -/
def ddSpiAbortTransferCode : UInt32 := 0x14

def ddSpiErrorMode : Int := ddDriverErrorSpecific - 1
def ddSpiErrorDataBits : Int := ddDriverErrorSpecific - 3

def ddSpiXferPendingMsk : UInt8 := 0x01
def ddSpiXferQspiMsk : UInt8 := 0x02

/-! ## `pulp.h` -/

/-- The `pulp.h` constants and command macros `Driver_SPI.c` uses, absent
from the repository. Each field keeps the macro's name; the macro
arguments are passed as the driver passes them, widened to 32 bits. -/
structure Pulp where
  udmaChannelCfgSize8 : UInt32
  udmaChannelCfgSize16 : UInt32
  udmaChannelCfgSize32 : UInt32
  spiCmdCfgId : UInt32
  spiCmdIdOffset : UInt32
  /-- `SPI_CMD_SOT(cs)` -/
  spiCmdSot : UInt32 → UInt32
  /-- `SPI_CMD_EOT(evt, cs_keep)` -/
  spiCmdEot : UInt32 → UInt32 → UInt32
  spiCmdEotEventEna : UInt32
  /-- `SPI_CMD_SEND_CMD(cmd, bits, qpi)` -/
  spiCmdSendCmd : UInt32 → UInt32 → UInt32 → UInt32
  /-- `SPI_CMD_TX_DATA(words, wordstrans, bitsword, qpi, lsbfirst)` -/
  spiCmdTxData : UInt32 → UInt32 → UInt32 → UInt32 → UInt32 → UInt32
  /-- `SPI_CMD_RX_DATA(words, wordstrans, bitsword, qpi, lsbfirst)` -/
  spiCmdRxData : UInt32 → UInt32 → UInt32 → UInt32 → UInt32 → UInt32
  /-- `SPI_CMD_FUL(words, wordstrans, bitsword, lsbfirst)` -/
  spiCmdFul : UInt32 → UInt32 → UInt32 → UInt32 → UInt32
  archiSocEventSpim0Eot : UInt32
  archiUdmaSpimEotEvt : UInt32
  udmaNbPeriphEvents : UInt32
  /-- The CFG opcode `SPI_CMD_CFG_ID << SPI_CMD_ID_OFFSET` leaves the
  divider byte and the frame-format bits 8..10 free. -/
  cfgOpcode_low : (spiCmdCfgId <<< spiCmdIdOffset) &&& 0x7FF = 0
  /-- `((evt - ARCHI_UDMA_SPIM_EOT_EVT) / UDMA_NB_PERIPH_EVENTS) - 2`, into
  the `uint8_t spi_id` of `DD_SPI_IrqCallback` (`Driver_SPI.c` line 511),
  is 0, the index of `SPIM0`, for `evt = ARCHI_SOC_EVENT_SPIM0_EOT`. -/
  spim0Eot_spiId : ((archiSocEventSpim0Eot - archiUdmaSpimEotEvt) / udmaNbPeriphEvents - 2).toUInt8 = 0

/-- A choice of the `Pulp` fields used only to run the model on concrete
inputs (the opcode in the top nibble, arguments in the low bits). None
of its values is claimed to be the one in `pulp.h`. -/
def Pulp.sample : Pulp where
  udmaChannelCfgSize8 := 0
  udmaChannelCfgSize16 := 2
  udmaChannelCfgSize32 := 4
  spiCmdCfgId := 0
  spiCmdIdOffset := 28
  spiCmdSot cs := ((1 : UInt32) <<< 28) ||| cs
  spiCmdEot evt keep := ((9 : UInt32) <<< 28) ||| evt ||| (keep <<< 1)
  spiCmdEotEventEna := 1
  spiCmdSendCmd cmd bits qpi := ((2 : UInt32) <<< 28) ||| (qpi <<< 27) ||| ((bits - 1) <<< 16) ||| cmd
  spiCmdTxData words _ bits qpi lsb :=
    ((6 : UInt32) <<< 28) ||| (qpi <<< 27) ||| (lsb <<< 26) ||| ((bits - 1) <<< 16) ||| (words - 1)
  spiCmdRxData words _ bits qpi lsb :=
    ((7 : UInt32) <<< 28) ||| (qpi <<< 27) ||| (lsb <<< 26) ||| ((bits - 1) <<< 16) ||| (words - 1)
  spiCmdFul words _ bits lsb := ((12 : UInt32) <<< 28) ||| (lsb <<< 26) ||| ((bits - 1) <<< 16) ||| (words - 1)
  archiSocEventSpim0Eot := 7
  archiUdmaSpimEotEvt := 3
  udmaNbPeriphEvents := 2
  cfgOpcode_low := by decide
  spim0Eot_spiId := by decide

end SpimDriver
