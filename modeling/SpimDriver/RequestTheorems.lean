/-
SpimDriver.RequestTheorems — the three transfer requests, `DD_SPI_Send`,
`DD_SPI_Receive` and `DD_SPI_Transfer`, compared.

* `transfer_cases` — what a request can do: it is rejected and changes
  nothing, or it is accepted from an idle driver, sets `buzy`, and
  enqueues data buffers and then the command block. Every later lemma
  about a request cites this one.
* `transfer_rejected` — a request that does not return `DD_DRIVER_OK`
  leaves the whole state unchanged.
* `zero_length_requests` — the three disagree on zero items: Send
  rejects `num = 0` (with `DD_DRIVER_ERROR_BUSY`), Receive and Transfer
  accept it and start a transaction.
* `transfer_accepted` — an idle driver accepts every request with at
  least one item: nothing else is checked.
* `send_one_dataCount` — the one-item path of Send is the only accepting
  path that does not write `data_left`.
* `send_one_item` — the one-item path reads only byte 0 of the buffer
  and never reads `lsbfirst`, where the buffered path hands the uDMA
  `2 ^ sizefactor` bytes per item (`Buf.dmaItem`) and `TX_DATA` the bit
  order. The two agree only on what byte 0 and the bit width carry.
-/
import SpimDriver.DriverTheorems

namespace SpimDriver

/-! ## The state an accepted request leaves -/

section Accepted

variable (s : State) (runW eotW dataLeft : UInt32) (enq : List Enqueue)

/-- An accepted request writes `buzy`, `data_left`, the RUN and EOT words, and nothing else of the record. -/
@[simp] theorem State.accepted_drv :
    (s.accepted runW eotW dataLeft enq).drv.bitsword = s.drv.bitsword ∧
    (s.accepted runW eotW dataLeft enq).drv.lsbfirst = s.drv.lsbfirst ∧
    (s.accepted runW eotW dataLeft enq).drv.sizefactor = s.drv.sizefactor ∧
    (s.accepted runW eotW dataLeft enq).drv.bytesword = s.drv.bytesword ∧
    (s.accepted runW eotW dataLeft enq).drv.callback = s.drv.callback ∧
    (s.accepted runW eotW dataLeft enq).drv.buzy = true ∧
    (s.accepted runW eotW dataLeft enq).drv.dataLeft = dataLeft ∧
    (s.accepted runW eotW dataLeft enq).drv.bufferCmd =
      Function.update (Function.update s.drv.bufferCmd cmdRunId runW) cmdEotId eotW :=
  ⟨rfl, rfl, rfl, rfl, rfl, rfl, rfl, rfl⟩

/-- Enqueues append to the record of enqueues and count the command blocks. -/
theorem foldl_enqueue (c : Soc) :
    enq.foldl Soc.enqueue c =
      { c with enqueued := c.enqueued ++ enq, cmdBlocks := c.cmdBlocks + enq.countP (·.ch = .cmd) } := by
  induction enq generalizing c with
  | nil => simp
  | cons e enq ih =>
    rw [List.foldl_cons, ih]
    by_cases h : e.ch = .cmd <;> simp [Soc.enqueue, List.countP_cons, h, Nat.add_assoc, Nat.add_comm 1]

@[simp] theorem State.accepted_soc :
    (s.accepted runW eotW dataLeft enq).soc =
      { s.soc with enqueued := s.soc.enqueued ++ enq,
                   cmdBlocks := s.soc.cmdBlocks + enq.countP (·.ch = .cmd) } :=
  foldl_enqueue enq s.soc

end Accepted

/-! ## What a request can do -/

/-- `DD_SPI_Send`, `DD_SPI_Receive` and `DD_SPI_Transfer`. -/
def Call.isTransfer : Call → Bool
  | .send .. | .receive .. | .transfer .. => true
  | _ => false

/-- The item count of a request. -/
def Call.count : Call → UInt32
  | .send _ num _ | .receive _ num _ | .transfer _ _ num => num
  | _ => 0

section Requests

variable {P : Pulp} {s : State}

/-- A request is rejected and changes nothing, or it is accepted from an
idle driver: data buffers first, none of them on the CMD channel, then
the command block. -/
theorem transfer_cases (c : Call) (hc : c.isTransfer = true) :
    c.run P s = (s, ddDriverErrorBusy) ∨
    (s.drv.buzy = false ∧ ∃ runW eotW dataLeft data,
      c.run P s = (s.accepted runW eotW dataLeft (data ++ [cmdEnqueue P]), ddDriverOk) ∧
      ∀ e ∈ data, e.ch ≠ .cmd) := by
  cases c with
  | send data num config =>
    by_cases hrej : num = 0 ∨ s.drv.buzy = true
    · exact .inl (run_send_reject _ _ _ hrej)
    · obtain ⟨h0, hb⟩ := not_or.mp hrej
      rw [Bool.not_eq_true] at hb
      refine .inr ⟨hb, ?_⟩
      by_cases h1 : num = 1
      · subst h1
        exact ⟨_, _, _, [], run_send_one data config hb, by simp⟩
      · exact ⟨_, _, _, [_], run_send_many data num config h0 h1 hb, by simp [dataEnqueue]⟩
  | receive data num config =>
    cases hb : s.drv.buzy
    · exact .inr ⟨rfl, _, _, _, [_], run_receive_idle data num config hb, by simp [dataEnqueue]⟩
    · exact .inl (run_receive_reject data num config hb)
  | transfer dataOut dataIn num =>
    cases hb : s.drv.buzy
    · exact .inr ⟨rfl, _, _, _, [_, _], run_transfer_idle dataOut dataIn num hb, by simp [dataEnqueue]⟩
    · exact .inl (run_transfer_reject dataOut dataIn num hb)
  | _ => simp [Call.isTransfer] at hc

/-- A request that does not return `DD_DRIVER_OK` changes nothing. -/
theorem transfer_rejected (c : Call) (hc : c.isTransfer = true) (h : (c.run P s).2 ≠ ddDriverOk) :
    (c.run P s).1 = s := by
  rcases @transfer_cases P s c hc with hr | ⟨-, _, _, _, _, hr, -⟩ <;> simp_all

/-- An accepted request opens exactly one transaction. -/
theorem transfer_cmdBlocks (c : Call) (hc : c.isTransfer = true) (h : (c.run P s).2 = ddDriverOk) :
    (c.run P s).1.soc.cmdBlocks = s.soc.cmdBlocks + 1 ∧ (c.run P s).1.drv.buzy = true ∧
    s.drv.buzy = false := by
  rcases @transfer_cases P s c hc with hr | ⟨hb, _, _, _, data, hr, hdata⟩
  · rw [hr] at h; exact absurd h (by simp [ddDriverOk, ddDriverErrorBusy])
  · rw [hr, State.accepted_soc, List.countP_append, List.countP_eq_zero.mpr (by simpa using hdata)]
    simp [hb, cmdEnqueue]

/-- An idle driver accepts every request with at least one item. -/
theorem transfer_accepted (c : Call) (hc : c.isTransfer = true) (hb : s.drv.buzy = false)
    (hn : c.count ≠ 0) : (c.run P s).2 = ddDriverOk := by
  cases c with
  | send data num config =>
    by_cases h1 : num = 1
    · subst h1; rw [run_send_one data config hb]
    · rw [run_send_many data num config hn h1 hb]
  | receive data num config => rw [run_receive_idle data num config hb]
  | transfer dataOut dataIn num => rw [run_transfer_idle dataOut dataIn num hb]
  | _ => simp [Call.isTransfer] at hc

end Requests

/-! ## Zero items -/

/-- From every idle state a zero-length Send is rejected, while a
zero-length Receive or Transfer is accepted and opens a transaction. -/
theorem zero_length_requests (P : Pulp) (s : State) (data dataOut dataIn : Buf) (config : UInt8)
    (hb : s.drv.buzy = false) :
    (Call.send data 0 config).run P s = (s, ddDriverErrorBusy) ∧
    ((Call.receive data 0 config).run P s).2 = ddDriverOk ∧
    ((Call.receive data 0 config).run P s).1.soc.cmdBlocks = s.soc.cmdBlocks + 1 ∧
    ((Call.transfer dataOut dataIn 0).run P s).2 = ddDriverOk ∧
    ((Call.transfer dataOut dataIn 0).run P s).1.soc.cmdBlocks = s.soc.cmdBlocks + 1 := by
  refine ⟨run_send_reject _ _ _ (.inl rfl), ?_, ?_, ?_, ?_⟩ <;>
  simp [run_receive_idle _ _ _ hb, run_transfer_idle _ _ _ hb, dataEnqueue, cmdEnqueue]

theorem zero_length_requests_init :
    (Call.send ⟨0, []⟩ 0 0).run Pulp.sample State.init = (State.init, ddDriverErrorBusy) ∧
    ((Call.receive ⟨0, []⟩ 0 0).run Pulp.sample State.init).2 = ddDriverOk ∧
    ((Call.receive ⟨0, []⟩ 0 0).run Pulp.sample State.init).1.soc.cmdBlocks = State.init.soc.cmdBlocks + 1 ∧
    ((Call.transfer ⟨0, []⟩ ⟨0, []⟩ 0).run Pulp.sample State.init).2 = ddDriverOk ∧
    ((Call.transfer ⟨0, []⟩ ⟨0, []⟩ 0).run Pulp.sample State.init).1.soc.cmdBlocks =
      State.init.soc.cmdBlocks + 1 :=
  zero_length_requests Pulp.sample State.init ⟨0, []⟩ ⟨0, []⟩ ⟨0, []⟩ 0 rfl

/-! ## The item count -/

/-- From process start, an accepted one-item Send leaves `data_left` at
0, so `GetDataCount` with both channels drained reads 0 and not 1. -/
theorem send_one_dataCount (P : Pulp) (data : Buf) (config : UInt8) :
    let r := (Call.send data 1 config).run P State.init
    r.2 = ddDriverOk ∧ ((Call.getDataCount 0 0).run P r.1).2 = 0 := by
  simp only [run_send_one data config (show State.init.drv.buzy = false from rfl), run_getDataCount]
  refine ⟨trivial, ?_⟩
  simp only [dataCount, State.accepted_drv, State.init]
  decide

/-! ## The one-item path against the buffered path -/

/-- The item the buffered path hands the TX channel when `num = 1`:
`num << sizefactor` bytes from the buffer (line 377), so bytes
`0 .. 2 ^ sizefactor - 1`. -/
def Buf.dmaItem (data : Buf) (sizefactor : UInt8) : List UInt8 :=
  (List.range (2 ^ sizefactor.toNat)).map fun i => data.bytes.getD i 0

/-- The one-item path of Send (`num == 1`, line 371) reads the buffer only
at byte 0, the one it passes to `SPI_CMD_SEND_CMD`, and never reads
`lsbfirst`: two buffers that agree at byte 0 give the same run, and a run
from a record with another `lsbfirst` differs from it only there. -/
theorem send_one_item (P : Pulp) (s : State) (data data' : Buf) (config l : UInt8)
    (h0 : data.bytes.getD 0 0 = data'.bytes.getD 0 0) :
    (Call.send data 1 config).run P s = (Call.send data' 1 config).run P s ∧
    (Call.send data 1 config).run P { s with drv := { s.drv with lsbfirst := l } } =
      ({ ((Call.send data 1 config).run P s).1 with
          drv := { ((Call.send data 1 config).run P s).1.drv with lsbfirst := l } },
        ((Call.send data 1 config).run P s).2) := by
  let s' : State := { s with drv := { s.drv with lsbfirst := l } }
  cases hb : s.drv.buzy
  · rw [@run_send_one P s' data config hb, run_send_one data config hb, run_send_one data' config hb, h0]
    exact ⟨rfl, rfl⟩
  · rw [run_send_reject data 1 config (.inr hb), run_send_reject data' 1 config (.inr hb),
      @run_send_reject P s' data 1 config (.inr hb)]
    exact ⟨rfl, rfl⟩

/-- With 16-bit words the uDMA element is two bytes, and the items of
`[1, 2]` and `[1, 3]` differ in the second; the one-item Send leaves the
same state for both. With LSB-first 8-bit words, its RUN word is the one
the MSB-first record gives, where `TX_DATA` would differ. -/
theorem send_one_item_sixteen :
    let s := ((Call.control (ddSpiModeMaster ||| ddSpiDataBits 16) 1000000 50000000 0).run Pulp.sample
      State.init).1
    let s8 := ((Call.control (ddSpiModeMaster ||| ddSpiDataBits 8 ||| ddSpiLsbMsb) 1000000 50000000 0).run
      Pulp.sample State.init).1
    s.drv.bitsword = 16 ∧ s.drv.sizefactor = 1 ∧
    Buf.dmaItem ⟨0, [1, 2]⟩ s.drv.sizefactor ≠ Buf.dmaItem ⟨0, [1, 3]⟩ s.drv.sizefactor ∧
    (Call.send ⟨0, [1, 2]⟩ 1 0).run Pulp.sample s = (Call.send ⟨0, [1, 3]⟩ 1 0).run Pulp.sample s ∧
    s8.drv.lsbfirst = 1 ∧
    ((Call.send ⟨0, [1]⟩ 1 0).run Pulp.sample { s8 with drv := { s8.drv with lsbfirst := 0 } }).1.drv.bufferCmd
      cmdRunId = ((Call.send ⟨0, [1]⟩ 1 0).run Pulp.sample s8).1.drv.bufferCmd cmdRunId ∧
    Pulp.sample.spiCmdTxData 1 0 8 0 1 ≠ Pulp.sample.spiCmdTxData 1 0 8 0 0 := by
  intro s s8
  have h16 := send_one_item Pulp.sample s ⟨0, [1, 2]⟩ ⟨0, [1, 3]⟩ 0 0 rfl
  have h8 := send_one_item Pulp.sample s8 ⟨0, [1]⟩ ⟨0, [1]⟩ 0 0 rfl
  refine ⟨by decide, by decide, by decide, h16.1, by decide, by rw [h8.2], by decide⟩

end SpimDriver
