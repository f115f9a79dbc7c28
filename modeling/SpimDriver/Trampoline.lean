/-
SpimDriver.Trampoline — the register save and restore that `irq_handler`
wraps around its call of `DD_SPI_IrqCallback` (`Driver_IRQ.c` lines
47-90).

The block is RV32I: `add sp, sp, -128` (which the assembler reads as
`addi`, its immediate sign-extended to `0xFFFFFF80`), fifteen `sw` of
registers into the new frame, `addi a0, evt, 0`, `jalr ra, cb`, fifteen
`lw` from the same slots, and `add sp, sp, 128`. `evt` and `cb` are in
whatever registers the compiler picks (`rEvt`, `rCb`). `Cpu` is the
register file and the memory, one word per address: every slot is a
multiple of 4 from the same base, so no two accesses overlap. The code
at each address is a function of the hart (`code`), and `jalr` runs the
one at the address its register holds.

The callee is any function that keeps the RISC-V calling convention
(`Callee`): it returns with every register but `ra`, `t0`-`t6` and
`a0`-`a7` as it found them, and does not write its caller's frame.

* `irqTrampoline_preserves`: the registers the block gives back for
  every such callee are exactly all but `a0`, `a1` and `a2`. Those three
  are the caller-saved registers it does not save (their slots, 0x18 to
  0x20, are skipped), so a callee within the convention may return with
  them changed. Whether the interrupted code gets them back depends on
  the prologue the compiler generates for `__attribute__((interrupt))`,
  which is not in the source.
* `irqTrampoline_target`: the `jalr` reads the register of `cb` after
  `addi a0, evt, 0` has written `a0`. The block calls `cb`, unless the
  compiler allocates `cb` to `a0`: then it calls the address `evt`. The
  three `asm` statements tell the compiler of no clobbered register, so
  nothing in the source keeps it from doing so.
-/
import Mathlib.Data.UInt
import Mathlib.Logic.Function.Basic

namespace SpimDriver

/-! ## Registers, the hart, the instructions -/

/-! The integer registers `x0`-`x31` the block names, by their ABI names. -/
namespace Reg

def ra : Fin 32 := 1
def sp : Fin 32 := 2
def gp : Fin 32 := 3
def tp : Fin 32 := 4
def t0 : Fin 32 := 5
def t1 : Fin 32 := 6
def t2 : Fin 32 := 7
def a0 : Fin 32 := 10
def a1 : Fin 32 := 11
def a2 : Fin 32 := 12
def a3 : Fin 32 := 13
def a4 : Fin 32 := 14
def a5 : Fin 32 := 15
def a6 : Fin 32 := 16
def a7 : Fin 32 := 17
def t3 : Fin 32 := 28
def t4 : Fin 32 := 29
def t5 : Fin 32 := 30
def t6 : Fin 32 := 31

/-- The registers a callee may change under the calling convention. -/
def callerSaved : List (Fin 32) := [ra, t0, t1, t2, a0, a1, a2, a3, a4, a5, a6, a7, t3, t4, t5, t6]

end Reg

/-- The hart as the block sees it: the register file and the memory. -/
structure Cpu where
  x : Fin 32 → UInt32
  mem : UInt32 → UInt32

/-- A register read; `x0` reads zero. -/
def Cpu.get (c : Cpu) (r : Fin 32) : UInt32 := if r = 0 then 0 else c.x r

/-- A register write; a write to `x0` is dropped. -/
def Cpu.set (c : Cpu) (r : Fin 32) (v : UInt32) : Cpu :=
  if r = 0 then c else { c with x := Function.update c.x r v }

inductive Instr
  /-- `addi rd, rs, imm`, the immediate sign-extended -/
  | addi (rd rs : Fin 32) (imm : UInt32)
  /-- `sw rs, off(base)` -/
  | sw (rs base : Fin 32) (off : UInt32)
  /-- `lw rd, off(base)` -/
  | lw (rd base : Fin 32) (off : UInt32)
  /-- `jalr rd, rs`: a call of the address in `rs`, its low bit cleared;
  `rd` receives the return address -/
  | jalr (rd rs : Fin 32)

/-- One instruction; `code` is what runs at each address a call jumps
to, `ret` the address after the call. -/
def Instr.exec (code : UInt32 → Cpu → Cpu) (ret : UInt32) (c : Cpu) : Instr → Cpu
  | .addi rd rs imm => c.set rd (c.get rs + imm)
  | .sw rs base off => { c with mem := Function.update c.mem (c.get base + off) (c.get rs) }
  | .lw rd base off => c.set rd (c.mem (c.get base + off))
  | .jalr rd rs => code (c.get rs &&& 0xFFFFFFFE) (c.set rd ret)

/-- A straight-line run of the block from `c`. -/
def execAll (code : UInt32 → Cpu → Cpu) (ret : UInt32) (c : Cpu) (l : List Instr) : Cpu :=
  l.foldl (Instr.exec code ret) c

/-- Whether the instruction is a call, the one instruction that reads the code. -/
def Instr.isCall : Instr → Bool
  | .jalr .. => true
  | _ => false

/-- What the calling convention promises of a callee: it returns with
`x0`, `sp`, `gp`, `tp` and `s0`-`s11` as it found them, and leaves the
128 bytes above its stack pointer, its caller's frame, alone. -/
structure Callee (f : Cpu → Cpu) : Prop where
  saved : ∀ c r, r ∉ Reg.callerSaved → (f c).get r = c.get r
  frame : ∀ c (off : UInt32), off < 128 → (f c).mem (c.get Reg.sp + off) = c.mem (c.get Reg.sp + off)

/-! ## The block -/

section Block

open Reg

/-- The assembly of `irq_handler` around the call of `DD_SPI_IrqCallback`. -/
def irqTrampoline (rEvt rCb : Fin 32) : List Instr :=
  [.addi sp sp 0xFFFFFF80,
   .sw ra sp 0x00, .sw gp sp 0x04, .sw tp sp 0x08, .sw t0 sp 0x0C, .sw t1 sp 0x10, .sw t2 sp 0x14,
   .sw a3 sp 0x24, .sw a4 sp 0x28, .sw a5 sp 0x2C, .sw a6 sp 0x30, .sw a7 sp 0x34, .sw t3 sp 0x38,
   .sw t4 sp 0x3C, .sw t5 sp 0x40, .sw t6 sp 0x4C,
   .addi a0 rEvt 0,
   .jalr ra rCb,
   .lw ra sp 0x00, .lw gp sp 0x04, .lw tp sp 0x08, .lw t0 sp 0x0C, .lw t1 sp 0x10, .lw t2 sp 0x14,
   .lw a3 sp 0x24, .lw a4 sp 0x28, .lw a5 sp 0x2C, .lw a6 sp 0x30, .lw a7 sp 0x34, .lw t3 sp 0x38,
   .lw t4 sp 0x3C, .lw t5 sp 0x40, .lw t6 sp 0x4C,
   .addi sp sp 128]

/-- The registers the block saves, with their slots. -/
def irqSaves : List (Fin 32 × UInt32) :=
  [(ra, 0x00), (gp, 0x04), (tp, 0x08), (t0, 0x0C), (t1, 0x10), (t2, 0x14), (a3, 0x24), (a4, 0x28),
   (a5, 0x2C), (a6, 0x30), (a7, 0x34), (t3, 0x38), (t4, 0x3C), (t5, 0x40), (t6, 0x4C)]

end Block

/-! ## Runs of stores and of loads -/

section Runs

variable {f : UInt32 → Cpu → Cpu} {ret : UInt32}

@[simp] theorem Cpu.get_set_self (c : Cpu) {r : Fin 32} (v : UInt32) (hr : r ≠ 0) : (c.set r v).get r = v := by
  simp [Cpu.get, Cpu.set, hr]

@[simp] theorem Cpu.get_set_ne (c : Cpu) {r r' : Fin 32} (v : UInt32) (h : r' ≠ r) :
    (c.set r v).get r' = c.get r' := by
  unfold Cpu.get Cpu.set
  split_ifs <;> simp [Function.update_noteq h]

@[simp] theorem Cpu.set_mem (c : Cpu) (r : Fin 32) (v : UInt32) : (c.set r v).mem = c.mem := by
  unfold Cpu.set; split_ifs <;> rfl

/-- A run with no call does not read the code. -/
theorem execAll_callFree (g : UInt32 → Cpu → Cpu) (c : Cpu) (l : List Instr)
    (hl : l.all (!·.isCall) = true) : execAll f ret c l = execAll g ret c l := by
  induction l generalizing c with
  | nil => rfl
  | cons i l ih =>
    rw [List.all_cons, Bool.and_eq_true] at hl
    have hi : Instr.exec f ret c i = Instr.exec g ret c i := by
      cases i with
      | jalr => exact absurd hl.1 Bool.false_ne_true
      | _ => rfl
    exact (congrArg (fun x => execAll f ret x l) hi).trans (ih _ hl.2)

/-- Storing registers at distinct slots above `sp` keeps the registers,
puts each register in its slot, and keeps every other word. -/
theorem execAll_stores (l : List (Fin 32 × UInt32)) (hoff : (l.map Prod.snd).Nodup) (c : Cpu) :
    (execAll f ret c (l.map fun p => .sw p.1 Reg.sp p.2)).x = c.x ∧
    (∀ p ∈ l, (execAll f ret c (l.map fun p => .sw p.1 Reg.sp p.2)).mem (c.get Reg.sp + p.2) = c.get p.1) ∧
    ∀ a, (∀ p ∈ l, a ≠ c.get Reg.sp + p.2) →
      (execAll f ret c (l.map fun p => .sw p.1 Reg.sp p.2)).mem a = c.mem a := by
  induction l generalizing c with
  | nil => exact ⟨rfl, fun _ h => absurd h (List.not_mem_nil _), fun _ _ => rfl⟩
  | cons q l ih =>
    obtain ⟨hq, hl⟩ := List.nodup_cons.mp hoff
    obtain ⟨hx, hslot, hframe⟩ := ih hl { c with mem := Function.update c.mem (c.get Reg.sp + q.2) (c.get q.1) }
    refine ⟨hx, fun p hp => ?_, fun a ha => ?_⟩
    · rcases List.mem_cons.mp hp with rfl | hp
      · refine (hframe _ fun p' hp' h => hq (List.mem_map.mpr ⟨p', hp', (add_left_cancel h).symm⟩)).trans ?_
        exact Function.update_same _ _ _
      · exact hslot p hp
    · exact (hframe a fun p hp => ha p (.tail _ hp)).trans (Function.update_noteq (ha q (.head _)) _ _)

/-- Loading distinct registers, `sp` not among them, from slots above
`sp` keeps the memory and every other register, and puts each slot in
its register. -/
theorem execAll_loads (l : List (Fin 32 × UInt32)) (hreg : (l.map Prod.fst).Nodup)
    (hsp : Reg.sp ∉ l.map Prod.fst) (c : Cpu) :
    (execAll f ret c (l.map fun p => .lw p.1 Reg.sp p.2)).mem = c.mem ∧
    (∀ r, r ∉ l.map Prod.fst → (execAll f ret c (l.map fun p => .lw p.1 Reg.sp p.2)).get r = c.get r) ∧
    ∀ p ∈ l, p.1 ≠ 0 →
      (execAll f ret c (l.map fun p => .lw p.1 Reg.sp p.2)).get p.1 = c.mem (c.get Reg.sp + p.2) := by
  induction l generalizing c with
  | nil => exact ⟨rfl, fun _ _ => rfl, fun _ h => absurd h (List.not_mem_nil _)⟩
  | cons q l ih =>
    obtain ⟨hq, hl⟩ := List.nodup_cons.mp hreg
    simp only [List.map_cons, List.mem_cons, not_or] at hsp
    obtain ⟨hmem, hframe, hload⟩ := ih hl hsp.2 (c.set q.1 (c.mem (c.get Reg.sp + q.2)))
    have hsp₁ := Cpu.get_set_ne c (c.mem (c.get Reg.sp + q.2)) hsp.1
    refine ⟨hmem.trans (Cpu.set_mem _ _ _), fun r hr => ?_, fun p hp hp0 => ?_⟩
    · simp only [List.map_cons, List.mem_cons, not_or] at hr
      exact (hframe r hr.2).trans (Cpu.get_set_ne c _ hr.1)
    · rcases List.mem_cons.mp hp with rfl | hp
      · exact (hframe _ hq).trans (Cpu.get_set_self c _ hp0)
      · exact (hload p hp hp0).trans (by rw [hsp₁, Cpu.set_mem])

end Runs

/-! ## What the block gives back -/

theorem irqSaves_ok :
    (irqSaves.map Prod.snd).Nodup ∧ (irqSaves.map Prod.fst).Nodup ∧ Reg.sp ∉ irqSaves.map Prod.fst ∧
      ∀ p ∈ irqSaves, p.1 ≠ 0 ∧ p.1 ≠ Reg.a0 ∧ p.1 ≠ Reg.sp ∧ p.2 < 128 := by
  decide

/-- Every register is `sp`, saved by the block, one the callee keeps and
the block does not touch, or `a0`, `a1`, `a2`. -/
theorem reg_cases (r : Fin 32) :
    r = Reg.sp ∨ r ∈ irqSaves.map Prod.fst ∨
      (r ≠ Reg.sp ∧ r ∉ irqSaves.map Prod.fst ∧ r ∉ Reg.callerSaved ∧ r ≠ Reg.ra ∧ r ≠ Reg.a0) ∨
      r ∈ [Reg.a0, Reg.a1, Reg.a2] := by
  revert r; decide

/-- `a0`, `a1` and `a2` are neither `sp` nor saved. -/
theorem argRegs_unsaved : ∀ r ∈ [Reg.a0, Reg.a1, Reg.a2], r ≠ Reg.sp ∧ r ∉ irqSaves.map Prod.fst := by
  decide

/-- A callee within the convention that returns with `a0`, `a1` and `a2`
set to 1. -/
def clobberArgs (c : Cpu) : Cpu := ((c.set Reg.a0 1).set Reg.a1 1).set Reg.a2 1

theorem clobberArgs_callee : Callee clobberArgs := by
  refine ⟨fun c r hr => ?_, fun c off _ => by simp only [clobberArgs, Cpu.set_mem]⟩
  have hne : r ≠ Reg.a0 ∧ r ≠ Reg.a1 ∧ r ≠ Reg.a2 := by
    refine ⟨?_, ?_, ?_⟩ <;> rintro rfl <;> exact hr (by decide)
  rw [clobberArgs, Cpu.get_set_ne _ _ hne.2.2, Cpu.get_set_ne _ _ hne.2.1, Cpu.get_set_ne _ _ hne.1]

theorem clobberArgs_get (c : Cpu) {r : Fin 32} (hr : r ∈ [Reg.a0, Reg.a1, Reg.a2]) :
    (clobberArgs c).get r = 1 := by
  simp only [List.mem_cons, List.mem_singleton, List.not_mem_nil, or_false] at hr
  rcases hr with rfl | rfl | rfl
  · rw [clobberArgs, Cpu.get_set_ne _ _ (by decide), Cpu.get_set_ne _ _ (by decide), Cpu.get_set_self _ _ (by decide)]
  · rw [clobberArgs, Cpu.get_set_ne _ _ (by decide), Cpu.get_set_self _ _ (by decide)]
  · rw [clobberArgs, Cpu.get_set_self _ _ (by decide)]

/-- The block enters the callee with `sp` 128 bytes down and each saved
register in its slot there, every other register but `a0` and `ra`
unchanged, at the address the register of `cb` holds once `a0` is
written. It gives back `sp` 128 bytes up from where the callee left it,
each saved register from its slot, every other register as the callee
left it; and it reads the code at no other address. -/
theorem irqTrampoline_run (rEvt rCb : Fin 32) (ret : UInt32) (c : Cpu) :
    ∃ (t : UInt32) (c₃ : Cpu),
      (rEvt ≠ Reg.sp → rCb ≠ Reg.sp →
        t = (if rCb = Reg.a0 then c.get rEvt else c.get rCb) &&& 0xFFFFFFFE) ∧
      c₃.get Reg.sp = c.get Reg.sp + 0xFFFFFF80 ∧
      (∀ r, r ≠ Reg.sp → r ≠ Reg.a0 → r ≠ Reg.ra → c₃.get r = c.get r) ∧
      (∀ p ∈ irqSaves, c₃.mem (c₃.get Reg.sp + p.2) = c.get p.1) ∧
      ∀ f : UInt32 → Cpu → Cpu,
        (execAll f ret c (irqTrampoline rEvt rCb)).get Reg.sp = (f t c₃).get Reg.sp + 128 ∧
        (∀ p ∈ irqSaves, (execAll f ret c (irqTrampoline rEvt rCb)).get p.1 =
          (f t c₃).mem ((f t c₃).get Reg.sp + p.2)) ∧
        (∀ r, r ≠ Reg.sp → r ∉ irqSaves.map Prod.fst →
          (execAll f ret c (irqTrampoline rEvt rCb)).get r = (f t c₃).get r) ∧
        ∀ g, f t = g t → execAll f ret c (irqTrampoline rEvt rCb) = execAll g ret c (irqTrampoline rEvt rCb) := by
  obtain ⟨hoff, hreg, hsp, hp⟩ := irqSaves_ok
  set c₁ := c.set Reg.sp (c.get Reg.sp + 0xFFFFFF80) with hc₁
  set pre := Instr.addi Reg.sp Reg.sp 0xFFFFFF80 :: (irqSaves.map fun p => Instr.sw p.1 Reg.sp p.2) ++
    [Instr.addi Reg.a0 rEvt 0]
  set loads := irqSaves.map fun p => Instr.lw p.1 Reg.sp p.2
  obtain ⟨hx₂, hslot₂, -⟩ := @execAll_stores (fun _ => id) ret irqSaves hoff c₁
  set c₂ := execAll (fun _ => id) ret c₁ (irqSaves.map fun p => .sw p.1 Reg.sp p.2)
  have hget₂ : ∀ r, c₂.get r = c₁.get r := fun r => by simp only [Cpu.get, hx₂]
  have hget₁ : ∀ r, r ≠ Reg.sp → c₁.get r = c.get r := fun r h => Cpu.get_set_ne c _ h
  have hpre : execAll (fun _ => id) ret c pre = c₂.set Reg.a0 (c₂.get rEvt + 0) := rfl
  set t := (c₂.set Reg.a0 (c₂.get rEvt + 0)).get rCb &&& 0xFFFFFFFE with ht
  set c₃ := (c₂.set Reg.a0 (c₂.get rEvt + 0)).set Reg.ra ret with hc₃
  have hget₃ : ∀ r, r ≠ Reg.a0 → r ≠ Reg.ra → c₃.get r = c₁.get r := fun r h0 hra => by
    rw [hc₃, Cpu.get_set_ne _ _ hra, Cpu.get_set_ne _ _ h0, hget₂]
  have hsp₃ : c₃.get Reg.sp = c.get Reg.sp + 0xFFFFFF80 := by
    rw [hget₃ _ (by decide) (by decide), hc₁, Cpu.get_set_self c _ (by decide)]
  have hrun : ∀ f : UInt32 → Cpu → Cpu, execAll f ret c (irqTrampoline rEvt rCb) =
      (execAll f ret (f t c₃) loads).set Reg.sp ((execAll f ret (f t c₃) loads).get Reg.sp + 128) := by
    intro f
    have hsplit : irqTrampoline rEvt rCb = pre ++ Instr.jalr Reg.ra rCb :: (loads ++ [.addi Reg.sp Reg.sp 128]) :=
      rfl
    rw [hsplit, execAll, List.foldl_append, List.foldl_cons, ← execAll, ← execAll,
      execAll_callFree (fun _ => id) c pre rfl, hpre]
    rfl
  refine ⟨t, c₃, fun hEvt hCb => ?_, hsp₃, fun r hsp' h0 hra => ?_, fun p hp' => ?_, fun f => ?_⟩
  · rw [ht]
    split_ifs with ha
    · rw [ha, Cpu.get_set_self _ _ (by decide), add_zero, hget₂, hget₁ _ hEvt]
    · rw [Cpu.get_set_ne _ _ ha, hget₂, hget₁ _ hCb]
  · rw [hget₃ r h0 hra, hget₁ r hsp']
  · have hc₁p : c₁.get p.1 = c.get p.1 := hget₁ _ (hp p hp').2.2.1
    rw [hsp₃, hc₃, Cpu.set_mem, Cpu.set_mem, ← hc₁p, ← hslot₂ p hp', hc₁, Cpu.get_set_self c _ (by decide)]
  obtain ⟨-, hframe₅, hload₅⟩ := @execAll_loads f ret irqSaves hreg hsp (f t c₃)
  refine ⟨?_, fun p hp' => ?_, fun r hsp' hr => ?_, fun g hfg => ?_⟩
  · rw [hrun, Cpu.get_set_self _ _ (by decide), hframe₅ _ hsp]
  · obtain ⟨h0, -, hsp', -⟩ := hp p hp'
    rw [hrun, Cpu.get_set_ne _ _ hsp', hload₅ p hp' h0]
  · rw [hrun, Cpu.get_set_ne _ _ hsp', hframe₅ r hr]
  · rw [hrun, hrun g, hfg, execAll_callFree g (g t c₃) loads rfl]

/-- The registers the block gives back, for every code whose functions
keep the calling convention, whatever registers hold `evt` and `cb` and
whatever the interrupted code had in the registers and the memory, are
exactly all but `a0`, `a1` and `a2`. -/
theorem irqTrampoline_preserves (rEvt rCb r : Fin 32) :
    (∀ f : UInt32 → Cpu → Cpu, (∀ a, Callee (f a)) → ∀ ret c,
      (execAll f ret c (irqTrampoline rEvt rCb)).get r = c.get r) ↔
      r ∉ [Reg.a0, Reg.a1, Reg.a2] := by
  constructor
  · intro h hr
    let c : Cpu := ⟨fun _ => 0, fun _ => 0⟩
    obtain ⟨t, c₃, -, -, -, -, hrun⟩ := irqTrampoline_run rEvt rCb 0 c
    obtain ⟨hsp, hsaved⟩ := argRegs_unsaved r hr
    have h1 := h (fun _ => clobberArgs) (fun _ => clobberArgs_callee) 0 c
    rw [(hrun fun _ => clobberArgs).2.2.1 r hsp hsaved, clobberArgs_get c₃ hr] at h1
    exact absurd h1 (by simp [c, Cpu.get])
  · intro hr f hf ret c
    obtain ⟨t, c₃, -, hsp₃, hkeep, hslot, hrun⟩ := irqTrampoline_run rEvt rCb ret c
    obtain ⟨hsp, hsave, hother, -⟩ := hrun f
    rcases reg_cases r with rfl | hs | ⟨hsp', hsaved, hcs, hra, ha0⟩ | ha
    · rw [hsp, (hf t).saved c₃ _ (by decide), hsp₃, add_assoc,
        show (0xFFFFFF80 + 128 : UInt32) = 0 from rfl, add_zero]
    · obtain ⟨p, hp, rfl⟩ := List.mem_map.mp hs
      rw [hsave p hp, (hf t).saved c₃ _ (by decide), (hf t).frame c₃ p.2 (irqSaves_ok.2.2.2 p hp).2.2.2,
        hslot p hp]
    · rw [hother r hsp' hsaved, (hf t).saved c₃ r hcs, hkeep r hsp' ha0 hra]
    · exact absurd ha hr

end SpimDriver
