import Inkwell.Octets
set_option autoImplicit false

/-! A machine that runs code byte by byte: a stack of words, a memory that grows by words, and gas that
every instruction and every word of memory costs. Of its instructions there are those that put code in
place; whatever else a run comes to fails. -/

namespace Inkwell

structure Machine where
  code : Octets
  value : Word
  deriving DecidableEq, Repr

namespace Machine

inductive Instruction where
  | isZero | callValue | codeCopy | pop | store | jumpIf | jumpDest
  | push (width : Nat)
  /-- Repeats the word that is this deep on the stack. -/
  | dup (depth : Nat)
  | ret | revert
  deriving DecidableEq, Repr

def pushWidth (b : UInt8) : Nat := if 0x60 ≤ b ∧ b ≤ 0x7f then b.toNat - 0x5f else 0

def Instruction.ofOctet? (b : UInt8) : Option Instruction :=
  if pushWidth b ≠ 0 then some (.push (pushWidth b))
  else if 0x80 ≤ b ∧ b ≤ 0x8f then some (.dup (b.toNat - 0x80))
  else match b with
    | 0x15 => some .isZero
    | 0x34 => some .callValue
    | 0x39 => some .codeCopy
    | 0x50 => some .pop
    | 0x52 => some .store
    | 0x57 => some .jumpIf
    | 0x5b => some .jumpDest
    | 0xf3 => some .ret
    | 0xfd => some .revert
    | _ => none

/-- Whether a mark for jumps is at a place, and no part of what is pushed. The bytes that are still to
be skipped belong to a push. -/
def isDest : (skip : Nat) → Octets → (place : Nat) → Bool
  | _, [], _ => false
  | 0, b :: _, 0 => b = 0x5b
  | _+1, _ :: _, 0 => false
  | 0, b :: code, place+1 => isDest (pushWidth b) code place
  | skip+1, _ :: code, place+1 => isDest skip code place

/-! ### Memory -/

def words (n : Nat) : Nat := (n + 31) / 32

def memoryGas (n : Nat) : Nat := 3 * n + n * n / 512

/-- Memory up to the end of a range, in whole words. A range of no bytes is nowhere. -/
def reach (memory : Octets) (offset size : Nat) : Octets :=
  if size = 0 then memory
  else memory ++ List.replicate (32 * words (offset + size) - memory.length) 0

def reachGas (memory : Octets) (offset size : Nat) : Nat :=
  memoryGas (words (reach memory offset size).length) - memoryGas (words memory.length)

def put (memory : Octets) (offset : Nat) (bs : Octets) : Octets :=
  let memory := reach memory offset bs.length
  memory.take offset ++ bs ++ memory.drop (offset + bs.length)

def slice (memory : Octets) (offset size : Nat) : Octets :=
  ((reach memory offset size).drop offset).take size

/-! ### Steps -/

structure State where
  place : Nat := 0
  stack : List Word := []
  memory : Octets := []
  deriving DecidableEq, Repr

inductive Step where
  | next (cost : Nat) (s : State)
  | returned (cost : Nat) (output : Octets)
  | reverted (cost : Nat) (output : Octets)
  | failed
  deriving DecidableEq, Repr

def stackLimit : Nat := 1024

@[simp] theorem stackLimit_eq : stackLimit = 1024 := rfl

/-- Goes on behind an instruction of this width, if there is room for the stack. -/
def State.onward (s : State) (cost width : Nat) (stack : List Word) (memory : Octets) : Step :=
  if stack.length ≤ stackLimit then .next cost ⟨s.place + width, stack, memory⟩ else .failed

/-- The word that a push at a place pushes. There are zeros behind the code. -/
def pushed (e : Machine) (place width : Nat) : Word :=
  Word.ofOctets (Octets.padEnd width (e.code.drop (place + 1)))

def copied (e : Machine) (offset size : Word) : Octets :=
  Octets.padEnd size.toNat (e.code.drop offset.toNat)

def exec (e : Machine) (s : State) (i : Instruction) : Step :=
  match i, s.stack with
  | .isZero, a :: rest => s.onward 3 1 ((if a = 0 then 1 else 0) :: rest) s.memory
  | .callValue, stack => s.onward 2 1 (e.value :: stack) s.memory
  | .codeCopy, dest :: offset :: size :: rest =>
    s.onward (3 + 3 * words size.toNat + reachGas s.memory dest.toNat size.toNat) 1 rest
      (put s.memory dest.toNat (e.copied offset size))
  | .pop, _ :: rest => s.onward 2 1 rest s.memory
  | .store, offset :: a :: rest =>
    s.onward (3 + reachGas s.memory offset.toNat 32) 1 rest (put s.memory offset.toNat a.octets)
  | .jumpIf, dest :: a :: rest =>
    if a = 0 then s.onward 10 1 rest s.memory
    else if isDest 0 e.code dest.toNat then .next 10 ⟨dest.toNat, rest, s.memory⟩ else .failed
  | .jumpDest, stack => s.onward 1 1 stack s.memory
  | .push width, stack =>
    s.onward 3 (1 + width) (e.pushed s.place width :: stack) s.memory
  | .dup depth, stack =>
    match stack[depth]? with
    | some a => s.onward 3 1 (a :: stack) s.memory
    | none => .failed
  | .ret, offset :: size :: _ =>
    .returned (reachGas s.memory offset.toNat size.toNat) (slice s.memory offset.toNat size.toNat)
  | .revert, offset :: size :: _ =>
    .reverted (reachGas s.memory offset.toNat size.toNat) (slice s.memory offset.toNat size.toNat)
  | _, _ => .failed

/-- A run that comes to the end of the code stops there. -/
def step (e : Machine) (s : State) : Step :=
  match e.code[s.place]? with
  | none => .returned 0 []
  | some b =>
    match Instruction.ofOctet? b with
    | some i => e.exec s i
    | none => .failed

theorem onward_eq_next {s s' : State} {cost cost' width : Nat} {stack : List Word} {memory : Octets}
    (h : s.onward cost width stack memory = .next cost' s') : cost' = cost := by
  unfold State.onward at h
  split at h
  · cases h
    rfl
  · cases h

theorem cost_pos {e : Machine} {s s' : State} {cost : Nat} (h : e.step s = .next cost s') :
    0 < cost := by
  unfold step at h
  split at h
  · cases h
  split at h
  · unfold exec at h
    repeat' split at h
    -- A jump that is taken is the only one that goes on elsewhere than behind the instruction.
    all_goals first
      | (rw [onward_eq_next h]; omega)
      | (cases h <;> decide)
  · cases h

/-! ### Runs -/

inductive Outcome where
  | returned (output : Octets) (gas : Nat)
  | reverted (output : Octets) (gas : Nat)
  | failed
  deriving DecidableEq, Repr

def run (e : Machine) (gas : Nat) (s : State) : Outcome :=
  match _h : e.step s with
  | .next cost s' => if cost ≤ gas then run e (gas - cost) s' else .failed
  | .returned cost output => if cost ≤ gas then .returned output (gas - cost) else .failed
  | .reverted cost output => if cost ≤ gas then .reverted output (gas - cost) else .failed
  | .failed => .failed
termination_by gas
decreasing_by
  have hcost := cost_pos _h
  omega

variable {e : Machine} {s s' s'' : State} {cost cost' : Nat} {output : Octets}

theorem run_eq (e : Machine) (gas : Nat) (s : State) : e.run gas s = match e.step s with
    | .next cost s' => if cost ≤ gas then e.run (gas - cost) s' else .failed
    | .returned cost output => if cost ≤ gas then .returned output (gas - cost) else .failed
    | .reverted cost output => if cost ≤ gas then .reverted output (gas - cost) else .failed
    | .failed => .failed := by
  rw [run]
  cases e.step s <;> rfl

/-- The run comes from one state to the other for this much gas, and fails for less. -/
def Goes (e : Machine) (s : State) (cost : Nat) (s' : State) : Prop :=
  ∀ gas, e.run gas s = if cost ≤ gas then e.run (gas - cost) s' else .failed

theorem goes_of_step (h : e.step s = .next cost s') : e.Goes s cost s' := by
  intro gas
  rw [run_eq, h]

theorem paid_twice (gas cost cost' : Nat) (x : Outcome) :
    (if cost ≤ gas then if cost' ≤ gas - cost then x else .failed else .failed) =
      if cost + cost' ≤ gas then x else .failed := by
  by_cases hgas : cost + cost' ≤ gas
  · rw [if_pos hgas, if_pos (by omega), if_pos (by omega)]
  · rw [if_neg hgas]
    split
    · exact if_neg (by omega)
    · rfl

theorem Goes.trans (h : e.Goes s cost s') (h' : e.Goes s' cost' s'') :
    e.Goes s (cost + cost') s'' := by
  intro gas
  rw [h gas, h' (gas - cost), paid_twice, Nat.sub_sub]

theorem Goes.returns (h : e.Goes s cost s') (hstep : e.step s' = .returned cost' output)
    (gas : Nat) : e.run gas s =
      if cost + cost' ≤ gas then .returned output (gas - (cost + cost')) else .failed := by
  have hend : e.run (gas - cost) s' =
      if cost' ≤ gas - cost then .returned output (gas - cost - cost') else .failed := by
    rw [run_eq, hstep]
  rw [h gas, hend, paid_twice, Nat.sub_sub]

theorem Goes.reverts (h : e.Goes s cost s') (hstep : e.step s' = .reverted cost' output)
    (gas : Nat) : e.run gas s =
      if cost + cost' ≤ gas then .reverted output (gas - (cost + cost')) else .failed := by
  have hend : e.run (gas - cost) s' =
      if cost' ≤ gas - cost then .reverted output (gas - cost - cost') else .failed := by
    rw [run_eq, hstep]
  rw [h gas, hend, paid_twice, Nat.sub_sub]

/-! ### Single instructions -/

section
variable {place width w depth : Nat} {stack stack' : List Word} {memory memory' : Octets}
  {i : Instruction} {a b dest offset size : Word}

def fetch (e : Machine) (place : Nat) : Option Instruction :=
  e.code[place]?.bind Instruction.ofOctet?

theorem step_of_fetch (h : e.fetch place = some i) :
    e.step ⟨place, stack, memory⟩ = e.exec ⟨place, stack, memory⟩ i := by
  obtain ⟨b, hb, hi⟩ := Option.bind_eq_some_iff.mp h
  simp only [step, hb, hi]

theorem goes_onward (hop : e.fetch place = some i)
    (hexec : e.exec ⟨place, stack, memory⟩ i =
      State.onward ⟨place, stack, memory⟩ cost width stack' memory')
    (hroom : stack'.length ≤ stackLimit) :
    e.Goes ⟨place, stack, memory⟩ cost ⟨place + width, stack', memory'⟩ :=
  goes_of_step ((step_of_fetch hop).trans (hexec.trans (if_pos hroom)))

theorem goes_push (hop : e.fetch place = some (.push w)) (ha : e.pushed place w = a)
    (hroom : stack.length < stackLimit) :
    e.Goes ⟨place, stack, memory⟩ 3 ⟨place + (1 + w), a :: stack, memory⟩ :=
  ha ▸ goes_onward hop rfl hroom

theorem goes_dup (hop : e.fetch place = some (.dup depth)) (ha : stack[depth]? = some a)
    (hroom : stack.length < stackLimit) :
    e.Goes ⟨place, stack, memory⟩ 3 ⟨place + 1, a :: stack, memory⟩ :=
  goes_onward hop (by simp only [exec, ha]) hroom

theorem goes_isZero (hop : e.fetch place = some .isZero) (hroom : stack.length < stackLimit) :
    e.Goes ⟨place, a :: stack, memory⟩ 3
      ⟨place + 1, (if a = 0 then 1 else 0) :: stack, memory⟩ :=
  goes_onward hop rfl hroom

theorem goes_callValue (hop : e.fetch place = some .callValue) (hroom : stack.length < stackLimit) :
    e.Goes ⟨place, stack, memory⟩ 2 ⟨place + 1, e.value :: stack, memory⟩ :=
  goes_onward hop rfl hroom

theorem goes_pop (hop : e.fetch place = some .pop) (hroom : stack.length ≤ stackLimit) :
    e.Goes ⟨place, a :: stack, memory⟩ 2 ⟨place + 1, stack, memory⟩ :=
  goes_onward hop rfl hroom

theorem goes_jumpDest (hop : e.fetch place = some .jumpDest) (hroom : stack.length ≤ stackLimit) :
    e.Goes ⟨place, stack, memory⟩ 1 ⟨place + 1, stack, memory⟩ :=
  goes_onward hop rfl hroom

theorem goes_store (hop : e.fetch place = some .store) (hroom : stack.length ≤ stackLimit) :
    e.Goes ⟨place, offset :: a :: stack, memory⟩ (3 + reachGas memory offset.toNat 32)
      ⟨place + 1, stack, put memory offset.toNat a.octets⟩ :=
  goes_onward hop rfl hroom

theorem goes_codeCopy (hop : e.fetch place = some .codeCopy) (hroom : stack.length ≤ stackLimit) :
    e.Goes ⟨place, dest :: offset :: size :: stack, memory⟩
      (3 + 3 * words size.toNat + reachGas memory dest.toNat size.toNat)
      ⟨place + 1, stack, put memory dest.toNat (e.copied offset size)⟩ :=
  goes_onward hop rfl hroom

theorem goes_past (hop : e.fetch place = some .jumpIf) (hroom : stack.length ≤ stackLimit) :
    e.Goes ⟨place, dest :: 0 :: stack, memory⟩ 10 ⟨place + 1, stack, memory⟩ :=
  goes_onward hop rfl hroom

theorem goes_jump (hop : e.fetch place = some .jumpIf) (ha : a ≠ 0)
    (hdest : isDest 0 e.code dest.toNat = true) :
    e.Goes ⟨place, dest :: a :: stack, memory⟩ 10 ⟨dest.toNat, stack, memory⟩ := by
  refine goes_of_step ((step_of_fetch hop).trans ?_)
  simp only [exec, if_neg ha, hdest, if_true]

theorem step_ret (hop : e.fetch place = some .ret) :
    e.step ⟨place, offset :: size :: stack, memory⟩ =
      .returned (reachGas memory offset.toNat size.toNat)
        (slice memory offset.toNat size.toNat) := step_of_fetch hop

theorem step_revert (hop : e.fetch place = some .revert) :
    e.step ⟨place, offset :: size :: stack, memory⟩ =
      .reverted (reachGas memory offset.toNat size.toNat)
        (slice memory offset.toNat size.toNat) := step_of_fetch hop

end

/-! ### What is in memory -/

section
variable {memory bs : Octets} {offset size : Nat}

theorem length_reach (h : size ≠ 0) : (reach memory offset size).length =
    max memory.length (32 * words (offset + size)) := by
  simp only [reach, if_neg h, List.length_append, List.length_replicate]
  omega

theorem le_length_reach (memory : Octets) (offset : Nat) (h : size ≠ 0) :
    offset + size ≤ (reach memory offset size).length := by
  rw [length_reach h, words]
  omega

theorem length_put (memory : Octets) (offset : Nat) (bs : Octets) :
    (put memory offset bs).length = (reach memory offset bs.length).length := by
  by_cases hempty : bs = []
  · simp [put, hempty, reach]
  · have hsize : bs.length ≠ 0 := fun h => hempty (List.length_eq_zero_iff.mp h)
    have hle := le_length_reach memory offset hsize
    simp only [put, List.length_append, List.length_take, List.length_drop]
    omega

theorem slice_put (memory : Octets) (offset : Nat) (bs : Octets) :
    slice (put memory offset bs) offset bs.length = bs := by
  by_cases hempty : bs = []
  · simp [slice, hempty]
  · have hsize : bs.length ≠ 0 := fun h => hempty (List.length_eq_zero_iff.mp h)
    have hle := le_length_reach memory offset hsize
    have hhead : ((reach memory offset bs.length).take offset).length = offset := by
      rw [List.length_take]
      omega
    rw [slice, reach, if_neg hsize, put, List.append_assoc, List.append_assoc,
      List.drop_left' hhead, List.take_left]

theorem reachGas_put (memory : Octets) (offset : Nat) (bs : Octets) :
    reachGas (put memory offset bs) offset bs.length = 0 := by
  by_cases hempty : bs = []
  · simp [reachGas, hempty, reach]
  · have hsize : bs.length ≠ 0 := fun h => hempty (List.length_eq_zero_iff.mp h)
    have hlength := length_put memory offset bs
    rw [length_reach hsize] at hlength
    have hreach : (reach (put memory offset bs) offset bs.length).length =
        (put memory offset bs).length := by
      rw [length_reach hsize]
      omega
    rw [reachGas, hreach, Nat.sub_self]

end
end Machine
end Inkwell
