import Inkwell.Wasm.Canonical
set_option autoImplicit false

/-! The number of data segments is looked at by four operations only, and by those it is needed. -/

namespace Inkwell.Wasm

def Context.counting (c : Context) (n : Option Nat) : Context := { c with dataCount := n }

namespace Context

variable (c : Context) (n : Option Nat)

@[simp] theorem counting_types : (c.counting n).types = c.types := rfl
@[simp] theorem counting_funcs : (c.counting n).funcs = c.funcs := rfl
@[simp] theorem counting_tables : (c.counting n).tables = c.tables := rfl
@[simp] theorem counting_memories : (c.counting n).memories = c.memories := rfl
@[simp] theorem counting_globals : (c.counting n).globals = c.globals := rfl
@[simp] theorem counting_tags : (c.counting n).tags = c.tags := rfl
@[simp] theorem counting_elements : (c.counting n).elements = c.elements := rfl
@[simp] theorem counting_declared : (c.counting n).declared = c.declared := rfl
@[simp] theorem counting_locals : (c.counting n).locals = c.locals := rfl
@[simp] theorem counting_results : (c.counting n).results = c.results := rfl

end Context

namespace Check

variable {α β : Type} (c : Context) (n : Option Nat)

/-! ### Steps of a check -/

@[simp] theorem run_read : (read : Check Context).run c = pure c := rfl

@[simp] theorem run_ite (p : Prop) [Decidable p] (x y : Check α) :
    (if p then x else y).run c = if p then x.run c else y.run c := by
  split <;> rfl

@[simp] theorem get_counting :
    (get : Check Scopes).run (c.counting n) = (get : Check Scopes).run c := rfl

@[simp] theorem modify_counting (f : Scopes → Scopes) :
    (modify f : Check PUnit).run (c.counting n) = (modify f : Check PUnit).run c := rfl

@[simp] theorem reject_counting :
    (reject : Check α).run (c.counting n) = (reject : Check α).run c := rfl

@[simp] theorem require_counting (b : Bool) :
    (require b).run (c.counting n) = (require b).run c := by
  cases b <;> rfl

@[simp] theorem given_counting (o : Option α) : (given o).run (c.counting n) = (given o).run c := by
  cases o <;> rfl

theorem forM_counting {f : β → Check Unit} {bs : List β}
    (h : ∀ b ∈ bs, (f b).run (c.counting n) = (f b).run c) :
    (bs.forM f).run (c.counting n) = (bs.forM f).run c := by
  induction bs with
  | nil => rfl
  | cons b bs ih =>
    obtain ⟨hb, hbs⟩ := List.forall_mem_cons.mp h
    have hrest := ih hbs
    simp only [List.forM_eq_forM] at hrest
    simp [hb, hrest]

theorem mapM_counting {f : α → Check β} (h : ∀ a, (f a).run (c.counting n) = (f a).run c)
    (as : List α) : (as.mapM f).run (c.counting n) = (as.mapM f).run c := by
  induction as with
  | nil => rfl
  | cons a as ih => simp [List.mapM_cons, h, ih]

/-! ### Operands and blocks -/

@[simp] theorem frame_counting : frame.run (c.counting n) = frame.run c := by
  simp [frame]

@[simp] theorem setFrame_counting (f : Frame) :
    (setFrame f).run (c.counting n) = (setFrame f).run c := by
  simp [setFrame]

@[simp] theorem pushOperand_counting (o : Operand) :
    (pushOperand o).run (c.counting n) = (pushOperand o).run c := by
  simp [pushOperand]

@[simp] theorem push_counting (t : ValType) : (push t).run (c.counting n) = (push t).run c := by
  simp [push]

@[simp] theorem pushAll_counting (ts : List ValType) :
    (pushAll ts).run (c.counting n) = (pushAll ts).run c := by
  exact forM_counting c n fun t _ => push_counting c n t

@[simp] theorem pushRef_counting (r : RefType) :
    (pushRef r).run (c.counting n) = (pushRef r).run c := by
  simp [pushRef]

@[simp] theorem popOperand_counting : popOperand.run (c.counting n) = popOperand.run c := by
  simp only [popOperand, ReaderT.run_bind, frame_counting]
  congr
  funext f
  split <;> simp

@[simp] theorem take_counting (t : ValType) : (take t).run (c.counting n) = (take t).run c := by
  simp [take]

@[simp] theorem pop_counting (t : ValType) : (pop t).run (c.counting n) = (pop t).run c := by
  simp [pop]

@[simp] theorem popAll_counting (ts : List ValType) :
    (popAll ts).run (c.counting n) = (popAll ts).run c := by
  exact forM_counting c n fun t _ => pop_counting c n t

@[simp] theorem popRef_counting (r : RefType) :
    (popRef r).run (c.counting n) = (popRef r).run c := by
  simp [popRef]

@[simp] theorem popAnyRef_counting : popAnyRef.run (c.counting n) = popAnyRef.run c := by
  simp only [popAnyRef, ReaderT.run_bind, popOperand_counting]
  congr
  funext o
  split <;> simp

@[simp] theorem recast_counting (ts : List ValType) :
    (recast ts).run (c.counting n) = (recast ts).run c := by
  simp [recast]

@[simp] theorem inspect_counting (ts : List ValType) :
    (inspect ts).run (c.counting n) = (inspect ts).run c := by
  have hpush (os : List Operand) : (forM os pushOperand).run (c.counting n) =
    (forM os pushOperand).run c := forM_counting c n fun o _ => pushOperand_counting c n o
  simp [inspect, mapM_counting c n (take_counting c n), hpush]

@[simp] theorem diverge_counting : diverge.run (c.counting n) = diverge.run c := by
  simp [diverge]

@[simp] theorem enter_counting (kind : FrameKind) (params results : List ValType) :
    (enter kind params results).run (c.counting n) = (enter kind params results).run c := by
  simp [enter]

@[simp] theorem leave_counting : leave.run (c.counting n) = leave.run c := by
  simp [leave]

@[simp] theorem label_counting (i : Nat) : (label i).run (c.counting n) = (label i).run c := by
  simp [label]

/-! ### What instructions look up -/

@[simp] theorem valOk_counting (t : ValType) : (valOk t).run (c.counting n) = (valOk t).run c := by
  simp [valOk]

@[simp] theorem funcType_counting (i : Nat) :
    (funcType i).run (c.counting n) = (funcType i).run c := by
  simp [funcType]

@[simp] theorem calleeType_counting (i : Nat) :
    (calleeType i).run (c.counting n) = (calleeType i).run c := by
  simp [calleeType]

@[simp] theorem table_counting (i : Nat) : (table i).run (c.counting n) = (table i).run c := by
  simp [table]

@[simp] theorem memoryWidth_counting (i : Nat) :
    (memoryWidth i).run (c.counting n) = (memoryWidth i).run c := by
  simp [memoryWidth]

@[simp] theorem blockType_counting (b : BlockType) :
    (blockType b).run (c.counting n) = (blockType b).run c := by
  cases b <;> simp [blockType]

@[simp] theorem access_counting (m : MemArg) (size : Nat) (exact : Bool) :
    (access m size exact).run (c.counting n) = (access m size exact).run c := by
  simp [access]

@[simp] theorem apply_counting (t : FuncType) : (apply t).run (c.counting n) = (apply t).run c := by
  simp [apply]

@[simp] theorem applyLast_counting (t : FuncType) :
    (applyLast t).run (c.counting n) = (applyLast t).run c := by
  simp [applyLast]

@[simp] theorem indirectType_counting (i j : Nat) :
    (indirectType i j).run (c.counting n) = (indirectType i j).run c := by
  simp [indirectType]

@[simp] theorem refOf_counting (i : Nat) (b : Bool) :
    (refOf i b).run (c.counting n) = (refOf i b).run c := by
  simp [refOf]

@[simp] theorem popConcrete_counting (i : Nat) :
    (popConcrete i).run (c.counting n) = (popConcrete i).run c := by
  simp [popConcrete]

@[simp] theorem pushConcrete_counting (i : Nat) :
    (pushConcrete i).run (c.counting n) = (pushConcrete i).run c := by
  simp [pushConcrete]

@[simp] theorem refCallType_counting (i : Nat) :
    (refCallType i).run (c.counting n) = (refCallType i).run c := by
  simp [refCallType]

@[simp] theorem popAbstract_counting (h : AbstractHeap) :
    (popAbstract h).run (c.counting n) = (popAbstract h).run c := by
  simp only [popAbstract, ReaderT.run_bind, take_counting]
  congr
  funext o
  split <;> simp

@[simp] theorem pushConverted_counting (r : Option RefType) (h : AbstractHeap) :
    (pushConverted r h).run (c.counting n) = (pushConverted r h).run c := by
  simp [pushConverted]

@[simp] theorem structFields_counting (i : Nat) :
    (structFields i).run (c.counting n) = (structFields i).run c := by
  simp only [structFields, ReaderT.run_bind, run_read, pure_bind, Context.counting_types]
  split <;> simp

@[simp] theorem structField_counting (i j : Nat) :
    (structField i j).run (c.counting n) = (structField i j).run c := by
  simp [structField]

@[simp] theorem arrayElement_counting (i : Nat) :
    (arrayElement i).run (c.counting n) = (arrayElement i).run c := by
  simp only [arrayElement, ReaderT.run_bind, run_read, pure_bind, Context.counting_types]
  split <;> simp

@[simp] theorem mutableElement_counting (i : Nat) :
    (mutableElement i).run (c.counting n) = (mutableElement i).run c := by
  simp [mutableElement]

@[simp] theorem elementSegment_counting (i : Nat) :
    (elementSegment i).run (c.counting n) = (elementSegment i).run c := by
  simp [elementSegment]

@[simp] theorem elementsFit_counting (f : FieldType) (i : Nat) :
    (elementsFit f i).run (c.counting n) = (elementsFit f i).run c := by
  simp [elementsFit]

@[simp] theorem isSet_counting (i : Nat) : (isSet i).run (c.counting n) = (isSet i).run c := by
  simp [isSet]

@[simp] theorem localType_counting (i : Nat) :
    (localType i).run (c.counting n) = (localType i).run c := by
  simp [localType]

@[simp] theorem setLocal_counting (i : Nat) :
    (setLocal i).run (c.counting n) = (setLocal i).run c := by
  simp [setLocal]

/-! ### Instructions of several steps -/

@[simp] theorem popTimes_counting (t : ValType) (k : Nat) :
    (popTimes t k).run (c.counting n) = (popTimes t k).run c := by
  induction k with
  | zero => rfl
  | succ k ih =>
    simp only [popTimes, ReaderT.run_bind, frame_counting]
    congr
    funext f
    split <;> simp [ih]

@[simp] theorem branchTable_counting (ts : List Nat) (d : Nat) :
    (branchTable ts d).run (c.counting n) = (branchTable ts d).run c := by
  simp only [branchTable, ReaderT.run_bind, pop_counting, label_counting, popAll_counting,
    diverge_counting]
  congr
  funext _
  congr
  funext last
  rw [forM_counting c n fun i _ => by simp]

@[simp] theorem labelEnd_counting (i : Nat) :
    (labelEnd i).run (c.counting n) = (labelEnd i).run c := by
  simp [labelEnd]

@[simp] theorem handler_counting (h : Handler) :
    (handler h).run (c.counting n) = (handler h).run c := by
  simp only [handler, ReaderT.run_bind, label_counting]
  congr
  funext target
  cases h.tag <;> simp

@[simp] theorem castTypes_counting (a : CastArg) :
    (castTypes a).run (c.counting n) = (castTypes a).run c := by
  simp [castTypes]

@[simp] theorem castBranch_counting (a : CastArg) (r s : RefType) :
    (castBranch a r s).run (c.counting n) = (castBranch a r s).run c := by
  simp [castBranch]

@[simp] theorem downcast_counting (h : HeapType) (b : Bool) :
    (downcast h b).run (c.counting n) = (downcast h b).run c := by
  simp [downcast]

@[simp] theorem select_counting : select.run (c.counting n) = select.run c := by
  simp only [select, ReaderT.run_bind, pop_counting, popOperand_counting]
  congr
  funext _
  congr
  funext o
  congr
  funext p
  split <;> simp

@[simp] theorem finish_counting : finish.run (c.counting n) = finish.run c := by
  simp [finish]

def readsData : Special → Bool
  | .memoryInit | .dataDrop | .arrayNewData | .arrayInitData => true
  | _ => false

theorem brOnNonNull_counting (arg : Immediate) :
    (special .brOnNonNull arg).run (c.counting n) = (special .brOnNonNull arg).run c := by
  cases arg with
  | index i =>
    simp only [special, ReaderT.run_bind, labelEnd_counting]
    congr
    funext p
    split <;> simp
  | _ => rfl

theorem refFunc_counting (arg : Immediate) :
    (special .refFunc arg).run (c.counting n) = (special .refFunc arg).run c := by
  cases arg with
  | index i =>
    simp only [special, ReaderT.run_bind, run_read, pure_bind, Context.counting_funcs,
      Context.counting_declared, given_counting, require_counting, pushRef_counting]
  | _ => rfl

theorem special_counting (s : Special) (arg : Immediate) (h : readsData s = false) :
    (special s arg).run (c.counting n) = (special s arg).run c := by
  by_cases hbranch : s = .brOnNonNull
  · exact hbranch ▸ brOnNonNull_counting c n arg
  by_cases hfunc : s = .refFunc
  · exact hfunc ▸ refFunc_counting c n arg
  have hhandlers (hs : List Handler) : (forM hs handler).run (c.counting n) =
    (forM hs handler).run c := forM_counting c n fun h _ => handler_counting c n h
  unfold special
  split
  all_goals first
    | contradiction
    | simp [hhandlers]

def isReader : Rule → Bool
  | .special s => readsData s
  | _ => false

theorem rule_counting (r : Rule) (arg : Immediate) (h : isReader r = false) :
    (rule r arg).run (c.counting n) = (rule r arg).run c := by
  by_cases hspecial : ∃ s, r = .special s
  · obtain ⟨s, rfl⟩ := hspecial
    exact special_counting c n s arg h
  · unfold rule
    split
    all_goals first
      | simp
      | exact absurd ⟨_, rfl⟩ hspecial

/-! ### Instructions -/

/-- Among all opcodes, the four are those of the operations that look at the number. -/
theorem pages_readers (page : Nat) : ∀ f ∈ Opcode.pages page, isReader f.rule = true →
    f.count = 1 ∧ Instruction.usesData ⟨⟨page, f.first⟩, .none⟩ = true := by
  unfold Opcode.pages
  split
  · decide
  · decide
  · decide
  · decide +kernel
  · decide +kernel
  · exact List.forall_mem_nil _

theorem usesData_of_reader {i : Instruction} {f : Family} (hf : i.op.family? = some f)
    (h : isReader f.rule = true) : i.usesData = true := by
  obtain ⟨hcount, huses⟩ := pages_readers i.op.page f (List.mem_of_find?_eq_some hf) h
  have hcode := List.find?_some hf
  simp only [hcount, Bool.and_eq_true, decide_eq_true_eq] at hcode
  have hop : i.op = ⟨i.op.page, f.first⟩ := by
    rw [show f.first = i.op.code by omega]
  rw [Instruction.usesData, hop]
  exact huses

theorem instruction_counting {i : Instruction} (h : i.usesData = false) :
    (instruction i).run (c.counting n) = (instruction i).run c := by
  simp only [instruction, ReaderT.run_bind, frame_counting, given_counting]
  congr
  funext _
  cases hf : i.op.family? with
  | none => rfl
  | some f =>
    have hreader : isReader f.rule = false := by
      cases hreads : isReader f.rule with
      | false => rfl
      | true => rw [← h, usesData_of_reader hf hreads]
    change (rule f.rule i.arg).run (c.counting n) = (rule f.rule i.arg).run c
    exact rule_counting c n f.rule i.arg hreader

/-! ### Where the number is needed -/

/-- A check that goes through only if the number is there. -/
def CountsData (x : Check α) : Prop :=
  ∀ ⦃c s r⦄, (x.run c).run s = some r → c.dataCount.isSome = true

variable {x : Check α} {k : α → Check β}

theorem CountsData.first (hx : CountsData x) : CountsData (x >>= k) := by
  intro c s r h
  obtain ⟨p, hp, -⟩ := Option.bind_eq_some_iff.mp h
  exact hx hp

theorem CountsData.after (hk : ∀ a, CountsData (k a)) : CountsData (x >>= k) := by
  intro c s r h
  obtain ⟨p, -, hp⟩ := Option.bind_eq_some_iff.mp h
  exact hk p.1 hp

theorem countsData_reject : CountsData (reject : Check α) := nofun

theorem countsData_segment (d : Nat) : CountsData (dataSegment d) := by
  intro c s r h
  cases hcount : c.dataCount with
  | none =>
    simp only [dataSegment, ReaderT.run_bind, run_read, pure_bind, hcount] at h
    cases h
  | some count => rfl

theorem countsData_special {s : Special} (arg : Immediate) (h : readsData s = true) :
    CountsData (special s arg) := by
  cases s with
  | memoryInit =>
    cases arg with
    | pair d i => exact .after fun _ => (countsData_segment d).first
    | _ => exact countsData_reject
  | dataDrop =>
    cases arg with
    | index d => exact countsData_segment d
    | _ => exact countsData_reject
  | arrayNewData =>
    cases arg with
    | pair type d => exact .after fun _ => .after fun _ => (countsData_segment d).first
    | _ => exact countsData_reject
  | arrayInitData =>
    cases arg with
    | pair type d => exact .after fun _ => .after fun _ => (countsData_segment d).first
    | _ => exact countsData_reject
  | _ => cases h

theorem special_of_usesData {i : Instruction} (h : i.usesData = true) :
    ∃ f s, i.op.family? = some f ∧ f.rule = .special s ∧ readsData s = true := by
  simp only [Instruction.usesData, List.mem_cons, List.not_mem_nil, or_false,
    decide_eq_true_eq] at h
  obtain h | h | h | h := h
  all_goals rw [h]
  · exact ⟨_, .memoryInit, rfl, rfl, rfl⟩
  · exact ⟨_, .dataDrop, rfl, rfl, rfl⟩
  · exact ⟨_, .arrayNewData, rfl, rfl, rfl⟩
  · exact ⟨_, .arrayInitData, rfl, rfl, rfl⟩

theorem countsData_instruction {i : Instruction} (h : i.usesData = true) :
    CountsData (instruction i) := by
  obtain ⟨f, s, hf, hrule, hs⟩ := special_of_usesData h
  refine .after fun _ => ?_
  rw [hf]
  change CountsData (rule f.rule i.arg)
  rw [hrule]
  exact countsData_special i.arg hs

theorem countsData_forM {code : List Instruction} (h : code.any Instruction.usesData = true) :
    CountsData (code.forM instruction) := by
  induction code with
  | nil => cases h
  | cons i code ih =>
    obtain hi | hcode := Bool.or_eq_true_iff.mp (List.any_cons ▸ h)
    · exact (countsData_instruction hi).first
    · exact .after fun _ => ih hcode

/-! ### Bodies and initializers -/

variable {code : List Instruction} {unset : List Nat}

theorem bodyOk_counting (h : code.any Instruction.usesData = false) :
    bodyOk (c.counting n) unset code = bodyOk c unset code := by
  have hcode : ∀ i ∈ code, i.usesData = false := by simpa using h
  have hrun := forM_counting c n fun i hi => instruction_counting c n (hcode i hi)
  simp only [bodyOk, hrun, Context.counting_results]

theorem dataCount_of_bodyOk {c : Context} (h : bodyOk c unset code = true)
    (huses : code.any Instruction.usesData = true) : c.dataCount.isSome = true := by
  simp only [bodyOk] at h
  split at h
  · next hrun => exact countsData_forM huses hrun
  · cases h

theorem constantOk_counting (i : Instruction) : constantOk (c.counting n) i = constantOk c i := by
  simp only [constantOk, Context.counting_globals]

theorem usesData_of_constant {i : Instruction} (h : constantOk c i = true) : i.usesData = false := by
  obtain ⟨hconstant, -⟩ := Bool.and_eq_true_iff.mp h
  cases huses : i.usesData with
  | false => rfl
  | true =>
    simp only [Instruction.usesData, List.mem_cons, List.not_mem_nil, or_false,
      decide_eq_true_eq] at huses
    obtain hop | hop | hop | hop := huses <;> rw [hop] at hconstant <;> cases hconstant

theorem initOk_counting (t : ValType) (init : Initializer) :
    initOk (c.counting n) t init = initOk c t init := by
  have hconstants : init.all (constantOk (c.counting n)) = init.all (constantOk c) :=
    congrArg init.all (funext (constantOk_counting c n))
  rw [initOk, initOk, hconstants]
  cases hall : init.all (constantOk c) with
  | false => rfl
  | true =>
    have huses : (init ++ [Instruction.finish]).any Instruction.usesData = false := by
      simp only [List.any_append, Bool.or_eq_false_iff]
      refine ⟨?_, by decide⟩
      simpa using fun i hi => usesData_of_constant c (List.all_eq_true.mp hall i hi)
    exact bodyOk_counting { c with results := [t], locals := #[] } n huses

end Check
end Inkwell.Wasm
