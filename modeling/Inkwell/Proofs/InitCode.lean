import Inkwell.Proofs.Creations
import Inkwell.Proofs.Machine
set_option autoImplicit false

/-! Init codes as they run. Whatever code one is made of, running it without value returns that code,
and running it with value reverts. So a deployment leaves the code that a creation would. -/

namespace Inkwell

namespace InitCode

open Machine

def header (n : Nat) : Octets := prologue ++ pushLength :: Octets.ofNat 2 n ++ epilogue

def machine (code : Octets) (value : Word) : Machine := ⟨header code.length ++ code, value⟩

variable {code init : Octets} {value : Word} {gas : Nat}

theorem ofCode_of_le (h : code.length ≤ maxLength) :
    ofCode code = .ok (header code.length ++ code) := by
  unfold ofCode ofCode?
  rw [if_pos h]
  rfl

theorem ofCode_of_lt (h : maxLength < code.length) :
    ofCode code = .error (.codeTooLarge code.length maxLength) := by
  unfold ofCode ofCode?
  rw [if_neg (Nat.not_le.mpr h)]

theorem eq_of_ofCode (h : ofCode code = .ok init) :
    code.length ≤ maxLength ∧ init = header code.length ++ code := by
  by_cases hlength : code.length ≤ maxLength
  · rw [ofCode_of_le hlength] at h
    exact ⟨hlength, (Except.ok.inj h).symm⟩
  · rw [ofCode_of_lt (Nat.not_le.mp hlength)] at h
    cases h

/-! ### The guard -/

def marked : Octets := put [] 0x40 (0x80 : Word).octets

theorem length_marked : marked.length = 96 := by decide

def guardGas : Nat := 29

theorem goes_guard (code : Octets) (value : Word) : (machine code value).Goes {} guardGas
    ⟨11, [0x10, if value = 0 then 1 else 0, value], marked⟩ := by
  -- Each step is named for the place in the code where it is made.
  have h₀ : (machine code value).Goes ⟨0, [], []⟩ 3 ⟨2, [0x80], []⟩ :=
    goes_push (w := 1) rfl rfl (by simp)
  have h₂ : (machine code value).Goes ⟨2, [0x80], []⟩ 3 ⟨4, [0x40, 0x80], []⟩ :=
    goes_push (w := 1) rfl rfl (by simp)
  have h₄ : (machine code value).Goes ⟨4, [0x40, 0x80], []⟩ 12 ⟨5, [], marked⟩ :=
    goes_store rfl (by simp)
  have h₅ : (machine code value).Goes ⟨5, [], marked⟩ 2 ⟨6, [value], marked⟩ :=
    goes_callValue rfl (by simp)
  have h₆ : (machine code value).Goes ⟨6, [value], marked⟩ 3 ⟨7, [value, value], marked⟩ :=
    goes_dup rfl rfl (by simp)
  have h₇ : (machine code value).Goes ⟨7, [value, value], marked⟩ 3
      ⟨8, [if value = 0 then 1 else 0, value], marked⟩ := goes_isZero rfl (by simp)
  have h₈ : (machine code value).Goes ⟨8, [if value = 0 then 1 else 0, value], marked⟩ 3
      ⟨11, [0x10, if value = 0 then 1 else 0, value], marked⟩ :=
    goes_push (w := 2) rfl rfl (by simp)
  exact (((((h₀.trans h₂).trans h₄).trans h₅).trans h₆).trans h₇).trans h₈

def revertGas : Nat := guardGas + 16

theorem run_of_value (code : Octets) (hvalue : value ≠ 0) (gas : Nat) :
    (machine code value).run gas {} =
      if revertGas ≤ gas then .reverted [] (gas - revertGas) else .failed := by
  have hguard := goes_guard code value
  rw [if_neg hvalue] at hguard
  have h₁₁ : (machine code value).Goes ⟨11, [0x10, 0, value], marked⟩ 10 ⟨12, [value], marked⟩ :=
    goes_past rfl (by simp)
  have h₁₂ : (machine code value).Goes ⟨12, [value], marked⟩ 3 ⟨14, [0, value], marked⟩ :=
    goes_push (w := 1) rfl rfl (by simp)
  have h₁₄ : (machine code value).Goes ⟨14, [0, value], marked⟩ 3 ⟨15, [0, 0, value], marked⟩ :=
    goes_dup rfl rfl (by simp)
  have hrevert : (machine code value).step ⟨15, [0, 0, value], marked⟩ = .reverted 0 [] :=
    (step_revert rfl).trans (by simp [reachGas, reach, slice])
  exact (((hguard.trans h₁₁).trans h₁₂).trans h₁₄).reverts hrevert gas

/-! ### The code -/

theorem drop_header (n : Nat) (code : Octets) : (header n ++ code).drop 32 = code := rfl

def lengthWord (code : Octets) : Word := BitVec.ofNat 256 code.length

theorem pushed_length (h : code.length ≤ maxLength) :
    (machine code value).pushed 18 2 = lengthWord code := by
  have hfits : code.length < 256 ^ 2 := Nat.lt_succ_of_le h
  have hpushed : (machine code value).pushed 18 2 =
      BitVec.ofNat 256 (Octets.toNat (Octets.ofNat 2 code.length)) := rfl
  rw [hpushed, Octets.toNat_ofNat, Nat.mod_eq_of_lt hfits, lengthWord]

theorem toNat_lengthWord (h : code.length ≤ maxLength) : (lengthWord code).toNat = code.length :=
  Nat.mod_eq_of_lt (h.trans_lt (by decide))

theorem copied_code (h : code.length ≤ maxLength) :
    (machine code value).copied 0x20 (lengthWord code) = code := by
  change Octets.padEnd (lengthWord code).toNat ((header code.length ++ code).drop 32) = code
  rw [drop_header, toNat_lengthWord h]
  simp [Octets.padEnd]

/-- What it costs to return code of this length: the memory up to its end, and a copy by the word. -/
def returnGas (n : Nat) : Nat :=
  60 + 3 * words n + (memoryGas (max 3 (words n)) - memoryGas 3)

theorem reachGas_marked (n : Nat) :
    reachGas marked 0 n = memoryGas (max 3 (words n)) - memoryGas 3 := by
  have hmarked : words marked.length = 3 := by
    rw [length_marked]
    rfl
  by_cases hzero : n = 0
  · subst hzero
    simp [reachGas, reach, words]
  · have hwords : words (reach marked 0 n).length = max 3 (words n) := by
      rw [length_reach hzero, length_marked, Nat.zero_add]
      unfold words
      omega
    rw [reachGas, hwords, hmarked]

theorem goes_body (code : Octets) :
    (machine code 0).Goes {} (guardGas + 13) ⟨18, [], marked⟩ := by
  have hguard := goes_guard code 0
  rw [if_pos rfl] at hguard
  have h₁₁ : (machine code 0).Goes ⟨11, [0x10, 1, 0], marked⟩ 10 ⟨16, [0], marked⟩ :=
    goes_jump rfl (by decide) rfl
  have h₁₆ : (machine code 0).Goes ⟨16, [0], marked⟩ 1 ⟨17, [0], marked⟩ :=
    goes_jumpDest rfl (by simp)
  have h₁₇ : (machine code 0).Goes ⟨17, [0], marked⟩ 2 ⟨18, [], marked⟩ :=
    goes_pop rfl (by simp)
  exact ((hguard.trans h₁₁).trans h₁₆).trans h₁₇

theorem goes_copy (h : code.length ≤ maxLength) : (machine code value).Goes ⟨18, [], marked⟩
    (18 + 3 * words code.length + reachGas marked 0 code.length)
    ⟨30, [0, lengthWord code], put marked 0 code⟩ := by
  have h₁₈ : (machine code value).Goes ⟨18, [], marked⟩ 3 ⟨21, [lengthWord code], marked⟩ :=
    goes_push (w := 2) rfl (pushed_length h) (by simp)
  have h₂₁ : (machine code value).Goes ⟨21, [lengthWord code], marked⟩ 3
      ⟨22, [lengthWord code, lengthWord code], marked⟩ := goes_dup rfl rfl (by simp)
  have h₂₂ : (machine code value).Goes ⟨22, [lengthWord code, lengthWord code], marked⟩ 3
      ⟨25, [0x20, lengthWord code, lengthWord code], marked⟩ :=
    goes_push (w := 2) rfl rfl (by simp)
  have h₂₅ : (machine code value).Goes ⟨25, [0x20, lengthWord code, lengthWord code], marked⟩ 3
      ⟨27, [0, 0x20, lengthWord code, lengthWord code], marked⟩ :=
    goes_push (w := 1) rfl rfl (by simp)
  have h₂₇ : (machine code value).Goes ⟨27, [0, 0x20, lengthWord code, lengthWord code], marked⟩
      (3 + 3 * words (lengthWord code).toNat + reachGas marked 0 (lengthWord code).toNat)
      ⟨28, [lengthWord code], put marked 0 ((machine code value).copied 0x20 (lengthWord code))⟩ :=
    goes_codeCopy rfl (by simp)
  rw [copied_code h, toNat_lengthWord h] at h₂₇
  have h₂₈ : (machine code value).Goes ⟨28, [lengthWord code], put marked 0 code⟩ 3
      ⟨30, [0, lengthWord code], put marked 0 code⟩ :=
    goes_push (w := 1) rfl rfl (by simp)
  have hgoes := ((((h₁₈.trans h₂₁).trans h₂₂).trans h₂₅).trans h₂₇).trans h₂₈
  have hcost : 3 + 3 + 3 + 3 + (3 + 3 * words code.length + reachGas marked 0 code.length) + 3 =
      18 + 3 * words code.length + reachGas marked 0 code.length := by omega
  rwa [hcost] at hgoes

/-- Without value the code is copied and returned. -/
theorem run_of_code (hlength : code.length ≤ maxLength) (gas : Nat) :
    (machine code 0).run gas {} = if returnGas code.length ≤ gas
      then .returned code (gas - returnGas code.length) else .failed := by
  have hret : (machine code 0).step ⟨30, [0, lengthWord code], put marked 0 code⟩ =
      .returned 0 code := by
    rw [step_ret rfl, toNat_lengthWord hlength]
    exact congrArg₂ Step.returned (reachGas_put marked 0 code) (slice_put marked 0 code)
  have hcost : guardGas + 13 + (18 + 3 * words code.length + reachGas marked 0 code.length) + 0 =
      returnGas code.length := by
    rw [reachGas_marked]
    unfold guardGas returnGas
    omega
  have hreturned := ((goes_body code).trans (goes_copy hlength)).returns hret gas
  rwa [hcost] at hreturned

end InitCode

/-! ### Creations -/

namespace Machine

def depositGas : Nat := 200

/-- The code that a creation leaves: what its init code returns, if that is not too long and can be
paid for. It may start with any byte, as it has to where accounts keep programs. -/
def created? (limit gas : Nat) (init : Octets) (value : Word) : Option Octets :=
  match (Machine.mk init value).run gas {} with
  | .returned code left =>
    if code.length ≤ limit ∧ depositGas * code.length ≤ left then some code else none
  | _ => none

end Machine

namespace InitCode

open Machine

variable {code init : Octets} {value : Word} {limit gas : Nat}

def createGas (n : Nat) : Nat := returnGas n + depositGas * n

theorem created_of_ofCode (h : ofCode code = .ok init) (hlimit : code.length ≤ limit)
    (hgas : createGas code.length ≤ gas) : created? limit gas init 0 = some code := by
  obtain ⟨hlength, rfl⟩ := eq_of_ofCode h
  unfold createGas at hgas
  have hrun : Machine.run ⟨header code.length ++ code, 0⟩ gas {} =
      .returned code (gas - returnGas code.length) :=
    (run_of_code hlength gas).trans (if_pos (by omega))
  unfold created?
  rw [hrun]
  exact if_pos ⟨hlimit, by omega⟩

end InitCode

namespace Deploy

variable {w w' : World} {r : DeployRequest} {maker address : Address} {code : Octets}
  {runner : Runner}

/-- Nothing that comes behind the code being written takes it back. -/
theorem code_of_install {u : Unit} (h : Gives (install runner r maker address code) w u w') :
    (w'.ledger.account address).code = code := by
  obtain ⟨u₁, w₁, hmade, h⟩ := gives_bind.mp h
  obtain ⟨u₂, w₂, hcode, h⟩ := gives_bind.mp h
  obtain ⟨u₃, w₃, hbegun, h⟩ := gives_bind.mp h
  obtain ⟨l₁, -, rfl⟩ := gives_onLedger hmade
  obtain ⟨l₂, h₂, rfl⟩ := gives_onLedger hcode
  obtain ⟨l₃, h₃, rfl⟩ := gives_onLedger hbegun
  have hcodes : l₂.codes = l₃.codes := Ledger.codes_bumpNonce.of_gives h₃
  have hwritten : (l₃.account address).code = code :=
    (congrFun hcodes address).symm.trans (Ledger.gives_setCode h₂)
  exact ((finishes_of_gives h).same address).1.trans hwritten

/-- A deployment that gives an address leaves the code there that its init code was made of. -/
theorem code_of_deploy (h : Gives (deploy runner r) w address w') :
    ∃ init, r.build.code = .ok (w'.ledger.account address).code ∧
      InitCode.ofCode (w'.ledger.account address).code = .ok init ∧
      (w'.ledger.account address).code.length ≤ w.config.chain.maxCodeSize := by
  obtain ⟨code, init, hsteps⟩ := steps_of_gives h
  obtain ⟨l, -, hinstall⟩ := hsteps.installed
  rw [code_of_install hinstall]
  exact ⟨init, hsteps.built, hsteps.wrapped, hsteps.limit⟩

/-- There is an init code for whatever is not too long for it. Running it returns the code that it was
made of if no value comes with it, and reverts if some does, and for want of gas it fails. So what a
deployment writes is the code that a creation with the init code of the same build leaves. -/
theorem installed_as_created :
    (∀ code : Octets, code.length ≤ 65535 → ∃ init, InitCode.ofCode code = .ok init ∧
      (∀ gas, (Machine.mk init 0).run gas {} = if InitCode.returnGas code.length ≤ gas
        then .returned code (gas - InitCode.returnGas code.length) else .failed) ∧
      ∀ value ≠ 0, ∀ gas, (Machine.mk init value).run gas {} = if InitCode.revertGas ≤ gas
        then .reverted [] (gas - InitCode.revertGas) else .failed) ∧
    (∀ code : Octets, 65535 < code.length →
      InitCode.ofCode code = .error (.codeTooLarge code.length 65535)) ∧
    ∀ (runner : Runner) (r : DeployRequest) (w : World) (address : Address) (w' : World),
      Gives (deploy runner r) w address w' → ∃ init, r.build.initCode = .ok init ∧
        ∀ gas, InitCode.createGas (w'.ledger.account address).code.length ≤ gas →
          Machine.created? w.config.chain.maxCodeSize gas init 0 =
            some (w'.ledger.account address).code := by
  refine ⟨fun code hlength => ⟨_, InitCode.ofCode_of_le hlength, ?_, ?_⟩,
    fun code hlength => InitCode.ofCode_of_lt hlength, fun runner r w address w' h => ?_⟩
  · exact fun gas => InitCode.run_of_code hlength gas
  · exact fun value hvalue gas => InitCode.run_of_value code hvalue gas
  · obtain ⟨init, hbuild, hinit, hlimit⟩ := code_of_deploy h
    refine ⟨init, ?_, fun gas hgas => InitCode.created_of_ofCode hinit hlimit hgas⟩
    unfold Build.initCode
    rw [hbuild]
    exact hinit

/-- Account two deploys the small package, for which there is nothing to run. -/
def plainDeploy : DeployRequest where
  build := ⟨.package, smallPackage⟩
  caller := 2

theorem gives_plainDeploy :
    ∃ w', Gives (deploy World.quiet plainDeploy) (World.furnished 2) World.crowded w' := by
  have hempty : (World.furnished 2).ledger.account World.crowded = {} := by
    rw [World.account_furnished, if_neg (by decide), if_neg (by decide)]
  have hnonce : ((World.furnished 2).ledger.account 2).nonce = 0 := by
    rw [World.account_furnished, if_neg (by decide), if_pos rfl]
  have hbuild : plainDeploy.build.code = .ok smallPackage := by
    have hprogram : Package.isProgram smallPackage := by decide +kernel
    change (if Package.isProgram smallPackage then Except.ok smallPackage else .error .noMark) = _
    exact if_pos hprogram
  have hinit : InitCode.ofCode smallPackage =
      .ok (InitCode.header smallPackage.length ++ smallPackage) :=
    InitCode.ofCode_of_le (by decide +kernel)
  have hdue : World.crowded = dueAddress plainDeploy (creator (World.furnished 2) plainDeploy)
      ((World.furnished 2).ledger.account (creator (World.furnished 2) plainDeploy)).nonce
      (InitCode.header smallPackage.length ++ smallPackage) := by
    change World.crowded = Address.created 2 ((World.furnished 2).ledger.account 2).nonce
    rw [hnonce, World.created_crowded]
  have hplaced : ¬ (plainDeploy.constructorArgs.isSome ∨ plainDeploy.value ≠ 0) := by decide
  refine deploy_of_free (World.healthy_furnished 2) hbuild hinit (by decide +kernel) hdue
    (by rw [hempty]; exact ⟨rfl, rfl⟩) fun l _ _ _ => ⟨{ World.furnished 2 with ledger := l }, ?_⟩
  rw [if_neg hplaced]
  exact gives_pure.mpr ⟨rfl, rfl⟩

/-- The small package is deployed, and its init code returns it for less than a thousand gas. -/
theorem installed_as_created_plain : smallPackage.length ≤ 65535 ∧ (1 : Word) ≠ 0 ∧
    (∃ init, InitCode.ofCode smallPackage = .ok init ∧ (Machine.mk init 0).run 1000 {} =
        .returned smallPackage (1000 - InitCode.returnGas smallPackage.length) ∧
      (Machine.mk init 1).run 1000 {} = .reverted [] 955) ∧
    InitCode.ofCode (List.replicate 65536 0) = .error (.codeTooLarge 65536 65535) ∧
    ∃ w' init gas, Gives (deploy World.quiet plainDeploy) (World.furnished 2) World.crowded w' ∧
      plainDeploy.build.initCode = .ok init ∧
      Machine.created? (World.furnished 2).config.chain.maxCodeSize gas init 0 =
        some (w'.ledger.account World.crowded).code := by
  have hlength : smallPackage.length ≤ 65535 := by decide +kernel
  have hlong : (List.replicate 65536 (0 : UInt8)).length = 65536 := List.length_replicate
  obtain ⟨hruns, hfails, hleaves⟩ := installed_as_created
  obtain ⟨init, hinit, hreturns, hreverts⟩ := hruns smallPackage hlength
  obtain ⟨w', hgives⟩ := gives_plainDeploy
  obtain ⟨init', hinit', hcreated⟩ := hleaves _ _ _ _ _ hgives
  have hfailed := hfails (List.replicate 65536 0) (by rw [hlong]; decide)
  rw [hlong] at hfailed
  exact ⟨hlength, by decide, ⟨init, hinit,
    (hreturns 1000).trans (if_pos (by decide +kernel)),
    (hreverts 1 (by decide) 1000).trans (if_pos (by decide))⟩, hfailed, w', init', _, hgives, hinit',
    hcreated _ (Nat.le_refl _)⟩

end Deploy
end Inkwell
