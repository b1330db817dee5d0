import Inkwell.Deploy
import Inkwell.Proofs.ProgramCalls
set_option autoImplicit false

/-! How code is known for a program. Calls and deployments ask for the discriminant alone, and unpacking
asks for the whole mark, dictionary included: the two part at programs with another dictionary. -/

namespace Inkwell

namespace Package

variable {code : Octets} {limit : Nat}

theorem isProgram_iff : isProgram code = true ↔ discriminant <+: code := List.isPrefixOf_iff_prefix

theorem mark_iff : mark <+: code ↔ ∃ rest, code = discriminant ++ rest ∧ rest.head? = some 0x00 := by
  constructor
  · rintro ⟨rest, rfl⟩
    exact ⟨0x00 :: rest, by simp [mark], rfl⟩
  · rintro ⟨rest, rfl, hrest⟩
    obtain ⟨rest, rfl⟩ := List.head?_eq_some_iff.mp hrest
    exact ⟨rest, by simp [mark]⟩

theorem body?_of_mark (h : mark <+: code) : body? code = .ok (code.drop mark.length) :=
  if_pos (List.isPrefixOf_iff_prefix.mpr h)

theorem body?_of_no_mark (h : ¬ mark <+: code) : body? code = .error .noMark :=
  if_neg fun hmark => h (List.isPrefixOf_iff_prefix.mp hmark)

theorem complete_ne_noMark (o : Brotli.Outcome) : complete o ≠ .error .noMark := by
  unfold complete
  cases o.fault <;> simp

theorem completeWithin_ne_noMark (o : Brotli.Outcome) : completeWithin limit o ≠ .error .noMark := by
  unfold completeWithin
  by_cases hlong : limit < o.delivered.length
  · rw [if_pos hlong]
    simp
  · rw [if_neg hlong]
    exact complete_ne_noMark o

theorem unpack_eq_noMark_iff : unpack code = .error .noMark ↔ ¬ mark <+: code := by
  unfold unpack
  by_cases hmark : mark <+: code
  · rw [body?_of_mark hmark]
    exact iff_of_false (complete_ne_noMark _) (not_not_intro hmark)
  · rw [body?_of_no_mark hmark]
    exact iff_of_true rfl hmark

theorem unpackWithin_eq_noMark_iff : unpackWithin limit code = .error .noMark ↔ ¬ mark <+: code := by
  unfold unpackWithin
  by_cases hmark : mark <+: code
  · rw [body?_of_mark hmark]
    exact iff_of_false (completeWithin_ne_noMark _) (not_not_intro hmark)
  · rw [body?_of_no_mark hmark]
    exact iff_of_true rfl hmark

theorem module?_eq_none_iff : module? limit code = .ok none ↔ ¬ discriminant <+: code := by
  unfold module?
  rw [← isProgram_iff]
  by_cases hprogram : isProgram code = true
  · rw [if_pos hprogram]
    cases unpackWithin limit code <;> simp [Except.map, hprogram]
  · rw [if_neg hprogram]
    simp [hprogram]

theorem module?_eq_noMark_iff :
    module? limit code = .error .noMark ↔ discriminant <+: code ∧ ¬ mark <+: code := by
  have hwithin : unpackWithin limit code = .error .noMark ↔ ¬ mark <+: code :=
    unpackWithin_eq_noMark_iff
  rw [← hwithin, ← isProgram_iff]
  unfold module?
  by_cases hprogram : isProgram code = true
  · rw [if_pos hprogram]
    cases unpackWithin limit code <;> simp [Except.map, hprogram]
  · rw [if_neg hprogram]
    simp [hprogram]

theorem mark_pack (wasm : Octets) : mark <+: pack wasm := List.prefix_append _ _

end Package

namespace Build

open Package

variable {b : Build} {code : Octets}

theorem code_package_iff : (⟨.package, code⟩ : Build).code = .ok code ↔ discriminant <+: code := by
  rw [← isProgram_iff]
  change (if isProgram code then _ else _) = _ ↔ _
  by_cases hprogram : isProgram code = true
  · rw [if_pos hprogram]
    exact iff_of_true rfl hprogram
  · rw [if_neg hprogram]
    exact iff_of_false (by simp) hprogram

theorem code_eq_ok_iff : b.code = .ok code ↔
    (b.kind = .module ∧ ∃ wasm, normalize b.octets = .ok wasm ∧ code = pack wasm) ∨
      (b.kind = .package ∧ discriminant <+: b.octets ∧ code = b.octets) := by
  obtain ⟨kind, octets⟩ := b
  cases kind with
  | module =>
    unfold Build.code
    cases normalize octets <;> simp [eq_comm]
  | package =>
    rw [← isProgram_iff]
    change (if isProgram octets then _ else _) = _ ↔ _
    by_cases hprogram : isProgram octets = true
    · rw [if_pos hprogram]
      simp [hprogram, eq_comm]
    · rw [if_neg hprogram]
      simp [hprogram]

/-- What is deployed and then refused for the mark is a package with another dictionary. -/
theorem refused_iff {limit : Nat} :
    (∃ code, b.code = .ok code ∧ module? limit code = .error .noMark) ↔
      b.kind = .package ∧ discriminant <+: b.octets ∧ ¬ mark <+: b.octets := by
  constructor
  · rintro ⟨code, hcode, hmodule⟩
    have hmark := (module?_eq_noMark_iff.mp hmodule).2
    rcases code_eq_ok_iff.mp hcode with ⟨-, wasm, -, rfl⟩ | ⟨hkind, hprogram, rfl⟩
    · exact absurd (mark_pack wasm) hmark
    · exact ⟨hkind, hprogram, hmark⟩
  · rintro ⟨hkind, hprogram, hmark⟩
    exact ⟨b.octets, code_eq_ok_iff.mpr (.inr ⟨hkind, hprogram, rfl⟩),
      module?_eq_noMark_iff.mpr ⟨hprogram, hmark⟩⟩

end Build

namespace Call

open Package

variable {w : World} {c : Call} {runner : Runner} {p : Params} {code : Octets}

theorem proceed_eq_none_iff (w : World) :
    ((proceed runner c p code (module? p.maxWasmSize.toNat code)).run w).1 = none ↔
      ¬ discriminant <+: code := by
  have hnone : module? p.maxWasmSize.toNat code = .ok none ↔ ¬ discriminant <+: code :=
    module?_eq_none_iff
  rw [← hnone]
  cases module? p.maxWasmSize.toNat code with
  | error e => exact iff_of_false (by simp [proceed]) (by simp)
  | ok wasm? =>
    cases wasm? with
    | none => exact iff_of_true rfl rfl
    | some wasm => exact iff_of_false (by simp [proceed]) (by simp)

/-- A call has no result where the code cannot be fetched, and where the code is no program and the
parameters can be told. -/
theorem run_eq_none_iff (runner : Runner) (c : Call) (w : World) :
    ((run runner c).run w).1 = none ↔
      (∃ f l, Fails (Ledger.holdCode c.codeAt) w.ledger f l) ∨
        (∃ p, (outcome State.params { ledger := w.ledger, frozen := true }).1 = .ok p) ∧
          ¬ discriminant <+: (w.ledger.account c.codeAt).code := by
  obtain ⟨l₁, hreads, hheld⟩ := World.outcome_reading
    (Access.keeps_onLedger (Ledger.keeps_holdCode (a := c.codeAt))) false
    { w with cache := w.cache.startBlock w.block.height }
  change outcome (World.onLedger (Ledger.holdCode c.codeAt)) _ = _ at hheld
  rw [Access.outcome_onLedger] at hheld
  dsimp only at hreads hheld
  unfold Fails
  rcases hcode : outcome (Ledger.holdCode c.codeAt) w.ledger with ⟨f | code, l⟩
  · rw [hcode] at hheld
    rw [run_of_unheld hheld]
    exact iff_of_true rfl (.inl ⟨_, _, rfl⟩)
  rw [hcode] at hheld
  have hcode' : code = (w.ledger.account c.codeAt).code := Ledger.gives_holdCode hcode
  obtain ⟨l₂, -, hparams⟩ := World.outcome_reading State.keeps_params true
    { w with ledger := l₁, cache := w.cache.startBlock w.block.height }
  have htold := (State.told_params ⟨w.ledger, none, true⟩ ⟨l₁, none, true⟩ hreads.tells rfl).1
  dsimp only at hparams htold
  rw [← htold] at hparams
  cases hp : (outcome State.params ⟨w.ledger, none, true⟩).1 with
  | error e =>
    rw [hp] at hparams
    rw [run_of_unread hheld hparams]
    simp
  | ok p =>
    rw [hp] at hparams
    rw [run_of_read hheld hparams, proceed_eq_none_iff, hcode']
    simp

end Call

/-- Code is a program by its discriminant: so calls tell, and so do deployments of packages. A call
of other code has no result, unless it fails to read the parameters, and a call of a program has one
whenever the code can be fetched. Unpacking asks for the dictionary too, so that a program with
another dictionary, or with none, is refused for the mark, though a deployment takes it. -/
theorem Package.told_by_discriminant (code : Octets) (limit : Nat) (b : Build) (runner : Runner)
    (c : Call) (w : World) :
    (isProgram code = true ↔ discriminant <+: code) ∧
    (module? limit code ≠ .ok none ↔ discriminant <+: code) ∧
    ((⟨.package, code⟩ : Build).code = .ok code ↔ discriminant <+: code) ∧
    (unpack code ≠ .error .noMark ↔ mark <+: code) ∧
    (module? limit code = .error .noMark ↔ discriminant <+: code ∧ ¬ mark <+: code) ∧
    (mark <+: code ↔ ∃ rest, code = discriminant ++ rest ∧ rest.head? = some 0x00) ∧
    ((∃ code, b.code = .ok code ∧ module? limit code = .error .noMark) ↔
      b.kind = .package ∧ discriminant <+: b.octets ∧ ¬ mark <+: b.octets) ∧
    (((c.run runner).run w).1 = none ↔
      (∃ f l, Fails (Ledger.holdCode c.codeAt) w.ledger f l) ∨
        (∃ p, (outcome State.params { ledger := w.ledger, frozen := true }).1 = .ok p) ∧
          ¬ discriminant <+: (w.ledger.account c.codeAt).code) := by
  refine ⟨isProgram_iff, ?_, Build.code_package_iff, ?_, module?_eq_noMark_iff, mark_iff,
    Build.refused_iff, Call.run_eq_none_iff runner c w⟩
  · rw [ne_eq, module?_eq_none_iff, not_not]
  · rw [ne_eq, unpack_eq_noMark_iff, not_not]

/-- A program with a dictionary of one is taken by deployments and claimed by calls, but is not
unpacked. -/
theorem Package.other_dictionary :
    let code : Octets := [0xef, 0xf0, 0x00, 0x01]
    ¬ mark <+: code ∧ isProgram code = true ∧ module? 1024 code ≠ .ok none ∧
      unpack code = .error .noMark ∧ module? 1024 code = .error .noMark ∧
      (⟨.package, code⟩ : Build).code = .ok code := by
  intro code
  have hmark : ¬ mark <+: code := by decide
  have hprogram : discriminant <+: code := by decide
  refine ⟨hmark, isProgram_iff.mpr hprogram, ?_, unpack_eq_noMark_iff.mpr hmark,
    module?_eq_noMark_iff.mpr ⟨hprogram, hmark⟩, Build.code_package_iff.mpr hprogram⟩
  rw [ne_eq, module?_eq_none_iff, not_not]
  exact hprogram

end Inkwell
