import AccumulatorMachine.Proofs.IntegerText
import AccumulatorMachine.Proofs.Jumps

/-!
# Division and comparison

Division and comparison are exact.  A quotient is truncated toward zero, and the only one
that does not fit in a word overflows.  A comparison gives the sign of a difference that
need not fit in a word itself.  The two look at their operands in opposite orders, and a
zero divisor is found before the dividend is looked at.

The sign goes to the accumulator as a text and is read again by the conditional jumps.  So
of the three jumps one is taken, and the order of the operands tells which.
-/

namespace AccumulatorMachine

/-! ## Quotients -/

/-- What is left of the dividend is smaller than the divisor and has no other sign than
the dividend. -/
def Truncates (dividend divisor quotient : Int) : Prop :=
  ∃ remainder, dividend = quotient * divisor + remainder ∧
    remainder.natAbs < divisor.natAbs ∧ (remainder = 0 ∨ remainder.sign = dividend.sign)

theorem nonneg_of_sign {remainder dividend : Int}
    (sameSign : remainder = 0 ∨ remainder.sign = dividend.sign) (nonneg : 0 ≤ dividend) :
    0 ≤ remainder := by
  rcases sameSign with rfl | same
  · exact Int.le_refl 0
  · rw [← Int.sign_nonneg_iff, same]
    exact Int.sign_nonneg_iff.mpr nonneg

theorem nonpos_of_sign {remainder dividend : Int}
    (sameSign : remainder = 0 ∨ remainder.sign = dividend.sign) (nonpos : dividend ≤ 0) :
    remainder ≤ 0 := by
  have negated := @nonneg_of_sign (-remainder) (-dividend)
    (by simpa [Int.sign_neg] using sameSign) (by omega)
  omega

theorem truncates_iff {dividend divisor quotient : Int} (nonzero : divisor ≠ 0) :
    Truncates dividend divisor quotient ↔ quotient = dividend.tdiv divisor := by
  constructor
  · rintro ⟨remainder, whole, small, sameSign⟩
    have swapped : remainder + divisor * quotient = dividend := by
      rw [whole, Int.mul_comm, Int.add_comm]
    by_cases nonneg : 0 ≤ dividend
    · have lower := nonneg_of_sign sameSign nonneg
      exact ((Int.tdiv_tmod_unique nonneg nonzero).mpr ⟨swapped, lower, by omega⟩).1.symm
    · have nonpos : dividend ≤ 0 := by omega
      have upper := nonpos_of_sign sameSign nonpos
      exact ((Int.tdiv_tmod_unique' nonpos nonzero).mpr ⟨swapped, by omega, upper⟩).1.symm
  · rintro rfl
    refine ⟨dividend.tmod divisor, (Int.tdiv_mul_add_tmod dividend divisor).symm, ?_, ?_⟩
    · rw [Int.natAbs_tmod]
      exact Nat.mod_lt _ (Int.natAbs_pos.mpr nonzero)
    · by_cases divides : divisor ∣ dividend
      · exact Or.inl (Int.tmod_eq_zero_of_dvd divides)
      · right
        rw [Int.sign_tmod, if_neg divides]

/-- The least word divided by minus one, which has no quotient in range. -/
def Unquotable (lhs rhs : Int32) : Prop :=
  lhs.toInt = -2 ^ 31 ∧ rhs.toInt = -1

theorem unquotable_iff {lhs rhs : Int32} :
    Unquotable lhs rhs ↔ lhs = Int32.minValue ∧ rhs = -1 := by
  rw [Unquotable, ← Int32.toInt_minValue, Int32.toInt_inj,
    show (-1 : Int) = (-1 : Int32).toInt from rfl, Int32.toInt_inj]

theorem toInt_div_of_quotable {lhs rhs : Int32} (quotable : ¬ Unquotable lhs rhs) :
    (lhs / rhs).toInt = lhs.toInt.tdiv rhs.toInt := by
  rw [unquotable_iff] at quotable
  by_cases least : lhs = Int32.minValue
  · exact Int32.toInt_div_of_ne_right lhs rhs fun minusOne => quotable ⟨least, minusOne⟩
  · exact Int32.toInt_div_of_ne_left lhs rhs least

namespace ArithOp

variable {lhs rhs : String} {l r : Int32}

theorem apply_div_of_divisor (read : Integer.read rhs = .ok r) (nonzero : r ≠ 0) :
    div.apply lhs rhs =
      (Integer.read lhs >>= fun l => quotient l r >>= fun q => .ok (some (wordText q))) := by
  rw [apply, read, ok_bind, if_neg nonzero]
  rfl

/-- What a division gives, by the order in which it looks at its operands. -/
structure DividesExactly (lhs rhs : String) : Prop where
  divisor : ∀ fault, Integer.read rhs = .error fault → div.apply lhs rhs = .error fault
  zero : Integer.read rhs = .ok 0 → div.apply lhs rhs = .ok none
  dividend : ∀ r fault, Integer.read rhs = .ok r → r ≠ 0 → Integer.read lhs = .error fault →
    div.apply lhs rhs = .error fault
  overflow : ∀ l r, Integer.read lhs = .ok l → Integer.read rhs = .ok r → r ≠ 0 →
    (div.apply lhs rhs = .error ⟨.overflow, none, ""⟩ ↔ Unquotable l r)
  quotient : ∀ l r, Integer.read lhs = .ok l → Integer.read rhs = .ok r → r ≠ 0 →
    ¬ Unquotable l r →
      ∃ word : Int32, div.apply lhs rhs = .ok (some (wordText word)) ∧
        ∀ q : Int, Truncates l.toInt r.toInt q ↔ q = word.toInt

theorem dividesExactly (lhs rhs : String) : DividesExactly lhs rhs where
  divisor fault unread := by
    rw [apply, unread]
    rfl
  zero read := by
    rw [apply, read]
    rfl
  dividend r fault read nonzero unread := by
    rw [apply_div_of_divisor read nonzero, unread]
    rfl
  overflow l r readLeft readRight nonzero := by
    rw [apply_div_of_divisor readRight nonzero, readLeft, ok_bind, ArithOp.quotient,
      unquotable_iff]
    by_cases limit : l = Int32.minValue ∧ r = -1
    · rw [if_pos limit]
      exact ⟨fun _ => limit, fun _ => rfl⟩
    · rw [if_neg limit]
      exact ⟨nofun, fun held => absurd held limit⟩
  quotient l r readLeft readRight nonzero quotable := by
    refine ⟨l / r, ?_, ?_⟩
    · rw [apply_div_of_divisor readRight nonzero, readLeft, ok_bind, ArithOp.quotient,
        if_neg (unquotable_iff.not.mp quotable)]
      rfl
    · intro q
      have divisorNonzero : r.toInt ≠ 0 := by
        rwa [← Int32.toInt_zero, Ne, Int32.toInt_inj]
      rw [truncates_iff divisorNonzero, toInt_div_of_quotable quotable]

/-! ## Signs -/

theorem sign_of_lt (less : l.toInt < r.toInt) : sign l r = -1 :=
  if_pos (Int32.lt_iff_toInt_lt.mpr less)

theorem sign_of_eq (same : l.toInt = r.toInt) : sign l r = 0 := by
  have notLess : ¬ l < r := by
    rw [Int32.lt_iff_toInt_lt]
    omega
  rw [sign, if_neg notLess, if_pos (Int32.toInt_inj.mp same)]

theorem sign_of_gt (greater : r.toInt < l.toInt) : sign l r = 1 := by
  have notLess : ¬ l < r := by
    rw [Int32.lt_iff_toInt_lt]
    omega
  have different : ¬ l = r := by
    rw [← Int32.toInt_inj]
    omega
  rw [sign, if_neg notLess, if_neg different]

theorem apply_cmp (readLeft : Integer.read lhs = .ok l) (readRight : Integer.read rhs = .ok r) :
    cmp.apply lhs rhs = .ok (some (wordText (sign l r))) := by
  rw [apply, readLeft, ok_bind, readRight]
  rfl

/-- What a comparison gives, by the order in which it looks at its operands. -/
structure ComparesExactly (lhs rhs : String) : Prop where
  left : ∀ fault, Integer.read lhs = .error fault → cmp.apply lhs rhs = .error fault
  right : ∀ l fault, Integer.read lhs = .ok l → Integer.read rhs = .error fault →
    cmp.apply lhs rhs = .error fault
  less : ∀ l r, Integer.read lhs = .ok l → Integer.read rhs = .ok r → l.toInt < r.toInt →
    cmp.apply lhs rhs = .ok (some "-1")
  equal : ∀ l r, Integer.read lhs = .ok l → Integer.read rhs = .ok r → l.toInt = r.toInt →
    cmp.apply lhs rhs = .ok (some "0")
  greater : ∀ l r, Integer.read lhs = .ok l → Integer.read rhs = .ok r → r.toInt < l.toInt →
    cmp.apply lhs rhs = .ok (some "1")

theorem comparesExactly (lhs rhs : String) : ComparesExactly lhs rhs where
  left fault unread := by
    rw [apply, unread]
    rfl
  right l fault read unread := by
    rw [apply, read, ok_bind, unread]
    rfl
  less l r readLeft readRight less := by
    rw [apply_cmp readLeft readRight, sign_of_lt less]
    rfl
  equal l r readLeft readRight same := by
    rw [apply_cmp readLeft readRight, sign_of_eq same]
    rfl
  greater l r readLeft readRight greater := by
    rw [apply_cmp readLeft readRight, sign_of_gt greater]
    rfl

end ArithOp

/-! ## Jumps after a comparison -/

namespace Condition

/-- How the operands of a comparison lie if the jump with this condition is taken. -/
def Compares : Condition → Int → Int → Prop
  | negative, l, r => l < r
  | zero, l, r => l = r
  | positive, l, r => r < l

instance : (condition : Condition) → (l r : Int) → Decidable (condition.Compares l r)
  | .zero, l, r => inferInstanceAs (Decidable (l = r))
  | .positive, l, r => inferInstanceAs (Decidable (r < l))
  | .negative, l, r => inferInstanceAs (Decidable (l < r))

theorem eq_of_compares {first second : Condition} {l r : Int} (held : first.Compares l r)
    (alsoHeld : second.Compares l r) : first = second := by
  cases first <;> cases second <;> grind [Compares]

theorem existsUnique_compares (l r : Int) :
    ∃! condition : Condition, condition.Compares l r := by
  rcases Int.lt_trichotomy l r with less | same | greater
  · exact ⟨.negative, less, fun _ held => eq_of_compares held less⟩
  · exact ⟨.zero, same, fun _ held => eq_of_compares held same⟩
  · exact ⟨.positive, greater, fun _ held => eq_of_compares held greater⟩

theorem holds_sign_iff (condition : Condition) (l r : Int32) :
    condition.holds (ArithOp.sign l r) = true ↔ condition.Compares l.toInt r.toInt := by
  rcases Int.lt_trichotomy l.toInt r.toInt with less | same | greater
  · rw [ArithOp.sign_of_lt less]
    cases condition with
    | negative => exact iff_of_true rfl less
    | zero => exact iff_of_false nofun (Int.ne_of_lt less)
    | positive => exact iff_of_false nofun (Int.lt_asymm less)
  · rw [ArithOp.sign_of_eq same]
    cases condition with
    | negative => exact iff_of_false nofun (Int.not_lt.mpr (Int.le_of_eq same.symm))
    | zero => exact iff_of_true rfl same
    | positive => exact iff_of_false nofun (Int.not_lt.mpr (Int.le_of_eq same))
  · rw [ArithOp.sign_of_gt greater]
    cases condition with
    | negative => exact iff_of_false nofun (Int.lt_asymm greater)
    | zero => exact iff_of_false nofun (Int.ne_of_gt greater)
    | positive => exact iff_of_true rfl greater

end Condition

namespace Machine

variable {machine : Machine} {address : Nat} {line : Line}

theorem AtLine.cycle_run_arith (atLine : machine.AtLine address line) {op : ArithOp}
    {token : String} (word : line.command = (Mnemonic.arith op).word)
    (given : line.tokens[1]? = some token) (log : Array Entry) :
    cycle.run ⟨machine, log⟩ =
      Bench.take ⟨machine, log⟩
        ((machine.perform (.arith op token)).mapError (·.atLine (address + 1))) := by
  rw [atLine.cycle_run word.symm]
  change Bench.take _ (Except.mapError _ ((line.operand 1 >>= _) >>= _)) = _
  rw [Line.operand_eq_ok_iff.mpr given]
  rfl

theorem perform_arith_of_error {op : ArithOp} {token : String} {fault : Fault}
    (failed : op.apply machine.accumulator (machine.resolve token) = .error fault) :
    machine.perform (.arith op token) = .error fault := by
  change (op.apply _ _ >>= _) = _
  rw [failed]
  rfl

theorem perform_arith_of_some {op : ArithOp} {token value : String}
    (computed : op.apply machine.accumulator (machine.resolve token) = .ok (some value)) :
    machine.perform (.arith op token) = .ok (.silent (machine.accumulate value)) := by
  change (op.apply _ _ >>= _) = _
  rw [computed]
  rfl

/-- A comparison that succeeds leaves the sign of the difference in the accumulator. -/
theorem AtLine.exists_of_cmp (atLine : machine.AtLine address line) {token : String}
    {log : Array Entry} {bench : Bench} (word : line.command = "cmp")
    (given : line.tokens[1]? = some token)
    (compared : cycle.run ⟨machine, log⟩ = .ok none bench) :
    ∃ l r, Integer.read machine.accumulator = .ok l ∧
      Integer.read (machine.resolve token) = .ok r ∧
      bench.machine.accumulator = wordText (ArithOp.sign l r) := by
  have exactly := ArithOp.comparesExactly machine.accumulator (machine.resolve token)
  have spelled : line.command = (Mnemonic.arith .cmp).word := word
  rw [atLine.cycle_run_arith spelled given] at compared
  cases readLeft : Integer.read machine.accumulator with
  | error fault =>
      rw [perform_arith_of_error (exactly.left fault readLeft)] at compared
      cases compared
  | ok l =>
      cases readRight : Integer.read (machine.resolve token) with
      | error fault =>
          rw [perform_arith_of_error (exactly.right l fault readLeft readRight)] at compared
          cases compared
      | ok r =>
          rw [perform_arith_of_some (ArithOp.apply_cmp readLeft readRight)] at compared
          cases compared
          exact ⟨l, r, rfl, rfl, rfl⟩

/-- A conditional jump at this accumulator is taken or not by how two integers lie. -/
def DecidesJumps (accumulator : String) (l r : Int) : Prop :=
  ∀ (jumper : Machine) (address : Nat) (jump : Line) (condition : Condition)
    (log : Array Entry),
    jumper.accumulator = accumulator → jumper.AtLine address jump →
    jump.command = (Mnemonic.branch condition).word →
      (condition.Compares l r →
        ∀ (target : String) (number : Int32),
          jump.tokens[1]? = some target → Integer.read target = .ok number →
            cycle.run ⟨jumper, log⟩ =
              .ok none ⟨{ jumper with counter := number.toInt - 1 }, log⟩) ∧
      (¬ condition.Compares l r →
        cycle.run ⟨jumper, log⟩ =
          .ok none ⟨{ jumper with counter := jumper.counter + 1 }, log⟩)

theorem decidesJumps_sign (l r : Int32) :
    DecidesJumps (wordText (ArithOp.sign l r)) l.toInt r.toInt := by
  intro jumper address jump condition log same atJump word
  -- The jump reads back the text that the comparison wrote.
  have readSign : Integer.read jumper.accumulator = .ok (ArithOp.sign l r) := by
    rw [same, Integer.read_wordText]
  have jumping : jump.command ∈ jumpWords := by
    rw [word]
    cases condition <;> decide
  have taken_iff : jumper.Taken jump.command ↔ condition.Compares l.toInt r.toInt := by
    rw [word, taken_branch_iff, readSign, ← condition.holds_sign_iff]
    simp
  constructor
  · intro held target number given read
    rw [atJump.cycle_run_of_taken jumping (taken_iff.mpr held), follow_of_token given, read]
    exact Bench.take_silent _ _
  · intro unheld
    exact atJump.cycle_run_of_untaken jumping readSign (taken_iff.not.mpr unheld) log

/-- Division and comparison are exact, and after a comparison that succeeds exactly one of
the three conditional jumps is taken, the one for how the operands lie. -/
theorem division_and_comparison_exact :
    (∀ lhs rhs : String, ArithOp.DividesExactly lhs rhs ∧ ArithOp.ComparesExactly lhs rhs) ∧
    ∀ (machine : Machine) (address : Nat) (line : Line) (token : String) (log : Array Entry)
      (bench : Bench),
      machine.AtLine address line → line.command = "cmp" → line.tokens[1]? = some token →
      cycle.run ⟨machine, log⟩ = .ok none bench →
        ∃ l r, Integer.read machine.accumulator = .ok l ∧
          Integer.read (machine.resolve token) = .ok r ∧
          (∃! condition : Condition, condition.Compares l.toInt r.toInt) ∧
          DecidesJumps bench.machine.accumulator l.toInt r.toInt := by
  constructor
  · intro lhs rhs
    exact ⟨ArithOp.dividesExactly lhs rhs, ArithOp.comparesExactly lhs rhs⟩
  · intro machine address line token log bench atLine word given compared
    obtain ⟨l, r, readLeft, readRight, left⟩ := atLine.exists_of_cmp word given compared
    rw [left]
    exact ⟨l, r, readLeft, readRight, Condition.existsUnique_compares _ _,
      decidesJumps_sign l r⟩

/-- A program that compares the least word with the greatest one. -/
def comparing : Program :=
  ⟨#[⟨["begin"]⟩, ⟨["ld", "-2147483648"]⟩, ⟨["cmp", "2147483647"]⟩, ⟨["jap", "1"]⟩,
    ⟨["jan", "9"]⟩]⟩

def comparingAfter (cycles : Nat) : Machine :=
  ((new.load comparing).execute cycles).machine

theorem division_and_comparison_exact_limits :
    ArithOp.div.apply "-2147483648" "-1" = .error ⟨.overflow, none, ""⟩ ∧
      (∃ word : Int32, ArithOp.div.apply "-7" "+2" = .ok (some (wordText word)) ∧
        word.toInt = -3) ∧
      (comparingAfter 2).AtLine 2 ⟨["cmp", "2147483647"]⟩ ∧
      cycle.run ⟨comparingAfter 3, #[]⟩ =
        .ok none ⟨{ comparingAfter 3 with counter := 4 }, #[]⟩ ∧
      cycle.run ⟨comparingAfter 4, #[]⟩ =
        .ok none ⟨{ comparingAfter 4 with counter := 8 }, #[]⟩ := by
  obtain ⟨exactly, jumps⟩ := division_and_comparison_exact
  obtain ⟨limit, _⟩ := exactly "-2147483648" "-1"
  obtain ⟨small, _⟩ := exactly "-7" "+2"
  have atCmp : (comparingAfter 2).AtLine 2 ⟨["cmp", "2147483647"]⟩ := ⟨rfl, rfl, rfl⟩
  have atJap : (comparingAfter 3).AtLine 3 ⟨["jap", "1"]⟩ := ⟨rfl, rfl, rfl⟩
  have atJan : (comparingAfter 4).AtLine 4 ⟨["jan", "9"]⟩ := ⟨rfl, rfl, rfl⟩
  have kept : (comparingAfter 4).accumulator = (comparingAfter 3).accumulator := rfl
  obtain ⟨l, r, readLeft, readRight, _, decided⟩ :=
    jumps (comparingAfter 2) 2 _ _ #[] ⟨comparingAfter 3, #[]⟩ atCmp rfl rfl rfl
  have least : Integer.read (comparingAfter 2).accumulator = .ok Int32.minValue := rfl
  have greatest : Integer.read ((comparingAfter 2).resolve "2147483647") =
      .ok Int32.maxValue := rfl
  cases readLeft.symm.trans least
  cases readRight.symm.trans greatest
  obtain ⟨word, computed, unique⟩ :=
    small.quotient (-7) 2 rfl rfl (by decide) (fun impossible => nomatch impossible.2)
  refine ⟨(limit.overflow Int32.minValue (-1) rfl rfl (by decide)).mpr ⟨rfl, rfl⟩,
    ⟨word, computed, ((unique (-3)).mp ⟨-1, rfl, by decide, Or.inr rfl⟩).symm⟩, atCmp, ?_, ?_⟩
  · exact (decided _ 3 _ .positive #[] rfl atJap rfl).2 (by decide)
  · exact (decided _ 4 _ .negative #[] kept atJan rfl).1 (by decide) _ 9 rfl rfl

end Machine

end AccumulatorMachine
